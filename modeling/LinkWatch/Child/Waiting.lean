import LinkWatch.Child.Ending
import LinkWatch.Fault
import LinkWatch.Text.Utf8

/-!
# Waiting for a program

A program is started and watched until it ends or its time is up. It is polled again and again; a
reader collects what it writes and delivers all of it once nobody can write any more. The limit
holds for both: a program that ended in time may have left another that keeps the output open.

Times are nanoseconds since the start. What the system will say is a schedule: the list of what
each poll finds, and what the reader delivers. `await` follows a schedule to its result and notes
what was done to the program on the way.
-/

namespace LinkWatch.Child

/-- What a poll of a program finds. -/
inductive Observation where
  | running
  | ended (how : Ending)
  | failed (cause : IoCause)
  deriving DecidableEq, Repr

/-- A poll, and the time since the start when it is judged. -/
structure Poll where
  elapsed : Nat
  seen : Observation
  deriving DecidableEq, Repr

/-- What the reader of a program's output delivers, and when. -/
inductive Delivery where
  | output (time : Nat) (bytes : List UInt8)
  | failed (time : Nat) (cause : IoCause)
  /-- The reader is gone and will never deliver. -/
  | lost (time : Nat)
  | never
  deriving DecidableEq, Repr

/-- Something done to a program that was started. -/
inductive Act where
  | poll (p : Poll)
  | kill
  | wait
  deriving DecidableEq, Repr

/-- What waiting came to, and all that was done to the program. -/
structure Outcome where
  result : Except Fault String
  acts : List Act

/-- The fault of a program that took too long. -/
def timedOut (program : String) (limit : Nat) : Fault :=
  .command (program ++ " timed out after " ++ toString (limit / 1000000) ++ " ms")

/-- The fault of a program that ended without success. -/
def endedBadly (program : String) (how : Ending) : Fault :=
  .command (program ++ " exited with " ++ how.words)

/-- The fault of a program whose reader is gone. -/
def readerLost (program : String) : Fault :=
  .other (program ++ " stdout reader panicked")

/-- What a program wrote, if it is delivered by the deadline. -/
def collect (program : String) (limit deadline : Nat) : Delivery → Except Fault String
  | .output time bytes =>
    if time ≤ deadline then .ok (Text.decodeLossy bytes) else .error (timedOut program limit)
  | .failed time cause =>
    if time ≤ deadline then .error (.io cause) else .error (timedOut program limit)
  | .lost time =>
    if time ≤ deadline then .error (readerLost program) else .error (timedOut program limit)
  | .never => .error (timedOut program limit)

/-- The result for a program that was seen to have ended. The reader has what is left of the
limit; when nothing is left, what is already delivered still counts. -/
def conclude (program : String) (limit elapsed : Nat) (delivery : Delivery) (how : Ending) :
    Except Fault String :=
  if how.succeeded then collect program limit (max elapsed limit) delivery
  else .error (endedBadly program how)

/-- Follows a schedule of polls. Nothing is concluded from a schedule that stops before the
program has ended, failed or run out of time. -/
def await (program : String) (limit : Nat) (delivery : Delivery) : List Poll → Option Outcome
  | [] => none
  | p :: later =>
    match p.seen with
    | .ended how => some ⟨conclude program limit p.elapsed delivery how, [.poll p]⟩
    | .failed cause => some ⟨.error (.io cause), [.poll p, .kill, .wait]⟩
    | .running =>
      if limit ≤ p.elapsed then some ⟨.error (timedOut program limit), [.poll p, .kill, .wait]⟩
      else (await program limit delivery later).map fun o => { o with acts := .poll p :: o.acts }

/-! ## Schedules of programs whose course is known -/

/-- The course of a program: when and how it ends, what it writes, and when its output is closed
for good. -/
structure Course where
  time : Nat
  ending : Ending
  output : List UInt8
  closed : Nat

/-- The time between two polls. -/
def pollSpacing : Nat := 5000000

/-- What a poll at a time finds. -/
def Course.observe (c : Course) (time : Nat) : Observation :=
  if c.time ≤ time then .ended c.ending else .running

/-- The number of polls that run before a time. -/
def pollsBefore (time : Nat) : Nat :=
  (time + pollSpacing - 1) / pollSpacing

/-- The polls of a course, up to the one that settles it. -/
def Course.polls (c : Course) (limit : Nat) : List Poll :=
  (List.range (pollsBefore (min c.time limit) + 1)).map fun i =>
    ⟨i * pollSpacing, c.observe (i * pollSpacing)⟩

/-- What the reader delivers of a course. -/
def Course.delivery (c : Course) : Delivery :=
  .output c.closed c.output

/-- Waiting comes to a result if some poll finds the program ended or out of time. -/
theorem await_isSome {program : String} {limit : Nat} {delivery : Delivery} {polls : List Poll}
    {p : Poll} (hp : p ∈ polls) (h : p.seen = .running → limit ≤ p.elapsed) :
    (await program limit delivery polls).isSome := by
  induction polls with
  | nil => cases hp
  | cons q later ih =>
    unfold await
    split
    · rfl
    · rfl
    · next hq =>
      split
      · rfl
      · next hlate =>
        rcases List.mem_cons.1 hp with rfl | hp
        · exact absurd (h hq) hlate
        · simpa using ih hp

/-- So many polls reach up to the time. -/
theorem le_pollsBefore_mul (time : Nat) : time ≤ pollsBefore time * pollSpacing := by
  simp only [pollsBefore, pollSpacing]
  omega

/-- The polls of a course settle it. -/
theorem Course.await_polls_isSome (c : Course) (program : String) (limit : Nat) :
    (await program limit c.delivery (c.polls limit)).isSome := by
  have hle := le_pollsBefore_mul (min c.time limit)
  refine await_isSome (List.mem_map.2
    ⟨pollsBefore (min c.time limit), List.mem_range.2 (Nat.lt_succ_self _), rfl⟩) fun hrun => ?_
  simp only [Course.observe] at hrun
  split at hrun
  · cases hrun
  · simp only at hle ⊢
    omega

/-- Waits for a program whose course is known. -/
def Course.outcome (c : Course) (program : String) (limit : Nat) : Outcome :=
  (await program limit c.delivery (c.polls limit)).get (c.await_polls_isSome program limit)

/-! ## Programs that are started -/

/-- A way of starting programs: the course of a program with its arguments, or why it cannot be
started. What programs do is their own affair, and nothing else is known about them here. -/
abbrev Starter := String → List String → Except OsError Course

/-- Nanoseconds of so many milliseconds. -/
def nanoseconds (milliseconds : Nat) : Nat :=
  milliseconds * 1000000

/-- The output of a program that has so many milliseconds. A name or an argument with a zero byte
cannot be handed over. -/
def outputWithin (start : Starter) (milliseconds : Nat) (program : String)
    (arguments : List String) : Except Fault String :=
  if (program :: arguments).any (·.toList.contains '\x00') then .error (.io .nulByte)
  else
    match start program arguments with
    | .error e => .error (.ofSystem e)
    | .ok course =>
      let limit := nanoseconds milliseconds
      (course.outcome program limit).result

/-- The text in which the system shows its proxy dictionary, if the program that shows it can be
started and ends in time. Whatever goes wrong with it counts as no answer. -/
def queryDictionary (start : Starter) (milliseconds : Nat) : Option String :=
  (outputWithin start milliseconds "scutil" ["--proxy"]).toOption

end LinkWatch.Child
