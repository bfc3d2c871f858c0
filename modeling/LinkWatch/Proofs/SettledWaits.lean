import LinkWatch.Child.Waiting
import Mathlib.Data.List.Basic

/-!
# What settles a wait

A wait goes on as long as its polls find the program running with time left. The first other poll
settles it. Nothing is polled after that one; by then the program has been seen to have ended, or it
is killed and waited for. A wait gives the output only of a program that was seen to end in success,
and only if the reader delivers all of it before that poll or in what is left of the limit.
-/

namespace LinkWatch.Child

/-! ## Polls -/

/-- A poll that finds the program running with time left. -/
structure Poll.IsPending (limit : Nat) (p : Poll) : Prop where
  seen : p.seen = .running
  early : p.elapsed < limit

/-- A poll that finds the program running when its time is up. -/
structure Poll.IsOverdue (limit : Nat) (p : Poll) : Prop where
  seen : p.seen = .running
  late : limit ≤ p.elapsed

instance (limit : Nat) (p : Poll) : Decidable (p.IsPending limit) :=
  decidable_of_iff (p.seen = .running ∧ p.elapsed < limit)
    ⟨fun ⟨hseen, hearly⟩ => ⟨hseen, hearly⟩, fun ⟨hseen, hearly⟩ => ⟨hseen, hearly⟩⟩

instance (limit : Nat) (p : Poll) : Decidable (p.IsOverdue limit) :=
  decidable_of_iff (p.seen = .running ∧ limit ≤ p.elapsed)
    ⟨fun ⟨hseen, hlate⟩ => ⟨hseen, hlate⟩, fun ⟨hseen, hlate⟩ => ⟨hseen, hlate⟩⟩

/-- Pending polls are those that find no end and no fault, and are not overdue. -/
theorem isPending_iff {limit : Nat} {p : Poll} :
    p.IsPending limit ↔
      (∀ how, p.seen ≠ .ended how) ∧ (∀ cause, p.seen ≠ .failed cause) ∧ ¬ p.IsOverdue limit := by
  constructor
  · rintro ⟨hseen, hearly⟩
    refine ⟨fun how hended => ?_, fun cause hfailed => ?_, fun hoverdue => ?_⟩
    · rw [hseen] at hended
      cases hended
    · rw [hseen] at hfailed
      cases hfailed
    · have hlate := hoverdue.late
      omega
  · rintro ⟨hended, hfailed, hoverdue⟩
    cases hseen : p.seen with
    | ended how => exact absurd hseen (hended how)
    | failed cause => exact absurd hseen (hfailed cause)
    | running => exact ⟨hseen, Nat.lt_of_not_le fun hlate => hoverdue ⟨hseen, hlate⟩⟩

theorem not_isPending_of_ended {limit : Nat} {p : Poll} {how : Ending} (h : p.seen = .ended how) :
    ¬ p.IsPending limit :=
  fun hpending => (isPending_iff.1 hpending).1 how h

theorem not_isPending_of_failed {limit : Nat} {p : Poll} {cause : IoCause}
    (h : p.seen = .failed cause) : ¬ p.IsPending limit :=
  fun hpending => (isPending_iff.1 hpending).2.1 cause h

/-- A poll beyond the limit is not pending. -/
theorem not_isPending_of_isOverdue {limit : Nat} {p : Poll} (h : p.IsOverdue limit) :
    ¬ p.IsPending limit :=
  fun hpending => (isPending_iff.1 hpending).2.2 h

/-- In a schedule, the first poll that is not pending, with the polls before it. -/
structure SettledBy (limit : Nat) (polls earlier : List Poll) (p : Poll) : Prop where
  begins : earlier ++ [p] <+: polls
  pending : ∀ q ∈ earlier, q.IsPending limit
  settles : ¬ p.IsPending limit

/-- A pending poll before the others changes nothing about which one settles. -/
theorem settledBy_cons {limit : Nat} {polls earlier : List Poll} {p q : Poll}
    (h : SettledBy limit polls earlier p) (hq : q.IsPending limit) :
    SettledBy limit (q :: polls) (q :: earlier) p where
  begins := List.cons_prefix_cons.2 ⟨rfl, h.begins⟩
  pending := List.forall_mem_cons.2 ⟨hq, h.pending⟩
  settles := h.settles

/-- A schedule is settled as soon as one of its polls is not pending. -/
theorem exists_settledBy {limit : Nat} {polls : List Poll}
    (h : ∃ p ∈ polls, ¬ p.IsPending limit) : ∃ earlier p, SettledBy limit polls earlier p := by
  obtain ⟨p, hmem, hp⟩ := h
  induction polls with
  | nil => cases hmem
  | cons q later ih =>
    by_cases hq : q.IsPending limit
    · rcases List.mem_cons.1 hmem with rfl | hmem
      · exact absurd hq hp
      · obtain ⟨earlier, first, hfirst⟩ := ih hmem
        exact ⟨q :: earlier, first, settledBy_cons hfirst hq⟩
    · exact ⟨[], q, List.cons_prefix_cons.2 ⟨rfl, List.nil_prefix⟩,
        fun r hr => absurd hr List.not_mem_nil, hq⟩

/-! ## From poll to poll -/

section Await

variable {program : String} {limit : Nat} {delivery : Delivery}

/-- The result of a wait that a poll settles. -/
def verdict (program : String) (limit : Nat) (delivery : Delivery) (p : Poll) :
    Except Fault String :=
  match p.seen with
  | .ended how => conclude program limit p.elapsed delivery how
  | .failed cause => .error (.io cause)
  | .running => .error (timedOut program limit)

/-- What is done to a program after the last poll of it. -/
def Observation.cleanUp : Observation → List Act
  | .ended _ => []
  | .failed _ | .running => [.kill, .wait]

/-- A pending poll is followed by the next one. -/
theorem await_cons_of_isPending {p : Poll} (h : p.IsPending limit) (later : List Poll) :
    await program limit delivery (p :: later) =
      (await program limit delivery later).map fun o => { o with acts := .poll p :: o.acts } := by
  rw [await, h.seen]
  exact if_neg (Nat.not_le_of_lt h.early)

/-- Any other poll is the last one. -/
theorem await_cons_of_not_isPending {p : Poll} (h : ¬ p.IsPending limit) (later : List Poll) :
    await program limit delivery (p :: later) =
      some ⟨verdict program limit delivery p, .poll p :: p.seen.cleanUp⟩ := by
  rw [await, verdict]
  cases hseen : p.seen with
  | ended how => rfl
  | failed cause => rfl
  | running =>
    have hlate : limit ≤ p.elapsed := Nat.le_of_not_lt fun hearly => h ⟨hseen, hearly⟩
    exact if_pos hlate

/-- A wait comes to nothing as long as all polls are pending. -/
theorem await_of_isPending {polls : List Poll} (h : ∀ p ∈ polls, p.IsPending limit) :
    await program limit delivery polls = none := by
  induction polls with
  | nil => rfl
  | cons p later ih =>
    obtain ⟨hp, hlater⟩ := List.forall_mem_cons.1 h
    rw [await_cons_of_isPending hp, ih hlater, Option.map_none]

/-- The poll that settles a wait decides its result and what is done at its end. -/
theorem await_of_settledBy {polls earlier : List Poll} {p : Poll}
    (h : SettledBy limit polls earlier p) :
    await program limit delivery polls =
      some ⟨verdict program limit delivery p,
        earlier.map .poll ++ .poll p :: p.seen.cleanUp⟩ := by
  obtain ⟨⟨later, rfl⟩, hpending, hsettles⟩ := h
  rw [List.append_assoc, List.singleton_append]
  induction earlier with
  | nil => exact await_cons_of_not_isPending hsettles later
  | cons q earlier ih =>
    obtain ⟨hq, hearlier⟩ := List.forall_mem_cons.1 hpending
    rw [List.cons_append, await_cons_of_isPending hq, ih hearlier]
    rfl

/-- A wait ends at the first poll that is not pending, with its verdict and what is done up to it
and for it. -/
theorem await_eq_some_iff {polls : List Poll} {o : Outcome} :
    await program limit delivery polls = some o ↔
      ∃ earlier p, SettledBy limit polls earlier p ∧
        o = ⟨verdict program limit delivery p,
          earlier.map .poll ++ .poll p :: p.seen.cleanUp⟩ := by
  constructor
  · intro hsome
    obtain ⟨earlier, p, hsettled⟩ : ∃ earlier p, SettledBy limit polls earlier p := by
      refine exists_settledBy ?_
      by_contra hnone
      push Not at hnone
      rw [await_of_isPending hnone] at hsome
      cases hsome
    rw [await_of_settledBy hsettled, Option.some_inj] at hsome
    exact ⟨earlier, p, hsettled, hsome.symm⟩
  · rintro ⟨earlier, p, hsettled, rfl⟩
    exact await_of_settledBy hsettled

/-- A wait goes on if all its polls are pending. -/
theorem await_eq_none_iff {polls : List Poll} :
    await program limit delivery polls = none ↔ ∀ p ∈ polls, p.IsPending limit := by
  refine ⟨fun hnone => ?_, await_of_isPending⟩
  by_contra hother
  push Not at hother
  obtain ⟨earlier, p, hsettled⟩ := exists_settledBy hother
  rw [await_of_settledBy hsettled] at hnone
  cases hnone

/-! ## Output -/

/-- The reader delivers the bytes of a text, before a program is seen to have ended or in what is
then left of the limit. -/
def Delivery.GivesText (limit elapsed : Nat) (delivery : Delivery) (text : String) : Prop :=
  ∃ time bytes, delivery = .output time bytes ∧
    (time ≤ elapsed ∨ time ≤ elapsed + (limit - elapsed)) ∧ text = Text.decodeLossy bytes

/-- An output is taken if it is there in time, whatever its bytes are. -/
theorem collect_eq_ok_iff {deadline : Nat} {text : String} :
    collect program limit deadline delivery = .ok text ↔
      ∃ time bytes, delivery = .output time bytes ∧ time ≤ deadline ∧
        text = Text.decodeLossy bytes := by
  cases delivery <;> grind [collect]

/-- A wait gives a text only if the program is seen to end in success and the reader delivers. -/
theorem verdict_eq_ok_iff {p : Poll} {text : String} :
    verdict program limit delivery p = .ok text ↔
      ∃ how, p.seen = .ended how ∧ how.succeeded = true ∧
        delivery.GivesText limit p.elapsed text := by
  rw [verdict]
  cases hseen : p.seen with
  | failed cause => simp
  | running => simp
  | ended how =>
    -- the reader has up to the limit, or up to the poll where that came later
    have hdeadline : ∀ time, time ≤ max p.elapsed limit ↔
        time ≤ p.elapsed ∨ time ≤ p.elapsed + (limit - p.elapsed) := by omega
    cases hgood : how.succeeded with
    | false => simp [conclude, hgood]
    | true => simp [conclude, hgood, collect_eq_ok_iff, hdeadline, Delivery.GivesText]

/-! ## What is done to the program -/

/-- What was done to a program when a wait for it came to a result. -/
structure Outcome.IsOrderly (program : String) (limit : Nat) (polls : List Poll) (o : Outcome) :
    Prop where
  /-- The program was polled as the schedule has it, and nothing else was done before the end. -/
  polled : ∃ made last, made <+: polls ∧ o.acts = made.map .poll ++ last ∧
    (last = [] ∨ last = [.kill, .wait])
  /-- A bad end that was seen is the result, at any time. -/
  endedBadly : ∀ p how, .poll p ∈ o.acts → p.seen = .ended how → how.succeeded = false →
    o.result = .error (endedBadly program how)
  /-- After an overdue poll the program is killed and waited for. -/
  overdue : ∀ before p after, o.acts = before ++ .poll p :: after → p.IsOverdue limit →
    after = [.kill, .wait] ∧ o.result = .error (timedOut program limit)
  /-- So it is after a poll that failed. -/
  failed : ∀ before p cause after, o.acts = before ++ .poll p :: after → p.seen = .failed cause →
    after = [.kill, .wait] ∧ o.result = .error (.io cause)
  /-- The program was seen to have ended, or it was killed and then waited for. -/
  reaped : (∃ p how, .poll p ∈ o.acts ∧ p.seen = .ended how) ∨ [.kill, .wait] <:+ o.acts

/-- Nothing is polled after a wait is settled. -/
theorem poll_notMem_cleanUp (seen : Observation) (p : Poll) : .poll p ∉ seen.cleanUp := by
  cases seen <;> simp [Observation.cleanUp]

/-- Of the polls that a settled wait made, only the last one is not pending. -/
theorem acts_inj {earlier : List Poll} {p q : Poll} {before after : List Act}
    (hearlier : ∀ r ∈ earlier, r.IsPending limit) (hq : ¬ q.IsPending limit)
    (h : earlier.map .poll ++ .poll p :: p.seen.cleanUp = before ++ .poll q :: after) :
    q = p ∧ after = p.seen.cleanUp := by
  -- the poll is none of the pending ones, and what follows the last poll are no polls
  have hmem : Act.poll q ∉ earlier.map Act.poll := by
    intro hmem
    obtain ⟨r, hr, heq⟩ := List.mem_map.1 hmem
    cases heq
    exact hq (hearlier q hr)
  obtain ⟨-, hpoll, hafter⟩ :=
    (List.append_cons_inj_of_notMem hmem (poll_notMem_cleanUp p.seen q)).1 h
  exact ⟨(Act.poll.inj hpoll).symm, hafter.symm⟩

/-- Every wait that comes to a result leaves an orderly record. -/
theorem isOrderly_of_settledBy {polls earlier : List Poll} {p : Poll}
    (h : SettledBy limit polls earlier p) :
    Outcome.IsOrderly program limit polls
      ⟨verdict program limit delivery p, earlier.map .poll ++ .poll p :: p.seen.cleanUp⟩ where
  polled := by
    refine ⟨earlier ++ [p], p.seen.cleanUp, h.begins, by simp, ?_⟩
    cases p.seen with
    | ended how => exact .inl rfl
    | failed cause => exact .inr rfl
    | running => exact .inr rfl
  endedBadly := by
    intro q how hmem hended hbad
    obtain ⟨before, after, hsplit⟩ := List.append_of_mem hmem
    obtain ⟨rfl, -⟩ := acts_inj h.pending (not_isPending_of_ended hended) hsplit
    simp [verdict, hended, conclude, hbad]
  overdue := by
    intro before q after hsplit hoverdue
    obtain ⟨rfl, rfl⟩ := acts_inj h.pending (not_isPending_of_isOverdue hoverdue) hsplit
    simp [verdict, hoverdue.seen, Observation.cleanUp]
  failed := by
    intro before q cause after hsplit hfailed
    obtain ⟨rfl, rfl⟩ := acts_inj h.pending (not_isPending_of_failed hfailed) hsplit
    simp [verdict, hfailed, Observation.cleanUp]
  reaped := by
    cases hseen : p.seen with
    | ended how => exact .inl ⟨p, how, by simp, hseen⟩
    | failed cause => exact .inr ⟨earlier.map .poll ++ [.poll p], by simp [Observation.cleanUp]⟩
    | running => exact .inr ⟨earlier.map .poll ++ [.poll p], by simp [Observation.cleanUp]⟩

end Await

/-! ## Waits -/

/-- **The first poll that is not pending settles a wait.** A wait comes to a result exactly if its
schedule has such a poll. It gives a text exactly if that poll finds an end in success and the
reader delivers the bytes of the text before it or in what is left of the limit. It never polls
again after that poll: a bad end is the result whatever the time, and a program that is overdue or
whose poll failed is killed and waited for. -/
theorem wait_settled_by_first_other_poll (program : String) (limit : Nat) (delivery : Delivery)
    (polls : List Poll) :
    let wait := await program limit delivery
    (wait polls = none ↔ ∀ p ∈ polls, p.IsPending limit) ∧
    (∀ text, (∃ o, wait polls = some o ∧ o.result = .ok text) ↔
      ∃ earlier p how, SettledBy limit polls earlier p ∧ p.seen = .ended how ∧
        how.succeeded = true ∧ delivery.GivesText limit p.elapsed text) ∧
    ∀ o, wait polls = some o →
      o.IsOrderly program limit polls ∧ ∀ more, wait (polls ++ more) = some o := by
  refine ⟨await_eq_none_iff, fun text => ⟨?_, ?_⟩, fun o hsome => ?_⟩
  · rintro ⟨o, hsome, hok⟩
    obtain ⟨earlier, p, hsettled, rfl⟩ := await_eq_some_iff.1 hsome
    obtain ⟨how, hended, hgood, htext⟩ := verdict_eq_ok_iff.1 hok
    exact ⟨earlier, p, how, hsettled, hended, hgood, htext⟩
  · rintro ⟨earlier, p, how, hsettled, hended, hgood, htext⟩
    exact ⟨_, await_of_settledBy hsettled, verdict_eq_ok_iff.2 ⟨how, hended, hgood, htext⟩⟩
  · obtain ⟨earlier, p, hsettled, rfl⟩ := await_eq_some_iff.1 hsome
    refine ⟨isOrderly_of_settledBy hsettled, fun more => ?_⟩
    have hmore : SettledBy limit (polls ++ more) earlier p :=
      ⟨hsettled.begins.trans (List.prefix_append polls more), hsettled.pending, hsettled.settles⟩
    exact await_of_settledBy hmore

/-- A program that is seen to end after its limit still gives what it wrote, if that is delivered by
then. If it is seen to run at the same time instead, it is killed, and its end is not awaited. -/
theorem late_end_beside_overdue_poll :
    let wait := await "scutil" 10000000 (.output 10500000 [104, 105])
    let early : List Poll := [⟨0, .running⟩, ⟨5000000, .running⟩]
    let overdue : Poll := ⟨11000000, .running⟩
    let ended : Poll := ⟨11000000, .ended (.code 0)⟩
    (∃ o, wait (early ++ [ended]) = some o ∧ o.result = .ok "hi") ∧
      ∃ o, wait (early ++ [overdue, ended]) = some o ∧
        o.result = .error (timedOut "scutil" 10000000) ∧
        o.acts = early.map .poll ++ [.poll overdue, .kill, .wait] := by
  intro wait early overdue ended
  have hlate := wait_settled_by_first_other_poll "scutil" 10000000 (.output 10500000 [104, 105])
  have htext : (Delivery.output 10500000 [104, 105]).GivesText 10000000 ended.elapsed "hi" :=
    ⟨10500000, [104, 105], rfl, .inl (by decide), by decide⟩
  have hsettled : SettledBy 10000000 (early ++ [ended]) early ended :=
    ⟨List.prefix_rfl, by decide, by decide⟩
  refine ⟨((hlate (early ++ [ended])).2.1 "hi").2
    ⟨early, ended, .code 0, hsettled, rfl, rfl, htext⟩, ?_⟩
  obtain ⟨o, hsome⟩ : ∃ o, wait (early ++ [overdue, ended]) = some o := ⟨_, rfl⟩
  obtain ⟨horderly, -⟩ := (hlate (early ++ [overdue, ended])).2.2 o hsome
  have hacts : o.acts = early.map .poll ++ .poll overdue :: [.kill, .wait] := by
    cases hsome
    rfl
  exact ⟨o, hsome, (horderly.overdue _ overdue _ hacts (by decide)).2, hacts⟩

end LinkWatch.Child
