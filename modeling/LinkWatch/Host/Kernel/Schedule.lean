import LinkWatch.Child.Waiting
import LinkWatch.Decimal.Nearest
import LinkWatch.Host.Kernel.System

/-!
# Running a system of processes

The process that is furthest behind is served, again and again, until the main one has ended and its
output is closed, or nobody can go on, or the time is up.
-/

namespace LinkWatch.Host.Kernel

open LinkWatch.Text LinkWatch.Files LinkWatch.Child

/-- The time at which a process can be served. -/
def Process.turn? (p : Process) : Option Nat :=
  match p.phase with
  | .ready => some p.time
  | .blocked => p.due.map (max p.time)
  | _ => none

/-- The process whose turn is first, with the time of its turn. -/
def firstTurn (ps : List Process) : Option (Nat × Process) :=
  ps.foldl (fun best p =>
    match p.turn?, best with
    | none, _ => best
    | some t, none => some (t, p)
    | some t, some (u, q) => if t < u then some (t, p) else some (u, q)) none

/-- The system after a process has been served. -/
def System.step (s : System) (p : Process) : System :=
  match p.next with
  | .finish status => s.finish p.number p.time (.code status)
  | .ask .split next =>
    let child := p.child s.fresh (next 0)
    let s := { s with processes := s.processes ++ [child], fresh := s.fresh + 1 }
    s.put { p.later forkTime with next := next child.number, due := none }
  | .ask r next =>
    match s.serve p r with
    | .answer a q s =>
      s.put { q with
        next := next a, due := none
        phase := if q.phase = .blocked then .ready else q.phase }
    | .blocked due => s.put { p with phase := .blocked, due := due }
    | .killed signal s => s.finish p.number p.time (.signal signal false)

/-- Whether all that is asked of a system is known. -/
def System.isSettled (s : System) : Bool :=
  s.finished.isSome && s.closed.isSome

/-- Serves processes up to a time. -/
def System.run (limit : Nat) : Nat → System → System
  | 0, s => s
  | fuel + 1, s =>
    if s.isSettled then s
    else
      match firstTurn s.processes with
      | none => s
      | some (time, p) =>
        if limit < time then s
        else System.run limit fuel (s.step { p with time := time })

/-- A time that no limit reaches, in nanoseconds. -/
def forever : Nat := Decimal.tenTo 40

/-- The course of the main process. -/
def System.course (s : System) : Course :=
  { time := s.finished.elim forever (·.1)
    ending := s.finished.elim (.code 0) (·.2)
    output := if s.isSettled then toBytes s.output.reverse.flatten else []
    closed := s.closed.getD forever }

/-- The system in which one process has been started. Its input is empty, its output is collected,
and its errors are lost. -/
def System.start (disk : Disk) (action : Action) (time : Nat) : System where
  processes :=
    [{ number := 1000, parent := 1, group := 1000, next := action, time := time
       descriptors := [(0, 0), (1, 1), (2, 0)], working := disk.working }]
  channels := [(0, .device .null), (1, .output)]
  disk := disk
  main := 1000
  fresh := 1001

end LinkWatch.Host.Kernel
