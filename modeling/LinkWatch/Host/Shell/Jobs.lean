import LinkWatch.Host.Shell.Printing
import LinkWatch.Host.Shell.State

/-!
# Jobs and signals

Processes in the background are jobs, for which the shell may wait. Signals are sent by their names,
and a shell may be told what to do when one comes.
-/

namespace LinkWatch.Host.Shell

open LinkWatch.Text LinkWatch.Host.Kernel LinkWatch.Host.Utility LinkWatch.Child

/-! ## Waiting -/

/-- The first number from a given one on that is free for another job. A job that has ended and been
waited for is forgotten if it has that number. -/
def State.makeRoom (s : State) : Nat → Nat → Nat × State
  | 0, number => (number, s)
  | fuel + 1, number =>
    match s.jobs.find? fun j => j.number = number with
    | none => (number, s)
    | some j =>
      if j.isDone && j.isWaited then
        (number, { s with jobs := s.jobs.filter fun k => k.number ≠ number })
      else s.makeRoom fuel (number + 1)

/-- Makes room for another job, and gives its number. -/
def openJob : Act Nat := do
  let s ← get
  let (number, s) := s.makeRoom (s.jobs.length + 1) 1
  set s
  return number

/-- Notes that somebody has waited for the jobs of some numbers. -/
def noteWaited (isMeant : Job → Bool) : Act Unit :=
  modify fun s => { s with
    jobs := s.jobs.map fun j =>
      if j.isDone && isMeant j then { j with isWaited := true } else j }

/-- Tells that a process has been ended by a signal, unless it has been interrupted or nobody has
read what it wrote. -/
def reportEnding (how : Ending) : Act Unit :=
  match how with
  | .signal n _ => if n = 2 || n = pipeSignal then return () else sayError (signalWords n).toList
  | .code _ => return ()

/-- Waits until all of some processes have ended; the status is that of the last one. -/
def awaitAll : Nat → Nat → List Nat → Nat → Act Nat
  | 0, _, _, status => return status
  | fuel + 1, last, numbers, status => do
    if numbers = [] then return status
    else
      match ← ask (.wait (some numbers) none false) with
      | .ended n how =>
        reportEnding how
        awaitAll fuel last (numbers.filter (· ≠ n)) (if n = last then statusOf how else status)
      | _ => return status

/-- Waits until all of some processes have ended; the answer is their statuses in their order. -/
def awaitEach (numbers : List Nat) : Act (List Nat) := do
  let rec go : Nat → List (Nat × Nat) → Act (List (Nat × Nat))
    | 0, found => return found
    | fuel + 1, found => do
      let left := numbers.filter fun n => (found.lookup n).isNone
      if left = [] then return found
      else
        match ← ask (.wait (some left) none false) with
        | .ended n how =>
          reportEnding how
          go fuel ((n, statusOf how) :: found)
        | _ => return found
  let found ← go (numbers.length + 1) []
  return numbers.map fun n => (found.lookup n).getD 127

/-- Waits for the processes of a command; the status is that of the last one. -/
def awaitCommand (numbers : List Nat) : Act Nat :=
  awaitAll (numbers.length + 1) (numbers.getLast?.getD 0) numbers 0

/-- The shell after a process of a job has ended. -/
def State.noteEnding (s : State) (process : Nat) (how : Ending) : State :=
  { s with jobs := s.jobs.map fun j =>
      if j.processes.contains process then
        let left := j.processes.filter (· ≠ process)
        { j with
          processes := left, isDone := left = []
          status := if process = j.last then some (statusOf how) else j.status }
      else j }

/-- What waiting for a job comes to. -/
inductive JobOutcome where
  | over
  | interrupted

/-- Waits until a condition on the jobs holds or a signal is noticed. The endings of the processes
of one job are reported. -/
def awaitJobs (isOver : State → Bool) (reported : Option Nat) : Nat → Act JobOutcome
  | 0 => return .over
  | fuel + 1 => do
    let s ← get
    if isOver s then return .over
    else
      match ← ask (.wait (some (s.jobs.flatMap Job.processes)) none true) with
      | .ended n how =>
        let job := s.jobs.find? fun j => j.processes.contains n
        if job.any fun j => reported = some j.number then reportEnding how
        modify (·.noteEnding n how)
        awaitJobs isOver reported fuel
      | .interrupted => return .interrupted
      | _ => return .over

/-- Notices which processes of jobs have ended by now. -/
def surveyJobs : Nat → Act Unit
  | 0 => return ()
  | fuel + 1 => do
    let s ← get
    match ← ask (.wait (some (s.jobs.flatMap Job.processes)) (some 0) false) with
    | .ended n how =>
      modify (·.noteEnding n how)
      surveyJobs fuel
    | _ => return ()

/-- The status for a signal that has been noticed while waiting. -/
def interruptedStatus : Act Nat := do
  pass 0
  let s ← get
  return 128 + (s.pending.min?).getD 0

/-- A job by its number or as one of the last ones. -/
def jobNamed (name : Bytes) : Act Job := do
  let s ← get
  let found := match name with
    | ['%'] => s.jobs.getLast?
    | ['%', '%'] => s.jobs.getLast?
    | ['%', '+'] => s.jobs.getLast?
    | ['%', '-'] => s.jobs.dropLast.getLast?
    | '%' :: digits => (natural? digits).bind fun n => s.jobs.find? fun j => j.number = n
    | _ => none
  match found with
  | some j => return j
  | none => fail ("No such job: ".toList ++ name)

/-- Forgets the jobs that somebody has waited for, where the language is the rich one. -/
def forgetWaited : Act Unit :=
  modify fun s => if s.isRich then { s with jobs := s.jobs.filter fun j => !j.isWaited } else s

/-- Waits for the job that ends next. -/
def waitAny (fuel : Nat) : Act Nat := do
  let s ← get
  if s.jobs.isEmpty then return 127
  else
    match ← awaitJobs (fun s => s.jobs.any Job.isDone) none fuel with
    | .over =>
      let s ← get
      match s.jobs.find? Job.isDone with
      | some j =>
        set { s with jobs := s.jobs.filter fun k => k.number ≠ j.number }
        return j.status.getD 0
      | none => return 127
    | .interrupted => interruptedStatus

/-- Waits for jobs. -/
def waitJobs : Builtin := fun arguments => do
  let isRich := (← get).isRich
  withGiven (if isRich then ['n', 'f'] else []) (if isRich then ['p'] else []) arguments fun g => do
    let fuel (s : State) : Nat := (s.jobs.flatMap Job.processes).length + 1
    let s ← get
    match g.has 'n', g.operands with
    | true, _ => waitAny (fuel s)
    | false, [] =>
      let streams := s.streamProcesses
      if isRich then
        let _ ← awaitEach streams
        modify fun s => { s with streamProcesses := [] }
      match ← awaitJobs (fun s => s.jobs.all Job.isDone) none (fuel s) with
      | .over =>
        noteWaited fun _ => true
        forgetWaited
        return 0
      | .interrupted => interruptedStatus
    | false, operands =>
      let rec go : List Bytes → Nat → Act Nat
        | [], status => return status
        | name :: names, _ => do
          let job? ← match name with
            | '%' :: _ => do pure (some (← jobNamed name))
            | _ => do
              let n ← number name
              let s ← get
              pure (s.jobs.find? fun j => j.last = n)
          match job? with
          | none =>
            if isRich then
              warn ("pid ".toList ++ name ++ " is not a child of this shell".toList)
            go names 127
          | some job =>
            let isOver (s : State) : Bool :=
              (s.jobs.find? fun j => j.number = job.number).all Job.isDone
            let s ← get
            match ← awaitJobs isOver (some job.number) (fuel s) with
            | .over =>
              noteWaited fun j => j.number = job.number
              let s ← get
              let found := s.jobs.find? fun j => j.number = job.number
              forgetWaited
              go names ((found.bind Job.status).getD 127)
            | .interrupted => interruptedStatus
      go operands 0

/-- Forgets jobs, so that they are no longer listed or waited for. -/
def disownJobs : Builtin := fun arguments =>
  withGiven ['a', 'h', 'r'] [] arguments fun g => do
    let s ← get
    if g.has 'a' || (g.has 'r' && g.operands = []) then
      if !g.has 'h' then set { s with jobs := [] }
      return 0
    else
      let names := if g.operands = [] then [['%', '%']] else g.operands
      let results ← names.mapM fun name => do
        let s ← get
        let isWanted (j : Job) : Bool := match name with
          | ['%', '%'] => s.jobs.getLast?.any fun l => l.number = j.number
          | '%' :: digits => natural? digits = some j.number
          | digits => (natural? digits).any j.processes.contains
        if s.jobs.any isWanted then
          if !g.has 'h' then set { s with jobs := s.jobs.filter fun j => !isWanted j }
          return true
        else
          let shown := if g.operands = [] then "current".toList else name
          warn (shown ++ ": no such job".toList)
          return false
      return if results.all id then 0 else 1

/-- Writes a list of the jobs, of which finished ones are forgotten then. -/
def listJobs : Builtin := fun arguments => do
  let isRich := (← get).isRich
  withGiven (if isRich then ['l', 'n', 'p', 'r', 's'] else ['l', 'p']) [] arguments fun g => do
    let s ← get
    surveyJobs ((s.jobs.flatMap Job.processes).length + 1)
    let s ← get
    let newest := s.jobs.reverse
    let row (j : Job) : Bytes :=
      let mark := match newest with
        | a :: b :: _ =>
          if j.number = a.number then '+' else if j.number = b.number then '-' else ' '
        | [_] => '+'
        | [] => ' '
      let state := match j.isDone, j.status with
        | false, _ => "Running".toList
        | true, some n =>
          if n = 0 then "Done".toList
          else if isRich then "Exit ".toList ++ digitsOf n
          else "Done(".toList ++ digitsOf n ++ [')']
        | true, none => "Done".toList
      let start := '[' :: digitsOf j.number ++ "] ".toList ++ mark :: ' ' :: state
      if g.has 'p' then line (digitsOf j.last)
      else if isRich then
        let process := if g.has 'l' then digitsOf j.last ++ [' '] else [' ']
        line ('[' :: digitsOf j.number ++ ']' :: mark :: ' ' :: process
          ++ state ++ List.replicate (24 - state.length) ' ' ++ j.text
          ++ (if j.isDone then [] else [' ', '&']))
      else line (start ++ List.replicate (33 - start.length) ' ')
    let rows := if isRich then s.jobs.filter fun j =>
        (!g.has 'r' || !j.isDone) && !g.has 's'
      else newest
    let status ← say (rows.flatMap row) 0
    modify fun s => { s with jobs := s.jobs.filter fun j => !j.isDone }
    return status

/-! ## Signals -/

/-- The signals with their numbers, as the rich language shows them. -/
def signalTable : Bytes :=
  let numbers := ((List.range lastSignal).map (· + 1)).filter fun n => n ≠ 32 && n ≠ 33
  let cells := ((List.range numbers.length).zip numbers).flatMap fun (i, n) =>
    let number := digitsOf n
    List.replicate (2 - number.length) ' ' ++ number ++ ") SIG".toList
      ++ (signalLabel n).toList ++ [if i % 5 = 4 then '\n' else '\t']
  if numbers.length % 5 = 0 then cells else line cells

/-- The name of a signal for a number, or the number for a name. -/
def otherName (isRich : Bool) (a : Bytes) : Act Bytes := do
  match if isRich && (natural? a).isNone then signalOf? a else none with
  | some n => return line (digitsOf n)
  | none =>
    let isName := isRich && (integer? a).isNone
    let n ← if isName then pure 0 else number a
    let signal := if 128 < n then n - 128 else n
    if 0 < signal && signal ≤ lastSignal then return line (signalLabel signal).toList
    else
      failAs 1 ("invalid signal number or exit status: ".toList ++ a)
        (a ++ ": invalid signal specification".toList)

/-- Sends signals to processes. -/
def sendSignals : Builtin := fun arguments => do
  let isRich := (← get).isRich
  let usage : Act Nat := do
    failUsage ("Usage: kill [-s sigspec | -signum | -sigspec] [pid | job]... or\n".toList
      ++ "kill -l [exitstatus]".toList) none
  let targetNumber (text : Bytes) : Act Nat := do
    if isRich && (integer? text).isNone then
      failAs 1 [] (text ++ ": arguments must be process or job IDs".toList)
    else number text
  let deliver (signal : Nat) (targets : List Bytes) : Act Nat := do
    if targets = [] then usage
    else
      let results ← targets.mapM fun a => do
        let target : Int ← match a with
          | '%' :: _ => do pure (-((← jobNamed a).last : Int))
          | '-' :: digits => do pure (-((← targetNumber digits) : Int))
          | _ => do pure ((← targetNumber a) : Int)
        if ← ask (.send target signal) then pure true
        else
          warn (if isRich then '(' :: a ++ ") - No such process".toList
            else "No such process\n".toList)
          pure false
      return if results.all id then 0 else 1
  match arguments with
  | [] => usage
  | ('-' :: name) :: rest =>
    match if name = [] then none else signalOf? name with
    | some signal => deliver signal rest
    | none =>
      if isRich && !(name.headD 's' ∈ ['l', 'L', 's', 'n']) then
        failAs 1 [] (name ++ ": invalid signal specification".toList)
      else
      withGiven (if isRich then ['l', 'L'] else ['l']) (if isRich then ['s', 'n'] else ['s'])
          arguments fun g => do
        if g.has 'l' || g.has 'L' then
          match g.operands with
          | [] =>
            if isRich then say signalTable 0
            else
              say (line ['0'] ++ (List.range lastSignal).flatMap fun n =>
                line (signalLabel (n + 1)).toList) 0
          | a :: rest =>
            if isRich then
              let rows ← (a :: rest).mapM (otherName true)
              say rows.flatten 0
            else say (← otherName false a) 0
        else
          match g.options.getLast? with
          | none => deliver endSignal g.operands
          | some (_, name) =>
            match signalOf? name with
            | some signal => deliver signal g.operands
            | none =>
              failAs 1 ("invalid signal number or name: ".toList ++ name)
                (name ++ ": invalid signal specification".toList)
  | targets => deliver endSignal targets

/-- The events of the rich language that are handled like signals, with their numbers. -/
def richEvents : List (String × Nat) :=
  [("DEBUG", 65), ("ERR", 66), ("RETURN", 67)]

/-- The number of a signal or an event. -/
def eventOf? (isRich : Bool) (name : Bytes) : Option Nat :=
  match if isRich then richEvents.lookup (String.ofList (name.map Char.toUpper)) else none with
  | some n => some n
  | none => signalOf? name

/-- The name of a signal or an event where traps are shown. -/
def eventLabel (isRich : Bool) (n : Nat) : Bytes :=
  match richEvents.find? fun e => e.2 = n with
  | some e => e.1.toList
  | none => (if isRich && n ≠ 0 then "SIG".toList else []) ++ (signalLabel n).toList

/-- Sets what is to be done on one signal; without commands it is the usual thing. -/
def setTrap (action : Option Bytes) (signal : Nat) : Act Unit := do
  modify fun s =>
    let others := s.traps.filter fun t => t.1 ≠ signal
    { s with formerTraps := [], traps := match action with
        | some text => (signal, text) :: others
        | none => others }
  if signal ≠ 0 && signal ≤ lastSignal then
    ask (.handle signal (match action with
      | none => .usual
      | some [] => .ignored
      | some _ => .noticed))

/-- Sets what is to be done on signals, or shows it. -/
def setTraps : Builtin := fun arguments => do
  let isRich := (← get).isRich
  withGiven (if isRich then ['l', 'p'] else []) [] arguments fun g => do
    let s ← get
    let trapLine (t : Nat × Bytes) : Bytes :=
      let text := if isRich then betweenQuotes t.2 else singleQuoted t.2
      line ("trap -- ".toList ++ text ++ ' ' :: eventLabel isRich t.1)
    match if g.has 'l' then [] else g.operands with
    | [] =>
      if g.has 'l' then say signalTable 0
      else
      let known := if s.formerTraps.isEmpty then s.traps else s.formerTraps
      let sorted := known.mergeSort fun a b => a.1 ≤ b.1
      say (sorted.flatMap trapLine) 0
    | first :: rest =>
      if g.has 'p' then
        let wanted := g.operands.filterMap (eventOf? true)
        say ((s.traps.filter fun t => wanted.contains t.1).flatMap trapLine) 0
      else
      let resets := rest = [] || (natural? first).any (· ≤ lastSignal)
      let action := if resets || first = ['-'] then none else some first
      let rec go : List Bytes → Act Nat
        | [] => return 0
        | name :: names => do
          match eventOf? isRich name with
          | some signal =>
            setTrap action signal
            go names
          | none =>
            if isRich then warn (name ++ ": invalid signal specification".toList)
            else sayError ("trap: ".toList ++ name ++ ": bad trap".toList)
            return 1
      go (if resets then g.operands else rest)

end LinkWatch.Host.Shell
