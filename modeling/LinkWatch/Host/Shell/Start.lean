import LinkWatch.Host.Shell.Run
import LinkWatch.Host.Utility.Catalogue

/-!
# Starting a shell

A shell is started with options and either a text, the name of a file, or nothing, in which case it
runs what it reads from its input.
-/

namespace LinkWatch.Host.Shell

open LinkWatch.Text LinkWatch.Host.Kernel LinkWatch.Host.Utility LinkWatch.Child

/-- The greatest depth of commands within commands. -/
def runFuel : Nat := 10000

/-- The variables that a new shell sets by itself. -/
def ownBindings (parent : Nat) (working : Bytes) : List Binding :=
  [("IFS", [' ', '\t', '\n']), ("OPTIND", ['1']), ("PPID", digitsOf parent), ("PS1", ['#', ' ']),
    ("PS2", ['>', ' ']), ("PS4", ['+', ' ']), ("PWD", working)].map fun v =>
    { name := v.1.toList, contents := .text v.2, exported := v.1 = "PWD" }

/-- The variables of a new shell: those of its environment, and its own. -/
def initialBindings (environment : Environment) (parent : Nat) (working : Bytes) : List Binding :=
  let path : List Binding :=
    if environment.any fun v => v.1 = "PATH".toList then []
    else [{ name := "PATH".toList, contents := .text usualPath }]
  let own := ownBindings parent working ++ path
  let given := environment.filter fun v => isName v.1 && own.all fun b => b.name ≠ v.1
  (given.map fun v => { name := v.1, contents := .text v.2, exported := true }).reverse ++ own

/-- The variables that a new shell of the rich language has besides. -/
def richBindings (environment : Environment) (path : Bytes) : List Binding :=
  let level := (((environment.lookup "SHLVL".toList).bind natural?).getD 0) + 1
  let version := ["5", "2", "15", "1", "release", "x86_64-pc-linux-gnu"].map String.toList
  let texts : List (String × String) :=
    [("BASH", "/usr/bin/bash"), ("BASH_VERSION", "5.2.15(1)-release"),
      ("HOSTNAME", "localhost"), ("HOSTTYPE", "x86_64"),
      ("MACHTYPE", "x86_64-pc-linux-gnu"), ("OSTYPE", "linux-gnu"), ("OPTERR", "1"),
      ("SECONDS", "0"), ("SHELL", "/bin/bash"), ("TERM", "dumb")]
  let given := texts.filter fun t => !environment.any fun v => v.1 = t.1.toList
  given.map (fun t => { name := t.1.toList, contents := .text t.2.toList })
    ++ [{ name := "BASH_VERSINFO".toList, contents := rowOf version, fixed := true },
      { name := "SHLVL".toList, contents := .text (digitsOf level), exported := true },
      { name := "UID".toList, contents := .text ['0'], fixed := true, traits := ['i'] },
      { name := "EUID".toList, contents := .text ['0'], fixed := true, traits := ['i'] },
      { name := "DIRSTACK".toList, contents := .row [] },
      { name := "GROUPS".toList, contents := rowOf [['0']] },
      { name := "PIPESTATUS".toList, contents := rowOf [['0']] },
      { name := ['_'], contents := .text path },
      { name := "OLDPWD".toList, exported := true }]

/-- The state of a new shell. -/
def newShell (program : String) (c : Call) : Program State := do
  let (self, parent) ← request .identity
  let given := (c.environment.lookup "PWD".toList).getD []
  let startsAt (d : Disk) : Bytes :=
    let isRight := given.head? = some '/' &&
      match d.find given with
      | .ok f => f.location = d.working
      | .error _ => false
    if isRight then given else locationText d.working
  let working ← (request (.files fun d => (startsAt d, d)) : Program Bytes)
  let bindings := initialBindings c.environment parent working
  let s : State := { name := c.name, number := self, directory := working, bindings := bindings }
  if program = "bash" then
    let own := richBindings c.environment "/usr/bin/bash".toList
    let hidden := ["PS1", "PS2"].map String.toList
    let others := bindings.filter fun b =>
      !hidden.contains b.name && !own.any fun o => o.name = b.name
    let now ← (request (.files fun d => (d.now, d)) : Program Nat)
    return { s with
      bindings := own ++ others, isRich := true, options := initialLetters, secondsAt := (0, now)
      switches := initialSwitches, lastArgument := "/usr/bin/bash".toList }
  else return s

/-- Reads another piece of the input, if there is one. -/
def readMore (descriptor : Nat) : Act (Option Bytes) := do
  match ← ask (.read descriptor 8192) with
  | .ok [] => return none
  | .ok text => return some text
  | .error _ => return none

/-- Runs what is read from the input line by line, as soon as whole lines are there. -/
def runInput (run : Runner) : Nat → Reader → Bool → Act Unit
  | 0, _, _ => return ()
  | fuel + 1, r, isOpen => do
    let s ← get
    let more (r : Reader) : Act Unit := do
      match ← readMore 0 with
      | some text => runInput run fuel { r with rest := r.rest ++ text } true
      | none => runInput run fuel r false
    if isOpen && !r.rest.contains '\n' then more r
    else if r.isDone then return ()
    else
      let start := r.prepared s
      match start.next with
      | .error m => if isOpen then more r else reportMistake start m
      | .ok reading =>
        if isOpen && reading.isLast then more r
        else
          set { s with
            documents := reading.reader.documents ++ s.documents
            documentCount := reading.reader.count }
          showRead start reading.reader
          match reading.command with
          | .nothing => runInput run fuel reading.reader isOpen
          | c =>
            match ← attempt (run {} c) with
            | .ok _ => pure ()
            | .error (.give status) => modify fun s => { s with status := status }
            | .error d => throw d
            runInput run fuel reading.reader isOpen

/-- Runs the text of a script from some line on. -/
def runScript (run : Runner) (line : Nat) (text : Bytes) : Act Unit := do
  let _ ← runLines run {} (text.length + 1) { rest := text, line := line } 0

/-- Does what a new shell is called for. -/
def runCall (run : Runner) (arguments : List Bytes) : Act Unit := do
  let first := (← get).line
  let isRich := (← get).isRich
  modify fun s => { s with line := 0 }
  let l ← if isRich then readRichOptions true (arguments.length + 1) arguments
    else readOptions true (arguments.length + 1) arguments
  if isRich then
    l.letters.forM fun c => if c = 's' || c = 'c' then setOption c true else pure ()
    noteSwitches
  let isText := l.letters.contains 'c'
  match isText, l.operands with
  | true, [] => failAs 2 "-c requires an argument".toList "-c: option requires an argument".toList
  | true, text :: rest =>
    modify fun s => { s with
      line := first, name := rest.headD s.name, arguments := rest.drop 1
      origin := "environment".toList, title := if isRich then "-c".toList else [] }
    let readsInput := (← get).has 's'
    let _ ← runText run { isLast := !readsInput } text
    if readsInput then runInput run streamFuel { rest := [] } true
  | false, [] =>
    setOption 's' true
    modify fun s => { s with line := first, origin := "main".toList }
    runInput run streamFuel { rest := [] } true
  | false, operands =>
    if (← get).has 's' then
      modify fun s => { s with line := first, arguments := operands, origin := "main".toList }
      runInput run streamFuel { rest := [] } true
    else
      let file := operands.headD []
      match ← within (readFile file) with
      | .error e =>
        if isRich then
          let _ ← ask (.write 2
            (line ((← get).name ++ ':' :: ' ' :: file ++ ':' :: ' ' :: wordsOf e)))
          throw (.exit (if e = .notFound then 127 else 126))
        else if e = .isDirectory then return ()
        else fail ("cannot open ".toList ++ file ++ ':' :: ' ' :: openWords e)
      | .ok text =>
        let frame : Frame := { name := "main".toList, line := 0, source := file }
        modify fun s => { s with
          line := first, name := file, arguments := operands.drop 1, origin := file
          callers := if isRich then [frame] else [] }
        runScript run first text

/-- Runs a new shell. -/
def startShell (perform : Performer) (program : String) (c : Call) : Program Nat := do
  let s ← newShell program c
  let runner := run perform runFuel
  conclude runner (runCall runner c.arguments) s

/-- What an installed program does: a shell, or one of the others. Fuel bounds how many of them
start one another. -/
def perform : Nat → Performer
  | 0, _, _ => return 126
  | fuel + 1, name, c =>
    if name ∈ shellNames then startShell (perform fuel) name c
    else utility (perform fuel) name c

/-- Enough fuel for all programs that start one another in time. -/
def performFuel : Nat := 1000000000

/-- Runs a script that is started by its own name as a program. Its first line is not a part of
it. -/
def startScript (text : Bytes) (c : Call) : Program Nat := do
  let s ← newShell "sh" c
  let runner := run (perform performFuel) runFuel
  conclude runner (runScript runner 2 text) { s with arguments := c.arguments }

end LinkWatch.Host.Shell
