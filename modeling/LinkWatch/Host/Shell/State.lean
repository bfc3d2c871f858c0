import LinkWatch.Host.Shell.Contents
import LinkWatch.Host.Shell.Reader
import LinkWatch.Text.Bytes
import LinkWatch.Host.Utility.Launching

/-!
# The state of a shell

A shell has variables, arguments and functions, options and traps. Running a script changes it, and
may be broken off: a loop or a function is left, or the shell ends. A command that is called in a
way that has no meaning shows its options and arguments.
-/

namespace LinkWatch.Host.Shell

open LinkWatch.Text LinkWatch.Host.Kernel LinkWatch.Host.Utility LinkWatch.Child

/-! ## How the commands of the rich language are called -/

/-- The commands with what follows their names. -/
def synopses : List (String × String) :=
  [(".", "filename [arguments]"), ("alias", "[-p] [name[=value] ... ]"),
    ("bg", "[job_spec ...]"),
    ("builtin", "[shell-builtin [arg ...]]"), ("caller", "[expr]"),
    ("cd", "[-L|[-P [-e]] [-@]] [dir]"), ("command", "[-pVv] command [arg ...]"),
    ("declare", "[-aAfFgiIlnrtux] [name[=value] ...] or declare -p [-aAfFilnrtux] [name ...]"),
    ("dirs", "[-clpv] [+N] [-N]"), ("disown", "[-h] [-ar] [jobspec ... | pid ...]"),
    ("enable", "[-a] [-dnps] [-f filename] [name ...]"), ("eval", "[arg ...]"),
    ("exec", "[-cl] [-a name] [command [argument ...]] [redirection ...]"),
    ("export", "[-fn] [name[=value] ...] or export -p"), ("fg", "[job_spec]"),
    ("getopts", "optstring name [arg ...]"), ("hash", "[-lr] [-p pathname] [-dt] [name ...]"),
    ("help", "[-dms] [pattern ...]"),
    ("jobs", "[-lnprs] [jobspec ...] or jobs -x command [args]"),
    ("kill", "[-s sigspec | -n signum | -sigspec] pid | jobspec ... or kill -l [sigspec]"),
    ("local", "[option] name[=value] ..."),
    ("mapfile", "[-d delim] [-n count] [-O origin] [-s count] [-t] [-u fd] [-C callback] "
      ++ "[-c quantum] [array]"),
    ("popd", "[-n] [+N | -N]"), ("printf", "[-v var] format [arguments]"),
    ("pushd", "[-n] [+N | -N | dir]"), ("pwd", "[-LP]"),
    ("read", "[-ers] [-a array] [-d delim] [-i text] [-n nchars] [-N nchars] [-p prompt] "
      ++ "[-t timeout] [-u fd] [name ...]"),
    ("readarray", "[-d delim] [-n count] [-O origin] [-s count] [-t] [-u fd] [-C callback] "
      ++ "[-c quantum] [array]"),
    ("readonly", "[-aAf] [name[=value] ...] or readonly -p"),
    ("set", "[-abefhkmnptuvxBCEHPT] [-o option-name] [--] [-] [arg ...]"),
    ("shopt", "[-pqsu] [-o] [optname ...]"), ("source", "filename [arguments]"),
    ("suspend", "[-f]"), ("trap", "[-lp] [[arg] signal_spec ...]"),
    ("type", "[-afptP] name [name ...]"),
    ("typeset", "[-aAfFgiIlnrtux] name[=value] ... or typeset -p [-aAfFilnrtux] [name ...]"),
    ("ulimit", "[-SHabcdefiklmnpqrstuvxPRT] [limit]"), ("umask", "[-p] [-S] [mode]"),
    ("unalias", "[-a] name [name ...]"), ("unset", "[-f] [-v] [-n] [name ...]"),
    ("wait", "[-fn] [-p var] [id ...]")]

/-- The line that tells how a command is called. -/
def synopsisOf (command : Bytes) : Bytes :=
  let rest := (synopses.lookup (String.ofList command)).elim [] fun text => ' ' :: text.toList
  command ++ ": usage: ".toList ++ command ++ rest

/-! ## Variables and the rest of the state -/

/-- A variable. One without a value may still be exported or fixed. -/
structure Binding where
  name : Bytes
  contents : Contents := .nothing
  exported : Bool := false
  fixed : Bool := false
  /-- Letters for what else is declared: what the value is turned into, or that it names another
  variable. -/
  traits : List Char := []
  deriving DecidableEq, Repr

/-- The trait of a variable of which only its kind is known so far. -/
def bareTrait : Char := '-'

/-- The value of a variable. -/
def Binding.value (b : Binding) : Option Bytes :=
  b.contents.usual?

/-- Processes in the background that were started together. -/
structure Job where
  number : Nat
  processes : List Nat
  /-- The process whose status counts. -/
  last : Nat
  status : Option Nat := none
  /-- Whether all of its processes have ended. -/
  isDone : Bool := false
  /-- Whether somebody has waited for it. -/
  isWaited : Bool := false
  /-- The command that is run. -/
  text : Bytes := []

/-- A limit on what a process may use up: the one that counts, and the one up to which it may be
raised. -/
structure Limit where
  soft : Option Nat
  hard : Option Nat

/-- A function or a file that is running. -/
structure Frame where
  name : Bytes
  /-- The line from which it has been called. -/
  line : Nat
  /-- The file in which it stands. -/
  source : Bytes

/-- The state of a shell. -/
structure State where
  name : Bytes
  arguments : List Bytes := []
  bindings : List Binding := []
  functions : List (Bytes × Command) := []
  aliases : List (Bytes × Bytes) := []
  /-- The names of programs that have been looked for. -/
  known : List Bytes := []
  /-- Where the programs are that have been looked for in the rich language, and how often they have
  been called. -/
  places : List (Bytes × Bytes × Nat) := []
  /-- The documents of the scripts that have been read, by number. -/
  documents : List (Nat × List Part) := []
  documentCount : Nat := 0
  options : List Char := []
  status : Nat := 0
  /-- The status of the last script that was run for its output. -/
  outputStatus : Nat := 0
  /-- What is to be done on signals; zero stands for the end of the shell. -/
  traps : List (Nat × Bytes) := []
  /-- Signals that have been noticed and not been dealt with. -/
  pending : List Nat := []
  /-- The number of the process that the script was started with. -/
  number : Nat := 0
  /-- The last process in the background. -/
  lastJob : Option Nat := none
  jobs : List Job := []
  /-- How many loops surround what is running. -/
  loops : Nat := 0
  /-- The variables to be restored at the ends of functions and of commands with assignments. -/
  saved : List (List (Bytes × Option Binding)) := []
  /-- How many functions surround what is running. -/
  depth : Nat := 0
  line : Nat := 1
  /-- The command of the shell that is running. -/
  command : Option Bytes := none
  /-- The argument that is read next for options. -/
  optionIndex : Nat := 1
  /-- Where the reading of options has come to within the argument before it. -/
  optionOffset : Nat := 0
  /-- The status before the signal whose commands are running. -/
  statusBefore : Option Nat := none
  /-- The path by which the working directory has been entered. -/
  directory : Bytes := ['/']
  /-- The limits that have been set, by their letters. -/
  limits : List (Char × Limit) := []
  /-- Whether the language is the rich one. -/
  isRich : Bool := false
  /-- What is switched on besides the options. -/
  switches : List String := []
  /-- The statuses of the commands of the last pipeline. -/
  statuses : List Nat := [0]
  /-- The functions and files that are running, the innermost first. -/
  callers : List Frame := []
  /-- Where what is defined comes from. -/
  origin : Bytes := []
  /-- Where the functions come from. -/
  origins : List (Bytes × Bytes) := []
  /-- Where the text that is run comes from, as messages name it. -/
  title : Bytes := []
  /-- How many copies of the shell surround it. -/
  copies : Nat := 0
  /-- How many texts are run within others. -/
  nesting : Nat := 0
  /-- The last random number. -/
  seed : Nat := 1
  /-- The last argument of the last command. -/
  lastArgument : Bytes := []
  /-- Descriptors of the streams of commands that are open for the command that is running. -/
  streams : List Nat := []
  /-- The processes behind such streams. -/
  streamProcesses : List Nat := []
  /-- The directories to which a return is possible. -/
  stack : List Bytes := []
  /-- The number of seconds that was shown at some time, and that time in nanoseconds. -/
  secondsAt : Nat × Nat := (0, 0)
  /-- The commands of the rich language that are looked for as programs. -/
  disabled : List Bytes := []
  /-- What the shell that this one is a copy of does on signals, as long as nothing else is set. -/
  formerTraps : List (Nat × Bytes) := []
  /-- The text of the command that is running. -/
  running : Unit → Bytes := fun _ => []
  /-- Whether what is to be done on a signal or an event is running. -/
  isTrapped : Bool := false

/-- Why the running of a script is broken off. -/
inductive Departure where
  /-- So many loops are left. -/
  | leave (loops : Nat)
  /-- The loop that so many loops further in has been left goes on with its next round. -/
  | skip (loops : Nat)
  | return (status : Nat)
  | exit (status : Nat)
  /-- Something is wrong. -/
  | fault (status : Nat)
  /-- Something is wrong, and the rest of the line is given up. -/
  | give (status : Nat)

/-- Something that a shell does. -/
abbrev Act := ExceptT Departure (StateT State Program)

/-- Asks the system for something. -/
def ask {α : Type} (r : Request α) : Act α :=
  ExceptT.lift (StateT.lift (request r))

/-- Runs a program as a part of the shell's process. -/
def within {α : Type} (p : Program α) : Act α :=
  ExceptT.lift (StateT.lift p)

/-- Does something, and tells why it was broken off if it was. -/
def attempt {α : Type} (a : Act α) : Act (Except Departure α) := fun s =>
  a.run s >>= fun p => pure (.ok p.1, p.2)

/-- Does something, then something else in any case. -/
def afterwards {α : Type} (a : Act α) (last : Act Unit) : Act α := do
  let result ← attempt a
  last
  match result with
  | .ok a => return a
  | .error d => throw d

/-! ## Messages -/

/-- The name under which messages report what is running. -/
def State.place (s : State) : Bytes :=
  match s.callers.head? with
  | some f => if f.source = [] then s.name else f.source
  | none => s.name

/-- Reports something on the error stream, with the name of the shell, the line and the command. -/
def warn (words : Bytes) : Act Unit := do
  let s ← get
  let command := s.command.elim [] fun c => c ++ ':' :: ' ' :: []
  let place := (if s.isRich then "line ".toList else []) ++ digitsOf s.line
  let _ ← ask (.write 2 (line (s.place ++ ':' :: ' ' :: place ++ ':' :: ' ' :: command ++ words)))

/-- Reports a fault and breaks off. -/
def fail {α : Type} (words : Bytes) : Act α := do
  warn words
  modify fun s => { s with status := 2 }
  throw (.fault 2)

/-- Reports that something cannot be done as it is asked for. In the rich language a status tells
that, and the rest of the line may be given up. -/
def failAs {α : Type} (status : Nat) (common rich : Bytes) : Act α := do
  if (← get).isRich then
    warn rich
    modify fun s => { s with status := status }
    throw (.fault status)
  else fail common

/-- Reports in the common language with some words, and in the rich one by how the command is
called, perhaps with words before that. -/
def failUsage {α : Type} (common : Bytes) (rich : Option Bytes) : Act α := do
  let s ← get
  if s.isRich then
    match rich with
    | some words => warn words
    | none => pure ()
    let _ ← ask (.write 2 (line (synopsisOf (s.command.getD []))))
    modify fun s => { s with status := 2 }
    throw (.fault 2)
  else fail common

/-- Reports that a word has no value. The rest of the line is given up. -/
def giveUp {α : Type} (common rich : Bytes) : Act α := do
  if (← get).isRich then
    warn rich
    modify fun s => { s with status := 1 }
    throw (.give 1)
  else fail common

/-! ## Variables -/

/-- A variable of a name. -/
def State.binding? (s : State) (name : Bytes) : Option Binding :=
  s.bindings.find? fun b => b.name = name

/-- The name that a name stands for, if its variable names another one. -/
def State.resolved (s : State) : Nat → Bytes → Bytes
  | 0, name => name
  | fuel + 1, name =>
    match s.binding? name with
    | some b =>
      match b.traits.contains 'n', b.value with
      | true, some other => s.resolved fuel other
      | _, _ => name
    | none => name

/-- The variable that a name stands for. -/
def State.meant? (s : State) (name : Bytes) : Option Binding :=
  s.binding? (if s.isRich then s.resolved 10 name else name)

/-- What the variable of a name holds. -/
def State.contents (s : State) (name : Bytes) : Contents :=
  (s.meant? name).elim .nothing Binding.contents

/-- The value of a variable. -/
def State.stored? (s : State) (name : Bytes) : Option Bytes :=
  (s.contents name).usual?

/-- The shell with a variable as it is now. -/
def State.bind (s : State) (b : Binding) : State :=
  if s.bindings.any fun c => c.name = b.name then
    { s with bindings := s.bindings.map fun c => if c.name = b.name then b else c }
  else { s with bindings := b :: s.bindings }

/-- The shell without a variable. -/
def State.unbind (s : State) (name : Bytes) : State :=
  { s with bindings := s.bindings.filter fun b => b.name ≠ name }

/-- Whether an option is set. -/
def State.has (s : State) (option : Char) : Bool :=
  s.options.contains option

/-- Whether something of the rich language is switched on. -/
def State.switched (s : State) (name : String) : Bool :=
  s.switches.contains name

/-- Gives a variable new contents, unless it is fixed; programs may see it from then on. -/
def assignContents (exported : Bool) (name : Bytes) (contents : Contents) : Act Unit := do
  let s ← get
  let name := if s.isRich then s.resolved 10 name else name
  let old := (s.binding? name).getD { name := name }
  if old.fixed then
    if s.isRich then
      warn (name ++ ": readonly variable".toList)
      throw (.give 1)
    else fail (name ++ ": is read only".toList)
  else
    let s := s.bind
      { old with
        contents := contents, exported := exported || s.has 'a' || old.exported
        traits := old.traits.filter (· ≠ bareTrait) }
    let index := (contents.usual?.bind natural?).getD 1
    set (if name = "OPTIND".toList then
        { s with optionIndex := max 1 index, optionOffset := 0 }
      else if s.isRich && name = "RANDOM".toList then { s with seed := index }
      else s)
    if s.isRich && name = "SECONDS".toList then
      let now ← ask (.files fun d => (d.now, d))
      modify fun s => { s with secondsAt := ((contents.usual?.bind natural?).getD 0, now) }

/-- Gives a variable a value, unless it is fixed; programs may see it from then on. -/
def assignAs (exported : Bool) (name value : Bytes) : Act Unit := do
  assignContents exported name (((← get).contents name).putUsual value)

/-- The shell with other contents of a variable, whatever else is declared of it. -/
def State.put (s : State) (name : Bytes) (contents : Contents) : State :=
  s.bind { (s.binding? name).getD { name := name } with contents := contents }

/-- The random number after another one. -/
def nextSeed (seed : Nat) : Nat :=
  let t : Int := 16807 * (seed % 127773 : Nat) - 2836 * (seed / 127773 : Nat)
  (if t < 0 then t + 2147483647 else t).toNat

/-- Brings a variable up to date that changes by itself. -/
def refresh (name : Bytes) : Act Unit := do
  let s ← get
  if s.isRich then
    match String.ofList name with
    | "RANDOM" =>
      let seed := nextSeed (if s.seed = 0 then 123459876 else s.seed)
      let n := ((seed / 65536) ^^^ (seed % 65536)) % 32768
      set ({ s with seed := seed }.put name (.text (digitsOf n)))
    | "SRANDOM" =>
      let now ← ask (.files fun d => (d.now, d))
      set (s.put name (.text (digitsOf (nextSeed (now % 2147483647 + 1)))))
    | "SECONDS" =>
      let now ← ask (.files fun d => (d.now, d))
      let seconds := s.secondsAt.1 + (now - s.secondsAt.2) / 1000000000
      if (s.binding? name).isSome then set (s.put name (.text (digitsOf seconds)))
    | "BASH_COMMAND" => set (s.put name (.text (s.running ())))
    | "EPOCHSECONDS" =>
      let now ← ask (.files fun d => (d.now, d))
      set (s.put name (.text (digitsOf (now / 1000000000))))
    | "EPOCHREALTIME" =>
      let now ← ask (.files fun d => (d.now, d))
      let fraction := Decimal.padLeft 6 '0' (digitsOf (now / 1000 % 1000000))
      set (s.put name (.text (digitsOf (now / 1000000000) ++ '.' :: fraction)))
    | "LINENO" => set (s.put name (.text (digitsOf s.line)))
    | "PIPESTATUS" => set (s.put name (rowOf (s.statuses.map digitsOf)))
    | "FUNCNAME" =>
      set (s.put name (if s.depth = 0 then .nothing else rowOf (s.callers.map Frame.name)))
    | "BASH_SOURCE" => set (s.put name (rowOf (s.callers.map Frame.source)))
    | "BASH_LINENO" => set (s.put name (rowOf (s.callers.map fun f => digitsOf f.line)))
    | "BASH_SUBSHELL" => set (s.put name (.text (digitsOf s.copies)))
    | "BASHPID" =>
      let (self, _) ← ask .identity
      set (s.put name (.text (digitsOf self)))
    | "_" => set (s.put name (.text s.lastArgument))
    | "DIRSTACK" => set (s.put name (rowOf (s.directory :: s.stack)))
    | _ => return ()

/-- Gives a variable a value. -/
def assign (name value : Bytes) : Act Unit :=
  assignAs false name value

/-- Saves a variable so that it comes back at the end of what is running. -/
def saveBinding (name : Bytes) : Act Unit :=
  modify fun s =>
    match s.saved with
    | frame :: frames =>
      if frame.any fun p => p.1 = name then s
      else { s with saved := ((name, s.binding? name) :: frame) :: frames }
    | [] => s

/-- Brings back the variables that were saved last. -/
def restoreBindings : Act Unit :=
  modify fun s =>
    match s.saved with
    | frame :: frames =>
      frame.foldl (fun s p => match p.2 with
        | some b => if b.name = ['-'] then { s with options := b.value.getD [] } else s.bind b
        | none => s.unbind p.1) { s with saved := frames }
    | [] => s

/-- Does something, after which the variables that it saves come back. -/
def withSaved {α : Type} (a : Act α) : Act α := do
  modify fun s => { s with saved := [] :: s.saved }
  afterwards a restoreBindings

/-- The characters at which fields are divided. -/
def State.dividers (s : State) : Bytes :=
  (s.stored? "IFS".toList).getD [' ', '\t', '\n']

/-- The arguments with the first divider between them. -/
def State.joinedArguments (s : State) : Bytes :=
  joinWith (s.dividers.take 1) s.arguments

/-- The letters of the options in their order. -/
def optionLetters : List Char :=
  ['u', 'b', 'a', 'C', 'E', 'V', 'v', 'x', 's', 'n', 'm', 'i', 'I', 'f', 'e']

/-- The letters of the options of the rich language in their order. -/
def richLetters : List Char :=
  "abefhkmnprtuvxBCEHPTcs".toList

/-- The value of a parameter. -/
def State.value? (s : State) (name : Bytes) : Option Bytes :=
  match name with
  | ['@'] => some s.joinedArguments
  | ['*'] => some s.joinedArguments
  | ['#'] => some (digitsOf s.arguments.length)
  | ['?'] => some (digitsOf s.status)
  | ['$'] => some (digitsOf s.number)
  | ['!'] => s.lastJob.map digitsOf
  | ['-'] => some ((if s.isRich then richLetters else optionLetters).filter s.has)
  | ['0'] => some s.name
  | _ =>
    match natural? name with
    | some n => s.arguments[n - 1]?
    | none => s.stored? name

/-- The variables that programs see. -/
def State.environment (s : State) : Environment :=
  let seen := s.bindings.filter Binding.exported
  if s.isRich then
    orderedEntries (seen.filterMap fun b =>
      match b.contents with
      | .text value => some (b.name, value)
      | _ => none)
  else (seen.filterMap fun b => b.value.map (b.name, ·)).reverse

/-! ## Signals -/

/-- Lets time pass, and remembers the signals that have been noticed. -/
def pass (time : Nat) : Act Unit := do
  let signals ← ask (.pause time)
  if signals ≠ [] then modify fun s => { s with pending := s.pending ++ signals }

/-- The time that a step inside a shell takes. -/
def stepTime : Nat := 4000

/-- The shell of a process that it starts: traps are gone, but what is ignored stays so. -/
def becomeCopy : Act Unit := do
  let s ← get
  (s.traps.filter fun t => t.2 ≠ [] && t.1 ≠ 0).forM fun t => ask (.handle t.1 .usual)
  set { s with
    traps := s.traps.filter fun t => t.2 = [], pending := [], jobs := [], loops := s.loops
    formerTraps := if s.isRich then s.traps else []
    copies := s.copies + 1 }

/-! ## The words of errors on files -/

/-- The words for a file that cannot be opened. -/
def openWords (e : OsError) : Bytes :=
  match e with
  | .notFound => "No such file".toList
  | .notDirectory => "No such file".toList
  | e => wordsOf e

/-- The words for a file that cannot be made. -/
def createWords (e : OsError) : Bytes :=
  match e with
  | .notFound => "Directory nonexistent".toList
  | .notDirectory => "Directory nonexistent".toList
  | e => wordsOf e

/-- The words for a program that cannot be run, in the common language. -/
def runWords (e : OsError) : Bytes :=
  match e with
  | .notFound => "not found".toList
  | .notDirectory => "not found".toList
  | e => wordsOf e

/-! ## Commands of the shell -/

/-- A command of the shell: from its arguments to its status. -/
abbrev Builtin := List Bytes → Act Nat

/-- Writes the output of a command and gives its status. -/
def say (text : Bytes) (status : Nat) : Act Nat := do
  match ← within (writeTo 1 text) with
  | .ok _ => return status
  | .error _ =>
    let s ← get
    warn (s.command.getD [] ++ ": I/O error".toList)
    return status ||| 1

/-- Writes a line on the error stream as it is. -/
def sayError (words : Bytes) : Act Unit := do
  let _ ← ask (.write 2 (line words))

/-- The number that an argument gives. -/
def number (text : Bytes) : Act Nat :=
  match integer? text with
  | some n =>
    if 0 ≤ n && n ≤ 2147483647 then return n.toNat
    else fail ("Illegal number: ".toList ++ text)
  | none => fail ("Illegal number: ".toList ++ text)

/-- Options with their values, and the arguments after them. -/
structure Given where
  options : List (Char × Bytes)
  operands : List Bytes

/-- Whether an option is given. -/
def Given.has (g : Given) (option : Char) : Bool :=
  g.options.any fun o => o.1 = option

/-- The options in one argument, of which some have values; a value may be the next argument. -/
def readLetters (plain valued : List Char) : Bytes → List Bytes →
    Act (List (Char × Bytes) × List Bytes)
  | [], rest => return ([], rest)
  | c :: cs, rest => do
    if plain.contains c then
      let (options, rest) ← readLetters plain valued cs rest
      return ((c, []) :: options, rest)
    else if valued.contains c then
      match cs, rest with
      | [], [] =>
        failUsage ("No arg for -".toList ++ c :: " option".toList)
          (some ('-' :: c :: ": option requires an argument".toList))
      | [], value :: rest => return ([(c, value)], rest)
      | value, rest => return ([(c, value)], rest)
    else failUsage ("Illegal option -".toList ++ [c]) (some ('-' :: c :: ": invalid option".toList))

/-- The options of a command and its other arguments. -/
def optionsOf (plain valued : List Char) : Nat → List Bytes → Act Given
  | 0, arguments => return ⟨[], arguments⟩
  | fuel + 1, arguments =>
    match arguments with
    | ['-', '-'] :: rest => return ⟨[], rest⟩
    | ('-' :: c :: cs) :: rest => do
      let (options, rest) ← readLetters plain valued (c :: cs) rest
      let g ← optionsOf plain valued fuel rest
      return ⟨options ++ g.options, g.operands⟩
    | _ => return ⟨[], arguments⟩

/-- Reads the options of a command, and goes on with them. -/
def withGiven (plain valued : List Char) (arguments : List Bytes) (use : Given → Act Nat) :
    Act Nat := do
  use (← optionsOf plain valued (arguments.length + 1) arguments)

/-- A text between quotes, from which the shell would read it back. -/
def singleQuoted (cs : Bytes) : Bytes :=
  let rec go : Nat → Bytes → Bytes
    | 0, _ => []
    | fuel + 1, cs =>
      let plain := cs.takeWhile (· ≠ '\'')
      let rest := cs.drop plain.length
      let marks := rest.takeWhile (· = '\'')
      let part := '\'' :: plain ++ ['\'']
      if marks = [] then part
      else
        let after := rest.drop marks.length
        part ++ '"' :: marks ++ '"' :: (if after = [] then [] else go fuel after)
  go (cs.length + 1) cs

end LinkWatch.Host.Shell
