import LinkWatch.Host.Kernel.Request
import LinkWatch.Text.Bytes
import LinkWatch.Host.Utility.Template

/-!
# Working through inputs

A program is called with a name, arguments and an environment. It answers with one line when it is
asked for help, and with another when it is asked for its version. Many programs read their inputs
piece by piece, keep some state, and give some output for each piece; such a worker stops early once
it needs no more.
-/

namespace LinkWatch.Host.Utility

open LinkWatch.Text LinkWatch.Host.Kernel

/-! ## How programs are used -/

/-- What may follow the names of programs. -/
def usages : List (String × String) :=
  [("basename", "NAME [SUFFIX]"), ("base32", "[OPTION]... [FILE]"),
    ("base64", "[OPTION]... [FILE]"), ("basenc", "[OPTION]... [FILE]"),
    ("chgrp", "[OPTION]... GROUP FILE..."), ("chmod", "[OPTION]... MODE[,MODE]... FILE..."),
    ("chown", "[OPTION]... [OWNER][:[GROUP]] FILE..."),
    ("cmp", "[OPTION]... FILE1 [FILE2 [SKIP1 [SKIP2]]]"), ("comm", "[OPTION]... FILE1 FILE2"),
    ("cp", "[OPTION]... [-T] SOURCE DEST"), ("csplit", "[OPTION]... FILE PATTERN..."),
    ("cut", "OPTION... [FILE]..."), ("date", "[OPTION]... [+FORMAT]"), ("dd", "[OPERAND]..."),
    ("diff", "[OPTION]... FILES"), ("diff3", "[OPTION]... MYFILE OLDFILE YOURFILE"),
    ("dirname", "[OPTION] NAME..."), ("echo", "[SHORT-OPTION]... [STRING]..."),
    ("env", "[OPTION]... [-] [NAME=VALUE]... [COMMAND [ARG]...]"), ("expr", "EXPRESSION"),
    ("factor", "[NUMBER]..."), ("false", "[ignored command line arguments]"),
    ("find", "[-H] [-L] [-P] [-Olevel] [-D debugopts] [path...] [expression]"),
    ("fmt", "[-WIDTH] [OPTION]... [FILE]..."), ("grep", "[OPTION]... PATTERNS [FILE]..."),
    ("groups", "[OPTION]... [USERNAME]..."), ("hostid", "[OPTION]"),
    ("id", "[OPTION]... [USER]..."), ("install", "[OPTION]... [-T] SOURCE DEST"),
    ("join", "[OPTION]... FILE1 FILE2"), ("link", "FILE1 FILE2"),
    ("ln", "[OPTION]... [-T] TARGET LINK_NAME"), ("logname", "[OPTION]"),
    ("mkdir", "[OPTION]... DIRECTORY..."), ("mkfifo", "[OPTION]... NAME..."),
    ("mknod", "[OPTION]... NAME TYPE [MAJOR MINOR]"), ("mktemp", "[OPTION]... [TEMPLATE]"),
    ("mv", "[OPTION]... [-T] SOURCE DEST"), ("nice", "[OPTION] [COMMAND [ARG]...]"),
    ("nohup", "COMMAND [ARG]..."), ("nproc", "[OPTION]..."), ("numfmt", "[OPTION]... [NUMBER]..."),
    ("pathchk", "[OPTION]... NAME..."), ("pinky", "[OPTION]... [USER]..."),
    ("printenv", "[OPTION]... [VARIABLE]..."), ("printf", "FORMAT [ARGUMENT]..."),
    ("pwd", "[OPTION]..."), ("rmdir", "[OPTION]... DIRECTORY..."),
    ("sdiff", "[OPTION]... FILE1 FILE2"),
    ("sed", "[OPTION]... \x7bscript-only-if-no-other-script\x7d [input-file]..."),
    ("seq", "[OPTION]... LAST"), ("shuf", "[OPTION]... [FILE]"), ("sleep", "NUMBER[SUFFIX]..."),
    ("split", "[OPTION]... [FILE [PREFIX]]"), ("stdbuf", "OPTION... COMMAND"),
    ("stty", "[-F DEVICE | --file=DEVICE] [SETTING]..."), ("sync", "[OPTION] [FILE]..."),
    ("test", "EXPRESSION"), ("timeout", "[OPTION] DURATION COMMAND [ARG]..."),
    ("tr", "[OPTION]... STRING1 [STRING2]"), ("true", "[ignored command line arguments]"),
    ("truncate", "OPTION... FILE..."), ("tsort", "[OPTION] [FILE]"), ("tty", "[OPTION]..."),
    ("uname", "[OPTION]..."), ("uniq", "[OPTION]... [INPUT [OUTPUT]]"), ("unlink", "FILE"),
    ("users", "[OPTION]... [FILE]"), ("who", "[OPTION]... [ FILE | ARG1 ARG2 ]"),
    ("whoami", "[OPTION]..."), ("xargs", "[OPTION]... COMMAND [INITIAL-ARGS]..."),
    ("yes", "[STRING]...")]

/-- The sets that programs outside the usual one belong to, with their versions. -/
def programSets : List (String × String) :=
  [("sed", "(GNU sed) 4.9"), ("grep", "(GNU grep) 3.8"), ("egrep", "(GNU grep) 3.8"),
    ("fgrep", "(GNU grep) 3.8"), ("find", "(GNU findutils) 4.9.0"),
    ("xargs", "(GNU findutils) 4.9.0"), ("diff", "(GNU diffutils) 3.8"),
    ("cmp", "(GNU diffutils) 3.8"), ("diff3", "(GNU diffutils) 3.8"),
    ("sdiff", "(GNU diffutils) 3.8"), ("gzip", "1.12"), ("rev", "from util-linux 2.38.1"),
    ("setsid", "from util-linux 2.38.1"), ("kill", "from util-linux 2.38.1")]

/-- The last name of a path. -/
def lastName (path : Bytes) : Bytes :=
  (afterLast? '/' path).getD path

/-- The line that tells how a program is used. -/
def usageLine (program : Bytes) : Bytes :=
  let name := String.ofList (lastName program)
  line ("Usage: ".toList ++ program
    ++ ' ' :: ((usages.lookup name).getD "[OPTION]... [FILE]...").toList)

/-- The line that tells the version of a program. -/
def versionLine (program : Bytes) : Bytes :=
  let name := String.ofList (lastName program)
  line (lastName program ++ ' ' :: ((programSets.lookup name).getD "(GNU coreutils) 9.1").toList)

/-! ## Calls and workers -/

/-- The variables that a program sees. -/
abbrev Environment := List (Bytes × Bytes)

/-- How a program is called. -/
structure Call where
  name : Bytes
  arguments : List Bytes
  environment : Environment := []

/-- Reports something on the error stream. -/
def Call.complain (c : Call) (words : Bytes) : Program Unit := do
  let _ ← request (.write 2 (line (c.name ++ ':' :: ' ' :: words)))
  return ()

/-- Reports something and ends with a status. -/
def Call.refuse (c : Call) (status : Nat) (words : Bytes) : Program Nat := do
  c.complain words
  return status

/-- Tells where help is and ends with a status. -/
def Call.adviseHelp (c : Call) (status : Nat) : Program Nat := do
  let _ ← request (.write 2
    (line ("Try '".toList ++ c.name ++ " --help' for more information.".toList)))
  return status

/-- Reports that a program is used in a wrong way. -/
def Call.misuse (c : Call) (status : Nat) (words : Bytes) : Program Nat := do
  c.complain words
  c.adviseHelp status

/-- A name in quotes. -/
def inQuotes (name : Bytes) : Bytes :=
  '\'' :: name ++ ['\'']

/-- Writes to a descriptor, unless there is nothing to be written. -/
def writeTo (descriptor : Nat) (text : Bytes) : Program (Except OsError Unit) :=
  if text = [] then return .ok () else request (.write descriptor text)

/-- The words of an error as bytes. -/
def wordsOf (e : OsError) : Bytes :=
  e.words.toList

/-- Writes the output and ends with a status, or with a failure if it cannot be written. -/
def Call.deliver (c : Call) (text : Bytes) (status : Nat) : Program Nat := do
  match ← writeTo 1 text with
  | .ok _ => return status
  | .error e => c.refuse 1 ("write error: ".toList ++ wordsOf e)

/-- Enough steps for every input that is read in time. -/
def streamFuel : Nat := 1000000000000

/-- How much is read at once. -/
def pieceSize : Nat := 32768

/-- How much is written at once. -/
def blockSize : Nat := 4096

/-- What a program does with its input. -/
structure Worker (σ : Type) where
  /-- What a piece of input changes, and the output for it. -/
  take : σ → Bytes → σ × Bytes
  /-- Whether no more input is needed. -/
  isDone : σ → Bool := fun _ => false
  /-- Whether output is written as soon as there is some. -/
  isPrompt : Bool := false

/-- A state with output that has not been written yet. -/
structure Pending (σ : Type) where
  state : σ
  /-- The last piece first. -/
  pieces : List Bytes := []
  size : Nat := 0

/-- What stops a worker. -/
inductive Trouble where
  | reading (e : OsError)
  | writing (e : OsError)

/-- Adds output. -/
def Pending.add {σ : Type} (p : Pending σ) (text : Bytes) : Pending σ :=
  if text = [] then p
  else { p with pieces := text :: p.pieces, size := p.size + text.length }

/-- Writes what has not been written. -/
def Pending.flush {σ : Type} (p : Pending σ) : Program (Except OsError (Pending σ)) := do
  match ← writeTo 1 p.pieces.reverse.flatten with
  | .ok _ => return .ok { state := p.state }
  | .error e => return .error e

/-- Lets a worker read a descriptor to its end, or as far as needed. -/
def Worker.pump {σ : Type} (w : Worker σ) (descriptor : Nat) :
    Nat → Pending σ → Program (Pending σ × Option Trouble)
  | 0, p => return (p, none)
  | fuel + 1, p => do
    if w.isDone p.state then return (p, none)
    match ← request (.read descriptor pieceSize) with
    | .error e => return (p, some (.reading e))
    | .ok [] => return (p, none)
    | .ok piece =>
      let (state, text) := w.take p.state piece
      let p := { p with state := state }.add text
      if p.size ≥ blockSize || (w.isPrompt && p.size > 0) then
        match ← p.flush with
        | .ok p => w.pump descriptor fuel p
        | .error e => return (p, some (.writing e))
      else w.pump descriptor fuel p

/-- The descriptor under which files are opened. -/
def fileDescriptor : Nat := 63

/-- How a program words that a file cannot be opened or read. -/
structure Wording where
  opening : Bytes → OsError → Bytes
  reading : Bytes → OsError → Bytes

/-- The file as it is and the error. -/
def Wording.bare : Wording where
  opening file e := file ++ ':' :: ' ' :: wordsOf e
  reading file e := file ++ ':' :: ' ' :: wordsOf e

/-- The usual words: the file, in quotes if it needs them, and the error. -/
def Wording.usual : Wording where
  opening file e := shellQuoted file ++ ':' :: ' ' :: wordsOf e
  reading file e := shellQuoted file ++ ':' :: ' ' :: wordsOf e

/-- Words that quote the file. -/
def Wording.quoting : Wording where
  opening file e :=
    "cannot open '".toList ++ file ++ "' for reading: ".toList ++ wordsOf e
  reading file e := "error reading '".toList ++ file ++ "': ".toList ++ wordsOf e

/-- Lets a worker go through files, of which a dash stands for the input. The second value is false
if some file could not be read. -/
def Worker.overFiles {σ : Type} (w : Worker σ) (c : Call) (wording : Wording) :
    List Bytes → Pending σ → Program (Pending σ × Bool × Option OsError)
  | [], p => return (p, true, none)
  | file :: files, p => do
    let isInput := file = ['-']
    let opened ←
      if isInput then pure (.ok ()) else request (.open fileDescriptor file .read false)
    match opened with
    | .error e =>
      c.complain (wording.opening file e)
      let (p, _, trouble) ← w.overFiles c wording files p
      return (p, false, trouble)
    | .ok _ =>
      let (p, trouble) ← w.pump (if isInput then 0 else fileDescriptor) streamFuel p
      if !isInput then request (.close fileDescriptor)
      match trouble with
      | none => w.overFiles c wording files p
      | some (.writing e) => return (p, false, some e)
      | some (.reading e) =>
        c.complain (wording.reading file e)
        let (p, _, trouble) ← w.overFiles c wording files p
        return (p, false, trouble)

/-- Lets a worker go through files, or through the input if there are none, and ends. -/
def Worker.run {σ : Type} (w : Worker σ) (c : Call) (wording : Wording) (files : List Bytes)
    (start : σ) (finish : σ → Bytes × Nat) (failure : Nat) : Program Nat := do
  let files := if files = [] then [['-']] else files
  let (p, isFine, trouble) ← w.overFiles c wording files { state := start }
  match trouble with
  | some e => c.refuse failure ("write error: ".toList ++ wordsOf e)
  | none =>
    let (text, status) := finish p.state
    let status := if isFine then status else failure
    match ← (p.add text).flush with
    | .ok _ => return status
    | .error e => c.refuse failure ("write error: ".toList ++ wordsOf e)

/-! ## Workers on lines -/

/-- A state between two pieces of input: the part of a line that has been read, its pieces in
reverse. -/
structure LineState (σ : Type) where
  partialLine : List Bytes := []
  state : σ
  isDone : Bool := false

/-- What is done with a line, which may lack its end if it is the last one; whether more lines are
needed. -/
abbrev LineStep (σ : Type) := σ → Bytes → Bool → σ × Bytes × Bool

/-- Goes through the lines of a piece. -/
def feedLines {σ : Type} (step : LineStep σ) : List Bytes → LineState σ → List Bytes →
    LineState σ × List Bytes
  | [], s, out => (s, out)
  | [last], s, out =>
    ({ s with partialLine := if last = [] then s.partialLine else last :: s.partialLine }, out)
  | text :: rest, s, out =>
    if s.isDone then (s, out)
    else
      let whole := if s.partialLine = [] then text
        else (text :: s.partialLine).reverse.flatten
      let (state, shown, goes) := step s.state whole true
      feedLines step rest { partialLine := [], state := state, isDone := !goes } (shown :: out)

/-- A worker that does something with each line, of which each is ended by some character. -/
def recordWorker {σ : Type} (ending : Char) (step : LineStep σ) : Worker (LineState σ) where
  take s piece :=
    let (s, out) := feedLines step (pieces ending piece) s []
    (s, out.reverse.flatten)
  isDone s := s.isDone

/-- What a worker on lines does at the end of its input. -/
def LineState.finish {σ : Type} (step : LineStep σ) (s : LineState σ) : σ × Bytes :=
  if s.isDone || s.partialLine = [] then (s.state, [])
  else
    let (state, shown, _) := step s.state s.partialLine.reverse.flatten false
    (state, shown)

/-- A line as it was read, with its end or without. -/
def lineAs (text : Bytes) (isEnded : Bool) : Bytes :=
  if isEnded then line text else text

/-- Lets something be done with each line of some files, of which each is ended by some character.
-/
def overRecords {σ : Type} (ending : Char) (c : Call) (wording : Wording) (files : List Bytes)
    (start : σ) (step : LineStep σ) (finish : σ → Bytes × Nat) (failure : Nat) : Program Nat :=
  (recordWorker ending step).run c wording files { state := start }
    (fun s =>
      let (state, shown) := s.finish step
      let (text, status) := finish state
      (shown ++ text, status)) failure

/-- Lets something be done with each line of some files. -/
def overLines {σ : Type} (c : Call) (wording : Wording) (files : List Bytes) (start : σ)
    (step : LineStep σ) (finish : σ → Bytes × Nat) (failure : Nat) : Program Nat :=
  overRecords '\n' c wording files start step finish failure

/-- The lines of a text that end with some character. -/
def recordsOf (ending : Char) (text : Bytes) : List Bytes :=
  let parts := pieces ending text
  if parts.getLast? = some [] then parts.dropLast else parts

/-- A worker that keeps everything it reads, the last piece first. -/
def collector : Worker (List Bytes) where
  take s piece := (piece :: s, [])

/-- Reads a descriptor to its end. -/
def readAll (descriptor : Nat) : Program (Except OsError Bytes) := do
  let (p, trouble) ← collector.pump descriptor streamFuel { state := [] }
  match trouble with
  | some (.reading e) => return .error e
  | _ => return .ok p.state.reverse.flatten

/-- Reads a file to its end. -/
def readFile (file : Bytes) : Program (Except OsError Bytes) := do
  if file = ['-'] then readAll 0
  else
    match ← request (.open fileDescriptor file .read false) with
    | .error e => return .error e
    | .ok _ =>
      let text ← readAll fileDescriptor
      request (.close fileDescriptor)
      return text

/-! ## Options -/

/-- Options that have been read, and the other arguments. -/
structure Options where
  flags : List (Char × Bytes) := []
  operands : List Bytes := []

/-- What stands for a question for help among options. -/
def helpFlag : Char := '\x1e'

/-- What stands for a question for the version among options. -/
def versionFlag : Char := '\x1f'

/-- Whether an option is given. -/
def Options.has (o : Options) (flag : Char) : Bool :=
  o.flags.any fun f => f.1 = flag

/-- The value of an option; the last one counts. -/
def Options.value? (o : Options) (flag : Char) : Option Bytes :=
  (o.flags.reverse.find? fun f => f.1 = flag).map (·.2)

/-- All values of an option. -/
def Options.values (o : Options) (flag : Char) : List Bytes :=
  (o.flags.filter fun f => f.1 = flag).map (·.2)

/-- The options that a program knows. -/
structure OptionTable where
  /-- Options without a value. -/
  plain : List Char
  /-- Options with a value. -/
  valued : List Char := []
  /-- Options with a value that may be left out; it stands in the same argument. -/
  optional : List Char := []
  /-- Long names. -/
  long : List (String × Char) := []
  /-- Whether the first argument that is no option ends them. -/
  isStrict : Bool := false

/-- Reads a cluster of options of one letter. -/
def OptionTable.cluster (t : OptionTable) :
    Bytes → List Bytes → Except Bytes (List (Char × Bytes) × List Bytes)
  | [], rest => .ok ([], rest)
  | c :: cs, rest =>
    if c ∈ t.valued then
      if cs ≠ [] then .ok ([(c, cs)], rest)
      else
        match rest with
        | value :: rest => .ok ([(c, value)], rest)
        | [] => .error ("option requires an argument -- '".toList ++ [c, '\''])
    else if c ∈ t.optional then .ok ([(c, cs)], rest)
    else if c ∈ t.plain then
      (t.cluster cs rest).map fun p => ((c, []) :: p.1, p.2)
    else .error ("invalid option -- '".toList ++ [c, '\''])

/-- Reads an option of a long name. -/
def OptionTable.longOption (t : OptionTable) (text : Bytes) (rest : List Bytes) :
    Except Bytes (List (Char × Bytes) × List Bytes) :=
  let (name, value) := match cutAt? '=' text with
    | some (name, value) => (name, some value)
    | none => (text, none)
  let isMeant (o : String × Char) : Bool := name.isPrefixOf o.1.toList
  let all := t.long ++ [("help", helpFlag), ("version", versionFlag)]
  let candidates := match all.find? fun o => o.1.toList = name with
    | some o => [o]
    | none =>
      let meant := all.filter isMeant
      let isOne := meant.all fun (o : String × Char) =>
        meant.head?.any fun (m : String × Char) => m.2 = o.2
      if isOne then meant.take 1 else meant
  match candidates with
  | [(_, c)] =>
    if c ∈ t.valued then
      match value, rest with
      | some value, _ => .ok ([(c, value)], rest)
      | none, value :: rest => .ok ([(c, value)], rest)
      | none, [] => .error ("option '--".toList ++ name ++ "' requires an argument".toList)
    else if c ∈ t.optional then .ok ([(c, value.getD [])], rest)
    else if value.isSome then
      .error ("option '--".toList ++ name ++ "' doesn't allow an argument".toList)
    else .ok ([(c, [])], rest)
  | [] => .error ("unrecognized option '--".toList ++ text ++ ['\''])
  | _ => .error ("option '--".toList ++ text ++ "' is ambiguous".toList)

/-- Reads arguments. -/
def OptionTable.read (t : OptionTable) : Nat → List Bytes → Except Bytes Options
  | 0, _ => .ok {}
  | fuel + 1, arguments =>
    let go (p : List (Char × Bytes) × List Bytes) : Except Bytes Options :=
      if p.1.any fun f => f.1 = helpFlag || f.1 = versionFlag then .ok { flags := p.1 }
      else (t.read fuel p.2).map fun o => { o with flags := p.1 ++ o.flags }
    match arguments with
    | [] => .ok {}
    | ['-', '-'] :: rest => .ok { operands := rest }
    | ('-' :: '-' :: name) :: rest => (t.longOption name rest).bind go
    | ('-' :: c :: cs) :: rest => (t.cluster (c :: cs) rest).bind go
    | a :: rest =>
      if t.isStrict then .ok { operands := a :: rest }
      else (t.read fuel rest).map fun o => { o with operands := a :: o.operands }

/-- Reads the arguments of a call and goes on with them. -/
def Call.withOptions (c : Call) (t : OptionTable) (failure : Nat) (use : Options → Program Nat) :
    Program Nat :=
  match t.read (c.arguments.length + 1) c.arguments with
  | .ok o =>
    if o.has helpFlag then c.deliver (usageLine c.name) 0
    else if o.has versionFlag then c.deliver (versionLine c.name) 0
    else use o
  | .error words => c.misuse failure words

end LinkWatch.Host.Utility
