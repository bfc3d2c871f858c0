import LinkWatch.Host.Shell.Pattern
import LinkWatch.Host.Utility.Inspection
import LinkWatch.Host.Utility.Launching
import LinkWatch.Host.Utility.Regex

/-!
# Finding files

A program that walks through directories and does something for all that passes some tests. Tests
and actions form an expression; an action is a test that has an effect.
-/

namespace LinkWatch.Host.Utility

open LinkWatch.Text LinkWatch.Host.Kernel LinkWatch.Decimal

/-- How a number is compared with a given one. -/
inductive Comparison where
  | above
  | below
  | equal
  deriving DecidableEq

/-- Whether a number compares with another one as wanted. -/
def Comparison.holds (k : Comparison) (m n : Int) : Bool :=
  match k with
  | .above => n < m
  | .below => m < n
  | .equal => m = n

/-- A number with its comparison. -/
def comparison? (cs : Bytes) : Option (Comparison × Nat) :=
  match cs with
  | '+' :: rest => (natural? rest).map (.above, ·)
  | '-' :: rest => (natural? rest).map (.below, ·)
  | _ => (natural? cs).map (.equal, ·)

/-- Where the output of an action goes: to the output, or to a file. -/
abbrev Sink := Option Bytes

/-- A test or an action. -/
inductive Probe where
  | always (value : Bool)
  | named (pattern : Bytes) (ignoresCase isWhole : Bool)
  | linked (pattern : Bytes) (ignoresCase : Bool)
  | matching (r : Regex)
  | ofKind (letters : Bytes) (follows : Bool)
  | sized (k : Comparison) (n unit : Nat)
  | permitted (how : Char) (mode : Nat)
  | empty
  | newer (time : Nat)
  | aged (k : Comparison) (n unit : Nat)
  | counted (k : Comparison) (n : Nat) (isLinks : Bool)
  | same (number : Nat)
  | executable
  | print (ending : Char) (sink : Sink)
  | printFormat (format : Bytes) (sink : Sink)
  | list (sink : Sink)
  /-- Runs a program for each path, or for many at once. -/
  | run (number : Nat) (words : List Bytes) (isBatch inDirectory asks : Bool)
  | delete
  | prune
  | quit
  | negated (p : Probe)
  | both (a b : Probe)
  | either (a b : Probe)
  /-- Both, of which the second counts. -/
  | after (a b : Probe)

/-- What holds for a whole walk. -/
structure WalkPlan where
  follows : Bool := false
  followsFirst : Bool := false
  least : Nat := 0
  most : Option Nat := none
  /-- Whether directories come after what they hold. -/
  isDeep : Bool := false
  hasAction : Bool := false
  style : Bytes := []
  runs : Nat := 0

/-! ## Reading -/

/-- What an expression is read with. -/
structure ProbeContext where
  disk : Disk
  zone : Zone
  present : Int × Nat

/-- What has been read of an expression. -/
structure ReadProbe where
  probe : Probe
  rest : List Bytes
  plan : WalkPlan

/-- An expression in the notation of the editor of that name, in the extended notation. -/
def extendedNotation : Bytes → Bytes
  | [] => []
  | '\\' :: c :: rest =>
    if c ∈ ['(', ')', '|'] then c :: extendedNotation rest else '\\' :: c :: extendedNotation rest
  | c :: rest =>
    if c ∈ ['(', ')', '|', '\x7b', '\x7d'] then '\\' :: c :: extendedNotation rest
    else c :: extendedNotation rest

/-- The expression for whole paths. -/
def pathRegex (style pattern : Bytes) (ignoresCase : Bool) : Except String Regex :=
  let name := String.ofList style
  let isExtended := name ∈ ["posix-extended", "egrep", "posix-egrep", "awk", "posix-awk", "gnu-awk",
    "posix-minimal-extended"]
  let isBasic := name ∈ ["posix-basic", "grep", "sed", "ed", "posix-minimal-basic"]
  let n : RegexStyle := { extended := !isBasic, ignoresCase := ignoresCase, matchesEndings := true }
  let text := if isExtended || isBasic then pattern else extendedNotation pattern
  (n.read text).map fun p => .both (.edge .start) (.both p.1 (.edge .stop))

/-- The units of sizes. -/
def sizeUnit? (c : Char) : Option Nat :=
  match c with
  | 'b' => some 512
  | 'c' => some 1
  | 'w' => some 2
  | 'k' => some 1024
  | 'M' => some 1048576
  | 'G' => some 1073741824
  | _ => none

/-- A size with its comparison and unit. -/
def sizeProbe? (cs : Bytes) : Option Probe :=
  let unit := cs.getLast?.bind sizeUnit?
  (comparison? (if unit.isSome then cs.dropLast else cs)).map fun (k, n) =>
    .sized k n (unit.getD 512)

/-- Permissions that are tested. -/
def permissionProbe? (cs : Bytes) : Option Probe :=
  let (how, text) := match cs with
    | '-' :: rest => ('-', rest)
    | '/' :: rest => ('/', rest)
    | _ => ('=', cs)
  (ModeChange.ofText? text).map fun m => .permitted how (m.apply 0 false 0)

/-- The words of a program that is run, up to their end, and whether it is run for many paths at
once. -/
def runWords? : List Bytes → Option (List Bytes × Bool × List Bytes)
  | [] => none
  | [';'] :: rest => some ([], false, rest)
  | ['\x7b', '\x7d'] :: ['+'] :: rest => some ([], true, rest)
  | word :: rest =>
    (runWords? rest).map fun (words, isBatch, rest) => (word :: words, isBatch, rest)

/-- Reads a test or an action, after its name. -/
def readNamedProbe (x : ProbeContext) (plan : WalkPlan) (name : String) (rest : List Bytes) :
    Except Bytes ReadProbe :=
  let shown : Bytes := '\x60' :: name.toList ++ ['\'']
  let is (p : Probe) : Except Bytes ReadProbe := .ok ⟨p, rest, plan⟩
  let does (p : Probe) : Except Bytes ReadProbe := .ok ⟨p, rest, { plan with hasAction := true }⟩
  let withValue (use : Bytes → List Bytes → Except Bytes ReadProbe) : Except Bytes ReadProbe :=
    match rest with
    | value :: rest => use value rest
    | [] => .error ("missing argument to ".toList ++ shown)
  let invalid (value : Bytes) : Bytes :=
    "invalid argument \x60".toList ++ value ++ "' to \x60".toList ++ name.toList ++ ['\'']
  let given (f : Bytes → Option Probe) : Except Bytes ReadProbe :=
    withValue fun value rest =>
      match f value with
      | some p => .ok ⟨p, rest, plan⟩
      | none => .error (invalid value)
  let option (f : Bytes → Option WalkPlan) : Except Bytes ReadProbe :=
    withValue fun value rest =>
      match f value with
      | some plan => .ok ⟨.always true, rest, plan⟩
      | none => .error (invalid value)
  let acts (f : Bytes → Probe) : Except Bytes ReadProbe :=
    withValue fun value rest => .ok ⟨f value, rest, { plan with hasAction := true }⟩
  let reference (f : Found → Probe) : Except Bytes ReadProbe :=
    withValue fun value rest =>
      match x.disk.find value with
      | .ok found => .ok ⟨f found, rest, plan⟩
      | .error e => .error (inQuotes value ++ ':' :: ' ' :: wordsOf e)
  let runs (inDirectory asks : Bool) : Except Bytes ReadProbe :=
    match runWords? rest with
    | some (word :: words, isBatch, rest) =>
      .ok ⟨.run plan.runs (word :: words) isBatch inDirectory asks, rest,
        { plan with hasAction := true, runs := plan.runs + 1 }⟩
    | _ => .error ("missing argument to ".toList ++ shown)
  let age (unit : Nat) : Except Bytes ReadProbe :=
    given fun v => (comparison? v).map fun (k, n) => .aged k n unit
  let moment (value : Bytes) (rest : List Bytes) : Except Bytes ReadProbe :=
    match dateOf? x.zone x.present value with
    | some (seconds, part) => .ok ⟨.newer (seconds.toNat * 1000000000 + part), rest, plan⟩
    | none => .error (invalid value)
  match name with
  | "-true" => is (.always true)
  | "-false" => is (.always false)
  | "-name" => given fun v => some (.named v false false)
  | "-iname" => given fun v => some (.named v true false)
  | "-path" => given fun v => some (.named v false true)
  | "-wholename" => given fun v => some (.named v false true)
  | "-ipath" => given fun v => some (.named v true true)
  | "-iwholename" => given fun v => some (.named v true true)
  | "-lname" => given fun v => some (.linked v false)
  | "-ilname" => given fun v => some (.linked v true)
  | "-regex" => given fun v => (pathRegex plan.style v false).toOption.map .matching
  | "-iregex" => given fun v => (pathRegex plan.style v true).toOption.map .matching
  | "-regextype" => option fun v => some { plan with style := v }
  | "-type" => given fun v => some (.ofKind v false)
  | "-xtype" => given fun v => some (.ofKind v true)
  | "-size" => given sizeProbe?
  | "-perm" => given permissionProbe?
  | "-empty" => is .empty
  | "-newer" => reference fun f => .newer f.node.time
  | "-anewer" => reference fun f => .newer f.node.time
  | "-cnewer" => reference fun f => .newer f.node.time
  | "-newermt" => withValue moment
  | "-samefile" => reference fun f => .same f.number
  | "-mtime" => age 86400
  | "-atime" => age 86400
  | "-ctime" => age 86400
  | "-mmin" => age 60
  | "-amin" => age 60
  | "-cmin" => age 60
  | "-links" => given fun v => (comparison? v).map fun (k, n) => .counted k n true
  | "-inum" => given fun v => (comparison? v).map fun (k, n) => .counted k n false
  | "-uid" => given fun v => (comparison? v).map fun (k, n) => .always (k.holds 0 n)
  | "-gid" => given fun v => (comparison? v).map fun (k, n) => .always (k.holds 0 n)
  | "-user" => given fun v => some (.always (v = "root".toList || v = ['0']))
  | "-group" => given fun v => some (.always (v = "root".toList || v = ['0']))
  | "-nouser" => is (.always false)
  | "-nogroup" => is (.always false)
  | "-readable" => is (.always true)
  | "-writable" => is (.always true)
  | "-executable" => is .executable
  | "-fstype" => given fun _ => some (.always false)
  | "-maxdepth" => option fun v => (natural? v).map fun n => { plan with most := some n }
  | "-mindepth" => option fun v => (natural? v).map fun n => { plan with least := n }
  | "-depth" => .ok ⟨.always true, rest, { plan with isDeep := true }⟩
  | "-d" => .ok ⟨.always true, rest, { plan with isDeep := true }⟩
  | "-follow" => .ok ⟨.always true, rest, { plan with follows := true }⟩
  | "-mount" => is (.always true)
  | "-xdev" => is (.always true)
  | "-noleaf" => is (.always true)
  | "-daystart" => is (.always true)
  | "-warn" => is (.always true)
  | "-nowarn" => is (.always true)
  | "-ignore_readdir_race" => is (.always true)
  | "-noignore_readdir_race" => is (.always true)
  | "-print" => does (.print '\n' none)
  | "-print0" => does (.print '\x00' none)
  | "-printf" => acts fun v => .printFormat v none
  | "-ls" => does (.list none)
  | "-fprint" => acts fun v => .print '\n' (some v)
  | "-fprint0" => acts fun v => .print '\x00' (some v)
  | "-fls" => acts fun v => .list (some v)
  | "-fprintf" =>
    match rest with
    | file :: format :: rest =>
      .ok ⟨.printFormat format (some file), rest, { plan with hasAction := true }⟩
    | _ => .error ("missing argument to ".toList ++ shown)
  | "-exec" => runs false false
  | "-execdir" => runs true false
  | "-ok" => runs false true
  | "-okdir" => runs true true
  | "-delete" => .ok ⟨.delete, rest, { plan with hasAction := true, isDeep := true }⟩
  | "-prune" => is .prune
  | "-quit" => does .quit
  | _ =>
    if name.startsWith "-" then .error ("unknown predicate ".toList ++ shown)
    else .error ("paths must precede expression: ".toList ++ shown)

mutual

/-- Reads expressions of which the last one counts. -/
def readProbes (x : ProbeContext) : Nat → WalkPlan → List Bytes → Except Bytes ReadProbe
  | 0, _, _ => .error "expression too long".toList
  | fuel + 1, plan, words =>
    (readEitherProbe x fuel plan words).bind fun a =>
      match a.rest with
      | [','] :: rest =>
        (readProbes x fuel a.plan rest).map fun b => { b with probe := .after a.probe b.probe }
      | _ => .ok a

/-- Reads alternatives. -/
def readEitherProbe (x : ProbeContext) : Nat → WalkPlan → List Bytes → Except Bytes ReadProbe
  | 0, _, _ => .error "expression too long".toList
  | fuel + 1, plan, words =>
    (readBothProbe x fuel plan words).bind fun a =>
      match a.rest with
      | word :: rest =>
        if word = "-o".toList || word = "-or".toList then
          (readEitherProbe x fuel a.plan rest).map fun b =>
            { b with probe := .either a.probe b.probe }
        else .ok a
      | [] => .ok a

/-- Reads tests that all have to hold. -/
def readBothProbe (x : ProbeContext) : Nat → WalkPlan → List Bytes → Except Bytes ReadProbe
  | 0, _, _ => .error "expression too long".toList
  | fuel + 1, plan, words =>
    (readOneProbe x fuel plan words).bind fun a =>
      let go (rest : List Bytes) : Except Bytes ReadProbe :=
        (readBothProbe x fuel a.plan rest).map fun b => { b with probe := .both a.probe b.probe }
      match a.rest with
      | [] => .ok a
      | [')'] :: _ => .ok a
      | [','] :: _ => .ok a
      | word :: rest =>
        if word = "-o".toList || word = "-or".toList then .ok a
        else if word = "-a".toList || word = "-and".toList then go rest
        else go a.rest

/-- Reads one test. -/
def readOneProbe (x : ProbeContext) : Nat → WalkPlan → List Bytes → Except Bytes ReadProbe
  | 0, _, _ => .error "expression too long".toList
  | fuel + 1, plan, words =>
    let negated (rest : List Bytes) : Except Bytes ReadProbe :=
      (readOneProbe x fuel plan rest).map fun a => { a with probe := .negated a.probe }
    match words with
    | [] => .error "expected an expression".toList
    | ['!'] :: rest => negated rest
    | ['('] :: rest =>
      (readProbes x fuel plan rest).bind fun a =>
        match a.rest with
        | [')'] :: rest => .ok { a with rest := rest }
        | _ => .error ("invalid expression; I was expecting to find a ')' somewhere ".toList
            ++ "but did not see one.".toList)
    | [')'] :: _ => .error "invalid expression; you have too many ')'".toList
    | word :: rest =>
      if word = "-not".toList then negated rest
      else if ["-o".toList, "-or".toList, "-a".toList, "-and".toList, [',']].contains word then
        .error ("invalid expression; you have used a binary operator '".toList ++ word
          ++ "' with nothing before it.".toList)
      else readNamedProbe x plan (String.ofList word) rest

end

/-! ## Testing -/

/-- Something that a walk has come to. -/
structure Visit where
  path : Bytes
  /-- The path from which the walk has started. -/
  start : Bytes
  depth : Nat
  found : Found

/-- The last name of a path, without slashes after it. -/
def Visit.name (v : Visit) : Bytes :=
  let cs := (v.path.reverse.dropWhile (· = '/')).reverse
  if cs = [] then (if v.path = [] then [] else ['/']) else lastName cs

/-- The directory of a path. -/
def Visit.directory (v : Visit) : Bytes :=
  match cutLast? '/' v.path with
  | some (before, _) => if before = [] then ['/'] else before
  | none => ['.']
where
  /-- What stands before and after the last of some characters. -/
  cutLast? (mark : Char) (cs : Bytes) : Option (Bytes × Bytes) :=
    (afterLast? mark cs).map fun after => (cs.take (cs.length - after.length - 1), after)

/-- The path from where the walk has started. -/
def Visit.inside (v : Visit) : Bytes :=
  (v.path.drop v.start.length).dropWhile (· = '/')

/-- What a walk has come to. -/
structure WalkState where
  prunes : Bool := false
  quits : Bool := false
  hasFailed : Bool := false
  /-- The paths for which programs are still to be run, the last one first. -/
  batches : List (Nat × Bytes) := []

/-- A part of a walk. -/
abbrev Walk := StateT WalkState Program

/-- Does something that the system is asked for. -/
def walking {α : Type} (p : Program α) : Walk α :=
  StateT.lift p

/-- Reports something; the walk has failed then. -/
def Call.failWalk (c : Call) (words : Bytes) : Walk Unit := do
  walking (c.complain words)
  modify fun s => { s with hasFailed := true }

/-- Whether a pattern for names matches. -/
def matchesName (pattern : Bytes) (ignoresCase : Bool) (cs : Bytes) : Bool :=
  let rec signs : Bytes → Bytes
    | '[' :: '^' :: rest => '[' :: '!' :: signs rest
    | c :: rest => c :: signs rest
    | [] => []
  let same (cs : Bytes) : Bytes := if ignoresCase then cs.map Char.toLower else cs
  Shell.matchesPattern (Shell.glyphsOf (signs (same pattern))) (same cs)

/-- A slot of a format for what has been found. -/
def Visit.slot (v : Visit) (c : Call) (d : Disk) (letter : Char) (rest : Bytes) : Bytes × Bytes :=
  let node := v.found.node
  let zone := c.environment.zone
  let seconds : Int := (node.time / 1000000000 : Nat)
  let m := zone.moment seconds (node.time % 1000000000)
  let places := padRight 10 '0' (padLeft 9 '0' (digitsOf (node.time % 1000000000)))
  match letter with
  | 'p' => (v.path, rest)
  | 'f' => (v.name, rest)
  | 'h' => (v.directory, rest)
  | 'P' => (v.inside, rest)
  | 'H' => (v.start, rest)
  | 's' => (digitsOf (sizeOfNode node), rest)
  | 'k' => (digitsOf ((blocksOfNode node + 1) / 2), rest)
  | 'b' => (digitsOf (blocksOfNode node), rest)
  | 'm' => (octalDigits node.mode, rest)
  | 'M' => (kindLetter node.kind :: modeLetters node.mode, rest)
  | 'u' => ("root".toList, rest)
  | 'g' => ("root".toList, rest)
  | 'U' => (['0'], rest)
  | 'G' => (['0'], rest)
  | 'i' => (digitsOf v.found.number, rest)
  | 'n' => (digitsOf (d.linkCount v.found), rest)
  | 'd' => (digitsOf v.depth, rest)
  | 'D' => ("49".toList, rest)
  | 'F' => ("overlay".toList, rest)
  | 'S' => (['1'], rest)
  | 'y' => ([if kindLetter node.kind = '-' then 'f' else kindLetter node.kind], rest)
  | 'Y' =>
    match d.find v.path with
    | .ok f => ([if kindLetter f.node.kind = '-' then 'f' else kindLetter f.node.kind], rest)
    | .error _ => (['N'], rest)
  | 'l' =>
    match node.kind with
    | .link target => (target, rest)
    | _ => ([], rest)
  | letter =>
    if letter ∈ ['t', 'a', 'c'] then (m.inFormat "%a %b %e %H:%M:%S.".toList ++ places
      ++ m.inFormat " %Y".toList, rest)
    else if letter ∈ ['T', 'A', 'C', 'B'] then
      match rest with
      | '@' :: rest => (numeralOf seconds ++ '.' :: places, rest)
      | '+' :: rest =>
        (m.inFormat "%Y-%m-%d+%H:%M:%S.".toList ++ places, rest)
      | 'S' :: rest => (m.inFormat "%S.".toList ++ places, rest)
      | 'T' :: rest => (m.inFormat "%H:%M:%S.".toList ++ places, rest)
      | k :: rest => (m.inFormat ['%', k], rest)
      | [] => ([], [])
    else (['%', letter], rest)

/-- A format with the values of its slots. -/
def Visit.inFormat (v : Visit) (c : Call) (d : Disk) : Nat → Bytes → Bytes
  | 0, _ => []
  | fuel + 1, cs =>
    match cs with
    | [] => []
    | '%' :: '%' :: rest => '%' :: v.inFormat c d fuel rest
    | '%' :: rest =>
      let flags := rest.takeWhile fun c => c ∈ ['-', '+', ' ', '#', '0']
      let (width, after) := readBased 10 (rest.drop flags.length)
      let (most, after) : Option Nat × Bytes := match after with
        | '.' :: after => let p := readBased 10 after; (some p.1, p.2)
        | after => (none, after)
      match after with
      | [] => '%' :: rest
      | letter :: after =>
        let (value, after) := v.slot c d letter after
        let value := most.elim value value.take
        let text := if '-' ∈ flags then padRight width ' ' value
          else padLeft width (if '0' ∈ flags then '0' else ' ') value
        text ++ v.inFormat c d fuel after
    | '\\' :: 'c' :: _ => []
    | '\\' :: rest =>
      match rest with
      | '0' :: _ =>
        let digits := (rest.takeWhile isOctal).take 3
        Char.ofNat ((readBased 8 digits).1 % 256) :: v.inFormat c d fuel (rest.drop digits.length)
      | _ =>
        let p := readEscape .system rest
        p.1 ++ v.inFormat c d fuel p.2
    | c' :: rest => c' :: v.inFormat c d fuel rest

/-- The line that lists what has been found. -/
def Visit.listLine (v : Visit) (c : Call) (d : Disk) (present : Int) : Bytes :=
  let node := v.found.node
  let seconds : Int := (node.time / 1000000000 : Nat)
  let m := c.environment.zone.moment seconds 0
  let isRecent := present - 15778476 < seconds && seconds ≤ present + 3600
  let time := m.inFormat (if isRecent then "%b %e %H:%M" else "%b %e  %Y").toList
  let target : Bytes := match node.kind with
    | .link t => " -> ".toList ++ t
    | _ => []
  let size := match node.kind with
    | .device _ =>
      let (a, b) := deviceNumbers node.kind
      padLeft 3 ' ' (digitsOf a) ++ ", ".toList ++ padLeft 3 ' ' (digitsOf b)
    | _ => padLeft 8 ' ' (digitsOf (sizeOfNode node))
  line (joinWords [padLeft 9 ' ' (digitsOf v.found.number),
    padLeft 6 ' ' (digitsOf ((blocksOfNode node + 1) / 2)),
    kindLetter node.kind :: modeLetters node.mode, padLeft 3 ' ' (digitsOf (d.linkCount v.found)),
    padRight 8 ' ' "root".toList, padRight 8 ' ' "root".toList, size, time, v.path ++ target])

/-- Writes text to the output or to the end of a file. -/
def writeSink (sink : Sink) (text : Bytes) : Program Unit := do
  match sink with
  | none =>
    let _ ← writeTo 1 text
    return ()
  | some file =>
    if file = "/dev/stdout".toList then
      let _ ← writeTo 1 text
    else if file = "/dev/stderr".toList then
      let _ ← writeTo 2 text
    else
      match ← request (.open fileDescriptor file .append false) with
      | .ok _ =>
        let _ ← writeTo fileDescriptor text
        request (.close fileDescriptor)
      | .error _ => return ()

/-- Runs words as a program, in a directory if one is given; whether it succeeds. -/
def runFor (perform : Performer) (c : Call) (directory : Option Bytes) (words : List Bytes) :
    Program Bool := do
  let child ← request (.fork (do
    match directory with
    | some path =>
      let _ ← request (.files fun d => ((), match d.find path with
        | .ok f => { d with working := f.location }
        | .error _ => d))
    | none => pure ()
    becomeProgram perform c inQuotes (callOf c.environment words) : Program Nat).action)
  match ← request (.wait (some [child]) none false) with
  | .ended _ how => return statusOf how = 0
  | _ => return false

/-- Tests something that has been found. -/
def Probe.holds (perform : Performer) (c : Call) (plan : WalkPlan) (v : Visit) : Probe → Walk Bool
  | .always value => return value
  | .named pattern ignoresCase isWhole =>
    return matchesName pattern ignoresCase (if isWhole then v.path else v.name)
  | .linked pattern ignoresCase =>
    match v.found.node.kind with
    | .link target => return matchesName pattern ignoresCase target
    | _ => return false
  | .matching r => return (r.search (.start v.path)).isSome
  | .ofKind letters follows => do
    let own := kindLetter v.found.node.kind
    let kind ← if !follows then pure own
      else walking (inquire fun d => match d.find v.path with
        | .ok f => kindLetter f.node.kind
        | .error _ => 'l')
    let letter := if kind = '-' then 'f' else kind
    return (pieces ',' letters).any fun l => l.contains letter
  | .sized k n unit =>
    return k.holds (((sizeOfNode v.found.node + unit - 1) / unit : Nat)) n
  | .permitted how mode =>
    let own := v.found.node.mode
    return match how with
      | '-' => own &&& mode = mode
      | '/' => mode = 0 || own &&& mode ≠ 0
      | _ => own = mode
  | .empty =>
    match v.found.node.kind with
    | .file text => return text = []
    | .directory => walking (inquire fun d => d.names v.found.location = [])
    | _ => return false
  | .newer time => return time < v.found.node.time
  | .aged k n unit => do
    let now ← walking (inquire fun d => d.now)
    let age : Int := ((now - v.found.node.time) / 1000000000 : Nat)
    let whole := age / (unit : Int)
    return if unit = 60 then
        match k with
        | .above => (n * 60 : Nat) < age
        | .below => age < (n * 60 : Nat)
        | .equal => whole + 1 = n
      else k.holds whole n
  | .counted k n isLinks => do
    let links ← walking (inquire fun d => d.linkCount v.found)
    return k.holds (if isLinks then links else v.found.number) n
  | .same number => return v.found.number = number
  | .executable => return v.found.node.isExecutable
  | .print ending sink => do
    walking (writeSink sink (v.path ++ [ending]))
    return true
  | .printFormat format sink => do
    let d ← walking (inquire id)
    walking (writeSink sink (v.inFormat c d (format.length + 1) format))
    return true
  | .list sink => do
    let d ← walking (inquire id)
    walking (writeSink sink (v.listLine c d (d.now / 1000000000 : Nat)))
    return true
  | .run number words isBatch inDirectory asks => do
    let path := if inDirectory then '.' :: '/' :: v.name else v.path
    if isBatch then
      modify fun s => { s with batches := (number, path) :: s.batches }
      return true
    else
      let words := words.map fun w => replaceMark ['\x7b', '\x7d'] path (w.length + 1) w
      let goes ← if !asks then pure true
        else walking (do
          let _ ← request (.write 2 ("< ".toList ++ words.headD [] ++ " ... ".toList ++ v.path
            ++ " > ? ".toList))
          let answer ← readAnswer 100000 []
          return answer.head?.any fun d => d = 'y' || d = 'Y')
      if goes then walking (runFor perform c (if inDirectory then some v.directory else none) words)
      else return false
  | .delete => do
    if v.path = ['.'] then return true
    else
      let result ← walking (changeDisk fun d =>
        if v.found.node.kind = .directory then d.removeDirectory v.path else d.unlink v.path)
      match result with
      | .ok _ => return true
      | .error e =>
        c.failWalk ("cannot delete ".toList ++ inQuotes v.path ++ ':' :: ' ' :: wordsOf e)
        return false
  | .prune => do
    if !plan.isDeep then modify fun s => { s with prunes := true }
    return true
  | .quit => do
    modify fun s => { s with quits := true }
    return true
  | .negated p => do return !(← p.holds perform c plan v)
  | .both a b => do
    if ← a.holds perform c plan v then
      if (← get).quits then return true else b.holds perform c plan v
    else return false
  | .either a b => do
    if ← a.holds perform c plan v then return true else b.holds perform c plan v
  | .after a b => do
    let _ ← a.holds perform c plan v
    if (← get).quits then return true else b.holds perform c plan v

/-- Walks through what is at a path and below it. -/
def walkPath (perform : Performer) (c : Call) (plan : WalkPlan) (p : Probe) (start : Bytes) :
    Nat → Nat → List Nat → Bytes → Walk Unit
  | 0, _, _, _ => return ()
  | fuel + 1, depth, above, path => do
    let follows := plan.follows || (plan.followsFirst && depth = 0)
    let found ← walking (inquire fun d =>
      match d.look (!follows) path, d.look true path with
      | .ok f, _ => Except.ok f
      | .error _, .ok f => Except.ok f
      | .error e, .error _ => Except.error e)
    match found with
    | .error e => c.failWalk (inQuotes path ++ ':' :: ' ' :: wordsOf e)
    | .ok f =>
      let v : Visit := ⟨path, start, depth, f⟩
      let test : Walk Unit := do
        if plan.least ≤ depth then
          let _ ← p.holds perform c plan v
        return ()
      let descend : Walk Unit := do
        if f.node.kind = .directory && plan.most.all (depth < ·) then
          if above.contains f.number then
            c.failWalk ("File system loop detected; ".toList ++ inQuotes path
              ++ " is part of the same file system loop as ".toList ++ inQuotes start ++ ['.'])
          else
            let names ← walking (inquire fun d => d.names f.location)
            let before := if path.getLast? = some '/' then path else path ++ ['/']
            names.forM fun name => do
              if !(← get).quits then
                walkPath perform c plan p start fuel (depth + 1) (f.number :: above)
                  (before ++ name)
      if plan.isDeep then
        descend
        if !(← get).quits then test
      else
        modify fun s => { s with prunes := false }
        test
        let s ← get
        if !s.prunes && !s.quits then descend

/-- The programs of an expression that are run for many paths at once. -/
def Probe.batches : Probe → List (Nat × List Bytes × Bool)
  | .run number words true inDirectory _ => [(number, words, inDirectory)]
  | .negated p => p.batches
  | .both a b => a.batches ++ b.batches
  | .either a b => a.batches ++ b.batches
  | .after a b => a.batches ++ b.batches
  | _ => []

/-- The files to which an expression writes. -/
def Probe.sinks : Probe → List Bytes
  | .print _ sink => sink.toList
  | .printFormat _ sink => sink.toList
  | .list sink => sink.toList
  | .negated p => p.sinks
  | .both a b => a.sinks ++ b.sinks
  | .either a b => a.sinks ++ b.sinks
  | .after a b => a.sinks ++ b.sinks
  | _ => []

/-- Finds files. -/
def findFiles (perform : Performer) (c : Call) : Program Nat := do
  let isOption (a : Bytes) : Bool :=
    [['-', 'H'], ['-', 'L'], ['-', 'P']].contains a || "-O".toList.isPrefixOf a
  let options := c.arguments.takeWhile isOption
  let rest := c.arguments.drop options.length
  let isPath (a : Bytes) : Bool :=
    !(a.head? = some '-' && 1 < a.length) && !([['('], [')'], [','], ['!']].contains a)
  let paths := rest.takeWhile isPath
  let words := rest.drop paths.length
  let last := (options.filter fun a => !"-O".toList.isPrefixOf a).getLast?
  let plan : WalkPlan :=
    { follows := last = some ['-', 'L'], followsFirst := last = some ['-', 'H'] }
  let present ← presentTime
  let disk ← inquire id
  let context : ProbeContext := ⟨disk, c.environment.zone, present⟩
  if words.head?.any ["--help".toList, "-help".toList].contains then c.deliver (usageLine c.name) 0
  else if words.head?.any ["--version".toList, "-version".toList].contains then
    c.deliver (versionLine c.name) 0
  else
    let parsed : Except Bytes ReadProbe :=
      if words = [] then .ok ⟨.always true, [], plan⟩
      else readProbes context (4 * words.length + 8) plan words
    match parsed with
    | .error message => c.refuse 1 message
    | .ok ⟨_, [')'] :: _, _⟩ => c.refuse 1 "invalid expression; you have too many ')'".toList
    | .ok ⟨_, word :: _, _⟩ =>
      c.refuse 1 ("paths must precede expression: \x60".toList ++ word ++ ['\''])
    | .ok ⟨probe, [], plan⟩ =>
      let probe := if plan.hasAction then probe else .both probe (.print '\n' none)
      probe.sinks.forM fun file => do
        if !(["/dev/stdout".toList, "/dev/stderr".toList].contains file) then
          match ← request (.open fileDescriptor file .write false) with
          | .ok _ => request (.close fileDescriptor)
          | .error _ => return ()
      let starts := if paths = [] then [['.']] else paths
      let walk : Walk Unit := starts.forM fun path => do
        if !(← get).quits then walkPath perform c plan probe path deepestDirectory 0 [] path
      let (_, s) ← walk.run {}
      let results ← probe.batches.mapM fun (number, words, _) => do
        let paths := ((s.batches.filter fun b => b.1 = number).map (·.2)).reverse
        if paths = [] then return true else runFor perform c none (words ++ paths)
      return if s.hasFailed || !results.all id then 1 else 0

end LinkWatch.Host.Utility
