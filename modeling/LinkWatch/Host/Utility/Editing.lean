import LinkWatch.Decimal.Fixed
import LinkWatch.Host.Utility.EditScript
import LinkWatch.Host.Utility.Launching

/-!
# Editing lines

Each line is brought into a working space, a script is run on it, and the space is written. A second
space is held from line to line. The result may take the place of the file that is edited.
-/

namespace LinkWatch.Host.Utility

open LinkWatch.Text LinkWatch.Host.Kernel

/-- How an editor works. -/
structure EditSettings where
  call : Call
  perform : Performer
  /-- Whether lines are only written when the script says so. -/
  isSilent : Bool
  /-- What ends a line. -/
  ending : Char
  /-- Whether each file is edited for itself. -/
  isSeparate : Bool
  /-- Whether files are replaced, with what is added to the names of the old ones. -/
  suffix : Option Bytes
  /-- The width of lines that are displayed. -/
  width : Nat
  script : Array EditCommand

/-- Something written after the present line. -/
inductive Addendum where
  | text (cs : Bytes)
  | file (name : Bytes)

/-- A line that has been read: whether it has its end, and from which file it comes. -/
structure ReadAhead where
  text : Bytes
  isEnded : Bool
  file : Nat
  name : Bytes

/-- The state of an editor. -/
structure Editor where
  /-- Files that have not been opened. -/
  files : List Bytes
  /-- How many files have been opened, and the name of the last one. -/
  opened : Nat := 0
  openName : Bytes := []
  /-- The descriptor from which lines come. -/
  source : Option Nat := none
  queue : List ReadAhead := []
  partialLine : List Bytes := []
  number : Nat := 0
  /-- The file of the present line. -/
  file : Nat := 0
  name : Bytes := []
  space : Bytes := []
  isEnded : Bool := true
  held : Bytes := []
  /-- Whether the line that is held had its end. -/
  heldEnded : Bool := true
  addenda : List Addendum := []
  changed : Bool := false
  /-- Commands in whose range the editor is, with the last line of the range if it is known. -/
  active : List (Nat × Option Nat) := []
  lastRegex : Option Regex := none
  output : Pending Unit := { state := () }
  /-- What takes the place of the file that is edited, the last piece first. -/
  copy : Option (List Bytes) := none
  /-- Whether the last line that has been written lacks its end. -/
  lacksEnd : Bool := false
  /-- Files to which a line without its end has been written. -/
  unended : List Bytes := []
  /-- Files from which single lines are read, with what is left of them. -/
  readers : List (Bytes × Bytes) := []
  status : Nat := 0

/-- What stops an editor at once. -/
structure EditFault where
  status : Nat
  words : Bytes

/-- A step of an editor. -/
abbrev Edit := ExceptT EditFault (StateT Editor Program)

/-- Runs a program as a step of an editor. -/
def editStep {α : Type} (p : Program α) : Edit α :=
  ExceptT.lift (StateT.lift p)

/-- How an editor goes on after a script has been run. -/
inductive CycleEnd where
  | usual
  /-- Without writing the space. -/
  | silent
  /-- With the space as it is. -/
  | again
  | quit (silent : Bool)

/-! ## Lines -/

/-- Reads more lines until two are known or there are no more. -/
def fillQueue (k : EditSettings) : Nat → Edit Unit
  | 0 => return ()
  | fuel + 1 => do
    let e ← get
    if e.queue.length ≥ 2 then return ()
    match e.source with
    | none =>
      match e.files with
      | [] => return ()
      | file :: files =>
        let isInput := file = ['-'] && k.suffix.isNone
        let opened ←
          if isInput then pure (.ok ())
          else editStep (request (.open fileDescriptor file .read false))
        match opened with
        | .ok _ =>
          set { e with
            files := files, source := some (if isInput then 0 else fileDescriptor)
            opened := e.opened + 1, openName := file }
        | .error err =>
          editStep (k.call.complain ("can't read ".toList ++ file ++ ':' :: ' ' :: wordsOf err))
          set { e with files := files, status := 2 }
        fillQueue k fuel
    | some descriptor =>
      match ← editStep (request (.read descriptor blockSize)) with
      | .ok [] =>
        if descriptor ≠ 0 then editStep (request (.close descriptor))
        let text := e.partialLine.reverse.flatten
        let last : List ReadAhead :=
          if e.partialLine = [] then [] else [⟨text, false, e.opened, e.openName⟩]
        set { e with source := none, partialLine := [], queue := e.queue ++ last }
      | .ok piece =>
        let parts := pieces k.ending piece
        let whole := parts.dropLast
        let last := parts.getLast?.getD []
        let whole := match whole with
          | first :: rest => ((first :: e.partialLine).reverse.flatten) :: rest
          | [] => []
        let before := if whole = [] then e.partialLine else []
        set { e with
          queue := e.queue ++ whole.map fun text => ReadAhead.mk text true e.opened e.openName
          partialLine := if last = [] then before else last :: before }
      | .error err =>
        if k.suffix.isSome then
          throw ⟨4, "couldn't edit ".toList ++ e.openName ++ ": not a regular file".toList⟩
        else throw ⟨4, "read error on ".toList ++ e.openName ++ ':' :: ' ' :: wordsOf err⟩
      fillQueue k fuel

/-! ## Output -/

/-- Adds output as it is. -/
def emitRaw (text : Bytes) : Edit Unit := do
  let e ← get
  match e.copy with
  | some pieces => set { e with copy := some (text :: pieces) }
  | none =>
    let output := e.output.add text
    if output.size < blockSize then set { e with output := output }
    else
      match ← editStep output.flush with
      | .ok p => set { e with output := p }
      | .error err =>
        set { e with output := { state := () } }
        throw ⟨4, "couldn't write to stdout: ".toList ++ wordsOf err⟩

/-- Adds output, after the end that the line before may lack. -/
def emit (k : EditSettings) (text : Bytes) : Edit Unit := do
  let e ← get
  set { e with lacksEnd := false }
  emitRaw (if e.lacksEnd then k.ending :: text else text)

/-- Writes the space, with the end of its line if it had one. -/
def emitSpace (k : EditSettings) : Edit Unit := do
  let e ← get
  emit k (if e.isEnded then e.space ++ [k.ending] else e.space)
  if !e.isEnded then modify fun e => { e with lacksEnd := true }

/-- The name of the file that is kept when one is replaced. -/
def backupName (path suffix : Bytes) : Bytes :=
  let base := (afterLast? '/' path).getD path
  let directory := path.take (path.length - base.length)
  let name :=
    if suffix.contains '*' then suffix.flatMap fun c => if c = '*' then base else [c]
    else base ++ suffix
  if name.contains '/' then name else directory ++ name

/-- Puts a text in the place of a file, which may be kept under another name. -/
def replaceFile (suffix path text : Bytes) (d : Disk) : Except OsError Disk :=
  (d.find path).bind fun f =>
    (if suffix = [] then d.unlink path else d.rename path (backupName path suffix)).bind fun e =>
      (e.write path text).map fun e =>
        match e.find path with
        | .ok g => e.setNode g.number { g.node with mode := f.node.mode }
        | .error _ => e

/-- Ends the editing of the present file. -/
def finishCopy (k : EditSettings) : Edit Unit := do
  let e ← get
  match e.copy, k.suffix with
  | some pieces, some suffix =>
    let text := pieces.reverse.flatten
    let done : Except OsError Unit ← editStep (request (.files fun d =>
      match replaceFile suffix e.name text d with
      | .ok d => (.ok (), d)
      | .error err => (.error err, d)))
    set { e with copy := none, lacksEnd := false }
    match done with
    | .ok _ => pure ()
    | .error err => throw ⟨4, "couldn't edit ".toList ++ e.name ++ ':' :: ' ' :: wordsOf err⟩
  | _, _ => pure ()

/-- Brings the next line, if there is one. -/
def nextLine (k : EditSettings) : Edit (Option ReadAhead) := do
  fillQueue k streamFuel
  let e ← get
  match e.queue with
  | [] => return none
  | l :: rest =>
    set { e with queue := rest }
    if k.isSeparate && e.file ≠ l.file then
      finishCopy k
      modify fun e => { e with number := 0, copy := if k.suffix.isSome then some [] else none }
    modify fun e => { e with number := e.number + 1, file := l.file, name := l.name }
    fillQueue k streamFuel
    return some l

/-- Whether the present line is the last one. -/
def isLastLine (k : EditSettings) : Edit Bool := do
  let e ← get
  match e.queue with
  | [] => return true
  | l :: _ => return k.isSeparate && l.file ≠ e.file

/-- Writes what follows the present line. -/
def emitAddenda (k : EditSettings) : Edit Unit := do
  let e ← get
  set { e with addenda := [] }
  e.addenda.forM fun a => do
    match a with
    | .text cs => emit k cs
    | .file name =>
      match ← editStep (readFile name) with
      | .ok text => if text ≠ [] then emit k text
      | .error _ => pure ()

/-- Writes a line to a file of the script. -/
def writeToFile (k : EditSettings) (file text : Bytes) (isEnded : Bool) : Edit Unit := do
  let e ← get
  let shown := if isEnded then text ++ [k.ending] else text
  if file = "/dev/stdout".toList && e.copy.isNone then
    emit k shown
    if !isEnded then modify fun e => { e with lacksEnd := true }
  else
    let shown := if e.unended.contains file then k.ending :: shown else shown
    let others := e.unended.filter (· ≠ file)
    set { e with unended := if isEnded then others else file :: others }
    match ← editStep (request (.open fileDescriptor file .append false)) with
    | .ok _ => editStep do
      let _ ← writeTo fileDescriptor shown
      request (.close fileDescriptor)
    | .error _ => pure ()

/-! ## Choosing lines -/

/-- The expression that is meant, which becomes the one used last. -/
def usedRegex (r : Option Regex) : Edit Regex := do
  let e ← get
  match r.or e.lastRegex with
  | some used =>
    set { e with lastRegex := some used }
    return used
  | none => throw ⟨1, "-e expression #1, char 0: no previous regular expression".toList⟩

/-- Whether an address chooses the present line. -/
def Address.chooses (a : Address) (k : EditSettings) : Edit Bool := do
  let e ← get
  match a with
  | .line n => return e.number = n
  | .last => isLastLine k
  | .matching r =>
    let r ← usedRegex r
    return (r.search (.start e.space)).isSome
  | .every first step =>
    if step = 0 then return e.number = first
    else return first ≤ e.number && (e.number - first) % step = 0

/-- Whether a command is for the present line. -/
def Scope.chooses (s : Scope) (k : EditSettings) (index : Nat) : Edit Bool := do
  match s.first, s.stop with
  | none, _ => return !s.negated
  | some a, none =>
    let isChosen ← if a.isZero then pure (decide ((← get).number = 1)) else a.chooses k
    return isChosen != s.negated
  | some a, some stop =>
    let e ← get
    let setActive (limit : Option (Option Nat)) : Edit Unit := modify fun e =>
      let others := e.active.filter fun r => r.1 ≠ index
      { e with active := match limit with
          | some l => (index, l) :: others
          | none => others }
    let running := match e.active.lookup index with
      | some l => some l
      | none => if a.isZero && e.number = 1 then some none else none
    let chosen ← match running with
      | some (some limit) => do
        if limit ≤ e.number then setActive none
        pure (decide (e.number ≤ limit))
      | some none => do
        setActive (some none)
        match stop with
        | .at b => if ← b.chooses k then setActive none
        | _ => pure ()
        pure true
      | none => do
        if ← a.chooses k then
          let limit : Option Nat := match stop with
            | .at (.line n) => some n
            | .more n => some (e.number + n)
            | .multiple n => some (if n = 0 then e.number else (e.number + n - 1) / n * n)
            | .at _ => none
          match limit with
          | some l => if e.number < l then setActive (some (some l))
          | none => setActive (some none)
          pure true
        else pure false
    return chosen != s.negated

/-! ## Changing lines -/

/-- Changes the letters of a text as a replacement asks. -/
def changeCase (mode once : CaseChange) (cs : Bytes) : Bytes :=
  let text := match mode with
    | .upper => cs.map Char.toUpper
    | .lower => cs.map Char.toLower
    | _ => cs
  match once, text with
  | .nextUpper, c :: rest => c.toUpper :: rest
  | .nextLower, c :: rest => c.toLower :: rest
  | _, _ => text

/-- The text that a replacement gives for a match. -/
def replacementText (parts : List ReplacementPart) (f : Occurrence) : Bytes :=
  let p := parts.foldl (fun (acc : CaseChange × CaseChange × List Bytes) part =>
    let (mode, once, out) := acc
    let add (cs : Bytes) : CaseChange × CaseChange × List Bytes :=
      if cs = [] then acc else (mode, .none, changeCase mode once cs :: out)
    match part with
    | .text cs => add cs
    | .group n => add (if n = 0 then f.text else (f.groups.lookup n).getD [])
    | .change .nextUpper => (mode, .nextUpper, out)
    | .change .nextLower => (mode, .nextLower, out)
    | .change k => (k, .none, out)) (CaseChange.none, CaseChange.none, [])
  p.2.2.reverse.flatten

/-- Replaces matches from a spot on, from match number `nth` on: the text after the spot, and
whether something has been replaced. -/
def replaceFrom (r : Regex) (parts : List ReplacementPart) (all : Bool) :
    Nat → Nat → Bool → Spot → Bytes × Bool
  | 0, _, _, s => (s.after, false)
  | fuel + 1, nth, afterMatch, s =>
    match r.search s with
    | none => (s.after, false)
    | some f =>
      let isAdjacent := afterMatch && f.text = [] && f.before = []
      let replaces := nth ≤ 1 && !isAdjacent
      let shown := if replaces then replacementText parts f else f.text
      let start := f.before ++ shown
      if replaces && !all then (start ++ f.stop.after, true)
      else
        let nth := if isAdjacent then nth else nth - 1
        if f.text = [] then
          match f.stop.after with
          | [] => (start, replaces)
          | c :: _ =>
            let p := replaceFrom r parts all fuel nth false (f.stop.advance 1)
            (start ++ c :: p.1, replaces || p.2)
        else
          let p := replaceFrom r parts all fuel nth true f.stop
          (start ++ p.1, replaces || p.2)

/-- A text with what cannot be shown made visible, in lines of a certain width; zero stands for one
line. -/
def displayed (width : Nat) (cs : Bytes) : Bytes :=
  let octal (c : Char) : Bytes := '\\' :: Decimal.padLeft 3 '0' (Nat.toDigits 8 c.toNat)
  let parts := cs.map fun c =>
    match c with
    | '\\' => ['\\', '\\']
    | '\x07' => ['\\', 'a']
    | '\x08' => ['\\', 'b']
    | '\x0c' => ['\\', 'f']
    | '\n' => ['\\', 'n']
    | '\r' => ['\\', 'r']
    | '\t' => ['\\', 't']
    | '\x0b' => ['\\', 'v']
    | c => if 32 ≤ c.toNat && c.toNat < 127 then [c] else octal c
  let p := parts.foldl (fun (acc : Nat × List Bytes) part =>
    if 0 < width && width - 1 < acc.1 + part.length then
      (part.length, part :: ['\\', '\n'] :: acc.2)
    else (acc.1 + part.length, part :: acc.2)) (0, [])
  p.2.reverse.flatten ++ ['$']

/-- The output of a command without the end of its last line. -/
def EditSettings.outputOf (k : EditSettings) (text : Bytes) : Edit Bytes := do
  let output ← editStep (outputOfText k.perform k.call text)
  return if output.getLast? = some k.ending then output.dropLast else output

/-- Replaces matches in the space. -/
def Substitution.apply (s : Substitution) (k : EditSettings) : Edit Unit := do
  let r ← usedRegex s.regex
  let e ← get
  let (text, isChanged) := replaceFrom r s.parts s.all (2 * e.space.length + 4) s.nth false
    (.start e.space)
  if isChanged then
    modify fun e => { e with space := text, changed := true }
    if s.printsBefore then emitSpace k
    if s.runs then
      let output ← k.outputOf text
      modify fun e => { e with space := output }
    if s.printsAfter then emitSpace k
    match s.file with
    | some name =>
      let e ← get
      writeToFile k name e.space e.isEnded
    | none => pure ()

/-! ## Running scripts -/

/-- Runs the script from a command on. -/
def runEditScript (k : EditSettings) : Nat → Nat → Edit CycleEnd
  | 0, _ => return .usual
  | fuel + 1, index => do
    match k.script[index]? with
    | none => return .usual
    | some command =>
      let go (i : Nat) : Edit CycleEnd := runEditScript k fuel i
      let next : Edit CycleEnd := go (index + 1)
      let isChosen ← command.scope.chooses k index
      if !isChosen then
        match command.action with
        | .openBlock after => go after
        | _ => next
      else
        let e ← get
        let following : Edit (Option ReadAhead) := do
          if ← isLastLine k then return none
          else
            emitAddenda k
            nextLine k
        match command.action with
        | .openBlock _ => next
        | .closeBlock => next
        | .nothing => next
        | .substitute s =>
          s.apply k
          next
        | .exchange pairs =>
          set { e with space := e.space.map fun d => (pairs.lookup d).getD d }
          next
        | .append text =>
          set { e with addenda := e.addenda ++ [Addendum.text text] }
          next
        | .insert text =>
          emit k text
          next
        | .change text =>
          let isLast := (e.active.lookup index).isNone || command.scope.negated
          if isLast then emit k text
          return .silent
        | .jump target => target.elim (return .usual) go
        | .jumpIfChanged target =>
          if e.changed then
            set { e with changed := false }
            target.elim (return .usual) go
          else next
        | .jumpUnlessChanged target =>
          if e.changed then
            set { e with changed := false }
            next
          else target.elim (return .usual) go
        | .delete => return .silent
        | .deleteFirst =>
          match cutAt? k.ending e.space with
          | some (_, rest) =>
            set { e with space := rest }
            return .again
          | none => return .silent
        | .print =>
          emitSpace k
          next
        | .printFirst =>
          emit k (e.space.takeWhile (· ≠ k.ending) ++ [k.ending])
          next
        | .next =>
          if !k.isSilent && !(← isLastLine k) then emitSpace k
          match ← following with
          | some l =>
            modify fun e => { e with space := l.text, isEnded := l.isEnded }
            next
          | none => return .usual
        | .appendNext =>
          match ← following with
          | some l =>
            modify fun e => { e with space := e.space ++ k.ending :: l.text, isEnded := l.isEnded }
            next
          | none => return .usual
        | .hold =>
          set { e with held := e.space, heldEnded := e.isEnded }
          next
        | .holdMore =>
          set { e with
            held := e.held ++ k.ending :: e.space, heldEnded := e.isEnded }
          next
        | .get =>
          set { e with space := e.held, isEnded := e.heldEnded }
          next
        | .getMore =>
          set { e with
            space := e.space ++ k.ending :: e.held, isEnded := e.heldEnded }
          next
        | .swap =>
          set { e with
            space := e.held, held := e.space, isEnded := e.heldEnded, heldEnded := e.isEnded }
          next
        | .number =>
          emit k (line (digitsOf e.number))
          next
        | .name =>
          emit k (e.name ++ [k.ending])
          next
        | .quit status =>
          set { e with status := if status = 0 then e.status else status }
          return .quit k.isSilent
        | .quitSilently status =>
          set { e with status := if status = 0 then e.status else status, addenda := [] }
          return .quit true
        | .readFile file =>
          if command.scope.first.any Address.isZero then
            match ← editStep (readFile file) with
            | .ok text => emit k text
            | .error _ => pure ()
            next
          else
          set { e with addenda := e.addenda ++ [Addendum.file file] }
          next
        | .readLine file =>
          let left ← match e.readers.lookup file with
            | some left => pure left
            | none => do
              match ← editStep (readFile file) with
              | .ok text => pure text
              | .error _ => pure []
          let text := left.takeWhile (· ≠ k.ending)
          let after := left.drop (text.length + 1)
          let others := e.readers.filter fun r => r.1 ≠ file
          set { e with
            readers := (file, after) :: others
            addenda := if left = [] then e.addenda
              else e.addenda ++ [Addendum.text (text ++ [k.ending])] }
          next
        | .writeFile file =>
          writeToFile k file e.space e.isEnded
          next
        | .writeFirst file =>
          writeToFile k file (e.space.takeWhile (· ≠ k.ending)) true
          next
        | .run (some text) =>
          let output ← editStep (outputOfText k.perform k.call (text.reverse.drop 1).reverse)
          if output ≠ [] then emit k output
          next
        | .run none =>
          let output ← k.outputOf e.space
          modify fun e => { e with space := output }
          next
        | .display width =>
          emit k (line (displayed (width.getD k.width) e.space))
          next
        | .clear =>
          set { e with space := [] }
          next

/-- Runs the script on line after line. -/
def runEditor (k : EditSettings) : Nat → Bool → Edit Unit
  | 0, _ => return ()
  | fuel + 1, keepsSpace => do
    let isReady ←
      if keepsSpace then pure true
      else
        match ← nextLine k with
        | some l =>
          modify fun e => { e with space := l.text, isEnded := l.isEnded, changed := false }
          pure true
        | none => pure false
    if isReady then
      match ← runEditScript k streamFuel 0 with
      | .usual =>
        if !k.isSilent then emitSpace k
        emitAddenda k
        runEditor k fuel false
      | .silent =>
        emitAddenda k
        runEditor k fuel false
      | .again =>
        emitAddenda k
        runEditor k fuel true
      | .quit silently =>
        if !silently then emitSpace k
        emitAddenda k
        finishCopy k
    else finishCopy k

/-! ## The program -/

/-- The files that a script writes. -/
def writtenFiles (commands : List EditCommand) : List Bytes :=
  commands.filterMap fun command => match command.action with
    | .writeFile file => some file
    | .writeFirst file => some file
    | .substitute s => s.file
    | _ => none

/-- A part of a script: the number of the argument that gives it or the file that holds it, and its
text. -/
structure ScriptPart where
  number : Nat
  file : Option Bytes
  text : Bytes

/-- The place in the parts of a script after so many characters of all of them. -/
def scriptPlaceText : List ScriptPart → Nat → Bytes
  | [], _ => []
  | p :: ps, position =>
    if p.text.length + 1 < position && !ps.isEmpty then
      scriptPlaceText ps (position - (p.text.length + 1))
    else
      match p.file with
      | some name =>
        "file ".toList ++ name ++ " line ".toList
          ++ digitsOf (1 + (p.text.take (position - 1)).count '\n')
      | none =>
        "-e expression #".toList ++ digitsOf p.number ++ ", char ".toList
          ++ digitsOf (min position p.text.length)

/-- Loads the parts of a script, or tells why it cannot. -/
def loadScript : Nat → List (Char × Bytes) → Program (Except Bytes (List ScriptPart))
  | _, [] => return .ok []
  | number, (flag, text) :: rest => do
    if flag = 'e' then
      let others ← loadScript (number + 1) rest
      return others.map fun ps => ⟨number, none, text⟩ :: ps
    else
      match ← readFile text with
      | .ok script =>
        let others ← loadScript number rest
        let script := if script.getLast? = some '\n' then script.dropLast else script
        return others.map fun ps => ⟨number, some text, script⟩ :: ps
      | .error e =>
        return .error ("couldn't open file ".toList ++ text ++ ':' :: ' ' :: wordsOf e)

/-- Makes the files that a script writes empty. The first one that cannot be opened comes back. -/
def clearFiles : List Bytes → Program (Option (Bytes × OsError))
  | [] => return none
  | file :: files => do
    match ← request (.open fileDescriptor file .write false) with
    | .ok _ =>
      request (.close fileDescriptor)
      clearFiles files
    | .error e => return some (file, e)

/-- Edits the lines of files. -/
def edit (perform : Performer) (c : Call) : Program Nat :=
  let t : OptionTable :=
    { plain := ['n', 'E', 'r', 's', 'u', 'z', 'P', 'b', 'F', 'S'], valued := ['e', 'f', 'l']
      optional := ['i']
      long := [("quiet", 'n'), ("silent", 'n'), ("expression", 'e'), ("file", 'f'),
        ("regexp-extended", 'E'), ("separate", 's'), ("unbuffered", 'u'), ("posix", 'P'),
        ("null-data", 'z'), ("zero-terminated", 'z'), ("line-length", 'l'), ("in-place", 'i'),
        ("binary", 'b'), ("follow-symlinks", 'F'), ("sandbox", 'S')] }
  c.withOptions t 1 fun o => do
    let scripts := o.flags.filter fun f => f.1 = 'e' || f.1 = 'f'
    if scripts = [] && o.operands = [] then
      let _ ← request (.write 2 (usageLine c.name))
      return 1
    else
      let given := if scripts = [] then [('e', o.operands.headD [])] else scripts
      match ← loadScript 1 given with
      | .error words => c.refuse 4 words
      | .ok parts =>
        let script := joinWith ['\n'] (parts.map ScriptPart.text)
        let files := if scripts = [] then o.operands.drop 1 else o.operands
        match readEditScript (o.has 'E' || o.has 'r') script with
        | .error (.after position words) =>
          c.refuse 1 (scriptPlaceText parts position ++ ':' :: ' ' :: words.toList)
        | .error (.about words) => c.refuse 1 ("-e expression #1, char 0: ".toList ++ words.toList)
        | .error (.alone words) => c.refuse 4 words
        | .ok commands =>
          match ← clearFiles
            ((writtenFiles commands).filter fun f => !("/dev/".toList.isPrefixOf f)) with
          | some (file, e) =>
            c.refuse 4 ("couldn't open file ".toList ++ file ++ ':' :: ' ' :: wordsOf e)
          | none =>
            let settings : EditSettings :=
              { call := c, perform := perform
                isSilent := o.has 'n' || script.take 3 = ['#', 'n', '\n'] || script = ['#', 'n']
                ending := if o.has 'z' then '\x00' else '\n'
                isSeparate := o.has 's' || o.has 'i', suffix := o.value? 'i'
                width := ((o.value? 'l').bind natural?).getD 70, script := commands.toArray }
            if o.has 'i' && files = [] then
              return ← c.refuse 1 "no input files".toList
            let start : Editor := { files := if files = [] then [['-']] else files }
            let (result, e) ← (runEditor settings streamFuel false).run start
            let status ← match result with
              | .ok _ => pure e.status
              | .error f => c.refuse f.status f.words
            match ← e.output.flush with
            | .ok _ => return status
            | .error err => c.refuse 4 ("couldn't flush stdout: ".toList ++ wordsOf err)

end LinkWatch.Host.Utility
