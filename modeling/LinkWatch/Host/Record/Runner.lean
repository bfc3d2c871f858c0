import LinkWatch.Host.Record.Lexeme
import LinkWatch.Host.Record.Table
import LinkWatch.Host.Utility.Launching

/-!
# The state of a program on records

Variables and tables, the present record with its fields, and what is read and written. Fields are
found once they are needed, and the record is put together again after one has been changed.
-/

namespace LinkWatch.Host.Record

open LinkWatch.Text LinkWatch.Host.Kernel LinkWatch.Host.Utility

/-- What a name stands for. -/
inductive Binding where
  | cell (c : Cell)
  /-- A table, by its number. It may still become a value as long as the table is not used. -/
  | table (number : Nat)

/-- Something from which records are read. -/
structure Inlet where
  descriptor : Nat
  buffer : Bytes := []
  isAtEnd : Bool := false
  child : Option Nat := none

/-- Something to which is written, with what has not been written yet in reverse. -/
structure Outlet where
  descriptor : Nat
  child : Option Nat := none
  pieces : List Bytes := []
  size : Nat := 0

/-- What stays the same while a program runs. -/
structure Plan where
  call : Call
  perform : Performer
  form : Form

/-- The state of a program. -/
structure Runner where
  globals : Std.HashMap Bytes Binding := {}
  tables : Std.HashMap Nat Table := {}
  freshTable : Nat := 0
  /-- The names of the function that is being performed. -/
  locals : List (Bytes × Binding) := []
  /-- The present record. -/
  record : Bytes := []
  /-- Whether the record has to be put together from its fields. -/
  isStale : Bool := false
  fields : Array Cell := #[]
  areFieldsKnown : Bool := true
  /-- What divides the fields of the present record. -/
  divider : Bytes := [' ']
  main : Option Inlet := none
  /-- The next argument that may name a file. -/
  argument : Nat := 1
  /-- Whether some argument has named a file. -/
  hasFile : Bool := false
  isInputOver : Bool := false
  inlets : List (Bytes × Inlet) := []
  outlets : List (Bytes × Outlet) := []
  output : Outlet := { descriptor := 1 }
  freshDescriptor : Nat := 100
  /-- The rules in whose range the program is. -/
  active : List Nat := []
  random : Nat := 1
  seed : Float := 0
  status : Nat := 0

/-- What stops a program, or a part of it. -/
inductive Halt where
  | fault (words : Bytes)
  /-- A fault that depends on the record. -/
  | atRun (words : Bytes)
  | exit
  | next
  | nextFile

/-- A step of a program. -/
abbrev Step := ExceptT Halt (StateT Runner Program)

/-- A request as a step. -/
def step {α : Type} (p : Program α) : Step α :=
  ExceptT.lift (StateT.lift p)

/-! ## Variables -/

/-- What a name stands for. -/
def Runner.binding? (r : Runner) (name : Bytes) : Option Binding :=
  match r.locals.lookup name with
  | some b => some b
  | none => r.globals[name]?

/-- Lets a name stand for something. -/
def Runner.bind (r : Runner) (name : Bytes) (b : Binding) : Runner :=
  if r.locals.any fun l => l.1 = name then
    { r with locals := r.locals.map fun l => if l.1 = name then (name, b) else l }
  else { r with globals := r.globals.insert name b }

/-- The value of a name of the whole program. -/
def Runner.global (r : Runner) (name : String) : Cell :=
  match r.globals[name.toList]? with
  | some (.cell c) => c
  | _ => .none

/-- Gives a name of the whole program a value. -/
def Runner.setGlobal (r : Runner) (name : String) (c : Cell) : Runner :=
  { r with globals := r.globals.insert name.toList (.cell c) }

/-- The format for numbers that become texts. -/
def Runner.format (r : Runner) : Bytes :=
  match r.global "CONVFMT" with
  | .none => usualFormat
  | c => c.asText usualFormat

/-- The text of a value. -/
def Runner.text (r : Runner) (c : Cell) : Bytes :=
  c.asText r.format

/-- The text of a name of the whole program. -/
def Runner.setting (r : Runner) (name : String) : Bytes :=
  r.text (r.global name)

/-- The number of the table of a name, which becomes one if it is not used yet. -/
def Runner.tableOf (r : Runner) (name : Bytes) : Nat × Runner :=
  match r.binding? name with
  | some (.table n) => (n, r)
  | _ =>
    let r := { r with freshTable := r.freshTable + 1 }
    (r.freshTable, r.bind name (.table r.freshTable))

/-- A table. -/
def Runner.table (r : Runner) (number : Nat) : Table :=
  (r.tables[number]?).getD {}

/-- The state with a table as it is now. -/
def Runner.setTable (r : Runner) (number : Nat) (t : Table) : Runner :=
  { r with tables := r.tables.insert number t }

/-- The state with a table for a name. -/
def Runner.fillTable (r : Runner) (name : String) (entries : List (Bytes × Cell)) : Runner :=
  let (number, r) := r.tableOf name.toList
  r.setTable number (entries.foldl (fun t e => t.put (.text e.1) e.2) {})

/-! ## Fields -/

/-- The pieces of a text between the matches of an expression that are not empty. -/
def piecesBetween (r : Regex) : Nat → Spot → List Bytes
  | 0, s => [s.after]
  | fuel + 1, s =>
    let rec find : Nat → Spot → Option Occurrence
      | 0, _ => none
      | steps + 1, t =>
        match r.search t with
        | none => none
        | some o =>
          if o.text ≠ [] then some o
          else if o.stop.after = [] then none
          else find steps (o.stop.advance 1)
    match find (s.after.length + 1) s with
    | none => [s.after]
    | some o =>
      let size := o.stop.position - o.text.length - s.position
      s.after.take size :: piecesBetween r fuel o.stop

/-- The words of a text between blanks. -/
def wordsOfText : Nat → Bytes → List Bytes
  | 0, _ => []
  | fuel + 1, cs =>
    match cs.dropWhile isSpaceChar with
    | [] => []
    | start =>
      let word := start.takeWhile fun c => !isSpaceChar c
      word :: wordsOfText fuel (start.drop word.length)

/-- The parts of a text that something divides; line ends may divide it as well. -/
def divided (divider : Bytes) (byLines : Bool) (cs : Bytes) : Except String (List Bytes) :=
  if cs = [] then .ok []
  else
    match divider with
    | [' '] => .ok (wordsOfText (cs.length + 1) cs)
    | [] => .ok (if byLines then (cs.filter (· ≠ '\n')).map ([·]) else cs.map ([·]))
    | [c] =>
      if c = '\\' || !byLines then .ok (pieces c cs)
      else .ok (pieces c (cs.map fun d => if d = '\n' then c else d))
    | divider =>
      (readPattern divider).map fun r =>
        piecesBetween (if byLines then .either r (.one false ['\n'])
          else r) (cs.length + 1) (.start cs)

/-- Reports a text that is no expression for matching. -/
def patternFault (cs : Bytes) (words : String) : Halt :=
  .fault ("regular expression compile failed (".toList ++ words.toList ++ ")\n".toList ++ cs)

/-- Finds the fields of the record. -/
def findFields : Step Unit := do
  let r ← get
  if !r.areFieldsKnown then
    match divided r.divider (r.setting "RS" = []) r.record with
    | .ok parts =>
      let fields := (parts.map Cell.ofInput).toArray
      set ({ r with fields := fields, areFieldsKnown := true }.setGlobal "NF" (.ofNat fields.size))
    | .error words => throw (patternFault r.divider words)

/-- Makes a text the record. -/
def setRecord (cs : Bytes) : Step Unit := do
  let r ← get
  set { r with record := cs, isStale := false, areFieldsKnown := false, divider := r.setting "FS" }

/-- The record, put together if that is needed. -/
def currentRecord : Step Bytes := do
  let r ← get
  if r.isStale then
    let whole := joinWith (r.setting "OFS") (r.fields.toList.map r.text)
    set { r with record := whole, isStale := false }
    return whole
  else return r.record

/-- The value of a field. -/
def fieldValue (number : Nat) : Step Cell := do
  if number = 0 then return .ofInput (← currentRecord)
  else
    findFields
    return ((← get).fields[number - 1]?).getD .none

/-- Lets the record have so many fields. -/
def setFieldCount (number : Nat) : Step Unit := do
  findFields
  let r ← get
  let fields := if number ≤ r.fields.size then r.fields.take number
    else r.fields ++ Array.replicate (number - r.fields.size) (.text [])
  set ({ r with fields := fields, isStale := true }.setGlobal "NF" (.ofNat number))

/-- Gives a field a value. -/
def setField (number : Nat) (c : Cell) : Step Unit := do
  if number = 0 then setRecord ((← get).text c)
  else
    findFields
    if (← get).fields.size < number then setFieldCount number
    modify fun r => { r with fields := r.fields.setIfInBounds (number - 1) c, isStale := true }

/-! ## Output -/

/-- Writes what has not been written to something. -/
def Outlet.flushed (o : Outlet) : Program (Outlet × Bool) := do
  match ← writeTo o.descriptor o.pieces.reverse.flatten with
  | .ok _ => return ({ o with pieces := [], size := 0 }, true)
  | .error _ => return ({ o with pieces := [], size := 0 }, false)

/-- Adds a text to something. -/
def Outlet.add (o : Outlet) (text : Bytes) : Outlet :=
  { o with pieces := text :: o.pieces, size := o.size + text.length }

/-- What ends the program when what it shows does not fit. -/
def fullDevice : Halt :=
  .fault "close failed on file \"/dev/stdout\" (No space left on device)".toList

/-- Writes all that has not been written. -/
def flushAll : Step Unit := do
  let r ← get
  let (output, isFine) ← step r.output.flushed
  let outlets ← r.outlets.mapM fun p => do
    let (o, _) ← step p.2.flushed
    return (p.1, o)
  set { r with output := output, outlets := outlets }
  if !isFine then throw fullDevice

/-- Writes a text to the output. -/
def putOutput (text : Bytes) : Step Unit := do
  let r ← get
  let output := r.output.add text
  if blockSize ≤ output.size then
    let (output, isFine) ← step output.flushed
    set { r with output := output }
    if !isFine then throw fullDevice
  else set { r with output := output }

/-- Starts a shell for a text whose input or output is one end of a pipe; the answer is the other
end and the number of the process. -/
def startShell (k : Plan) (text : Bytes) (isInput : Bool) : Step (Nat × Nat) := do
  flushAll
  let r ← get
  let (source, sink) ← step (request .pipe)
  let (kept, given, standard) := if isInput then (sink, source, 0) else (source, sink, 1)
  let others := r.outlets.map (·.2.descriptor) ++ r.inlets.map (·.2.descriptor)
  let shell := callOf k.call.environment ["/bin/sh".toList, "-c".toList, text]
  let child ← step (request (.fork (do
    for d in others do request (.close d)
    request (.close kept)
    let _ ← request (.copy given standard)
    request (.close given)
    becomeProgram k.perform k.call id shell : Program Nat).action))
  step (request (.close given))
  return (kept, child)

/-- The outlet of a name, which is opened if it is not open. -/
def outletOf (k : Plan) (way : Direction) (name : Bytes) : Step Outlet := do
  let r ← get
  match r.outlets.lookup name with
  | some o => return o
  | none =>
    let o ← match way with
      | .pipe => do
        let (descriptor, child) ← startShell k name true
        pure { descriptor := descriptor, child := some child : Outlet }
      | way => do
        let how : Opening := match way with
          | .append => .append
          | _ => .write
        match ← step (request (.open r.freshDescriptor name how false)) with
        | .ok _ => pure { descriptor := r.freshDescriptor : Outlet }
        | .error e =>
          throw (.fault ("cannot open \"".toList ++ name ++ "\" for output (".toList ++ wordsOf e
          ++ [')']))
    modify fun r => { r with outlets := (name, o) :: r.outlets,
                             freshDescriptor := r.freshDescriptor + 1 }
    return o

/-- Writes a text in some direction. -/
def putText (k : Plan) (way : Direction) (name text : Bytes) : Step Unit := do
  let isOutput := way matches .standard
    || (!(way matches .pipe) && (name = ['-'] || name = "/dev/stdout".toList))
  if isOutput then putOutput text
  else if !(way matches .pipe) && name = "/dev/stderr".toList then
    let _ ← step (writeTo 2 text)
  else
    let o ← outletOf k way name
    let o := o.add text
    let o ← if blockSize ≤ o.size then do
        let (o, _) ← step o.flushed
        pure o
      else pure o
    modify fun r => { r with outlets := r.outlets.map fun p => if p.1 = name then (name, o) else p }

/-- Waits for a process and tells its status; the number of a signal is above 256. -/
def awaitChild (child : Nat) : Step Nat := do
  match ← step (request (.wait (some [child]) none false)) with
  | .ended _ (.code status) => return status
  | .ended _ (.signal n _) => return 256 + n
  | _ => return 0

/-- Closes what is open under a name; the answer is the status of a command. -/
def closeNamed (name : Bytes) : Step (Option Nat) := do
  let r ← get
  let closed ← match r.outlets.lookup name with
    | some o => do
      let (o, _) ← step o.flushed
      step (request (.close o.descriptor))
      let status ← match o.child with
        | some child => awaitChild child
        | none => pure 0
      modify fun r => { r with outlets := r.outlets.filter fun p => p.1 ≠ name }
      pure (some status)
    | none => pure none
  let opened ← match r.inlets.lookup name with
    | some i => do
      step (request (.close i.descriptor))
      let status ← match i.child with
        | some child => awaitChild child
        | none => pure 0
      modify fun r => { r with inlets := r.inlets.filter fun p => p.1 ≠ name }
      pure (some status)
    | none => pure none
  return closed.orElse fun _ => opened

/-! ## Input -/

/-- A record at the start of a text, with what follows what ends it; there is none if the text has
to go on. -/
def cutRecord (separator : Bytes) (isAll : Bool) (cs : Bytes) :
    Except String (Option (Bytes × Bytes)) :=
  let last : Option (Bytes × Bytes) := if isAll && cs ≠ [] then some (cs, []) else none
  match separator with
  | [c] =>
    let record := cs.takeWhile (· ≠ c)
    match cs.drop record.length with
    | _ :: rest => .ok (some (record, rest))
    | [] => .ok last
  | [] =>
    let start := cs.dropWhile (· = '\n')
    match cut? ['\n', '\n'] start with
    | some (record, rest) =>
      let after := rest.dropWhile (· = '\n')
      .ok (if after = [] && !isAll then none else some (record, after))
    | none =>
      if isAll && start ≠ [] then
        .ok (some (if start.getLast? = some '\n' then start.dropLast else start, []))
      else .ok none
  | separator =>
    if !isAll then .ok none
    else
      (readPattern separator).map fun r =>
        match piecesBetween r 1 (.start cs) with
        | [record, rest] => some (record, rest)
        | _ =>
          match last with
          | some (record, _) =>
            some (if record.getLast? = some '\n' then record.dropLast else record, [])
          | none => none

/-- Reads a record. -/
def Inlet.next (separator : Bytes) : Nat → Inlet → Program (Except String (Option Bytes × Inlet))
  | 0, i => return .ok (none, i)
  | fuel + 1, i => do
    match cutRecord separator i.isAtEnd i.buffer with
    | .error words => return .error words
    | .ok (some (record, rest)) => return .ok (some record, { i with buffer := rest })
    | .ok none =>
      if i.isAtEnd then return .ok (none, i)
      else
        match ← request (.read i.descriptor pieceSize) with
        | .ok [] => next separator fuel { i with isAtEnd := true }
        | .ok piece => next separator fuel { i with buffer := i.buffer ++ piece }
        | .error _ => next separator fuel { i with isAtEnd := true }

/-- Reads a record from an inlet. -/
def readInlet (i : Inlet) : Step (Option Bytes × Inlet) := do
  let separator := (← get).setting "RS"
  match ← step (i.next separator streamFuel) with
  | .ok p => return p
  | .error words => throw (patternFault separator words)

/-- Gives a name a value as an argument asks for it. -/
def assignArgument (name value : Bytes) : Step Unit := do
  let resolved := match readQuotedText (value.length + 2) (value ++ ['"']) with
    | some (cs, []) => cs
    | _ => value
  if name = "NF".toList then setFieldCount (wholeOf (numberAt resolved)).toNat
  else modify fun r => { r with globals := r.globals.insert name (.cell (.ofInput resolved)) }

/-- An argument that gives a name a value. -/
def assignmentArgument? (cs : Bytes) : Option (Bytes × Bytes) :=
  match cutAt? '=' cs with
  | some (name, value) => if isName name then some (name, value) else none
  | none => none

/-- Opens the next file of the arguments, or the input if none is named. -/
def openNext : Nat → Step Unit
  | 0 => return ()
  | fuel + 1 => do
    let r ← get
    let count := wholeOf (r.global "ARGC").asNumber
    if r.argument < count.toNat then
      let (number, _) := r.tableOf "ARGV".toList
      let word := r.text ((r.table number).value (.text (digitsOf r.argument)))
      modify fun r => { r with argument := r.argument + 1 }
      match assignmentArgument? word with
      | some (name, value) =>
        assignArgument name value
        openNext fuel
      | none =>
        if word = [] then openNext fuel
        else
          modify fun r => ({ r with hasFile := true }.setGlobal "FILENAME" (.text word)).setGlobal
            "FNR" (.number 0)
          if word = ['-'] then modify fun r => { r with main := some { descriptor := 0 } }
          else
            match ← step (request (.open fileDescriptor word .read false)) with
            | .ok _ => modify fun r => { r with main := some { descriptor := fileDescriptor } }
            | .error e =>
              throw (.fault ("cannot open \"".toList ++ word ++ "\" (".toList ++ wordsOf e
                ++ [')']))
    else if r.hasFile then set { r with isInputOver := true, main := none }
    else
      set ({ r with hasFile := true,
                    main := some { descriptor := 0 } }.setGlobal "FILENAME" (.text ['-']))

/-- Gives up the present file. -/
def closeMain : Step Unit := do
  let r ← get
  match r.main with
  | some i =>
    if i.descriptor ≠ 0 then step (request (.close i.descriptor))
    set { r with main := none }
  | none => return ()

/-- Reads a record of the files. -/
def readMain : Nat → Step (Option Bytes)
  | 0 => return none
  | fuel + 1 => do
    let r ← get
    if r.isInputOver then return none
    match r.main with
    | none =>
      openNext fuel
      readMain fuel
    | some i =>
      let (record, i) ← readInlet i
      modify fun r => { r with main := some i }
      match record with
      | some record =>
        modify fun r =>
          let next (name : String) : Cell := .number ((r.global name).asNumber + 1)
          (r.setGlobal "NR" (next "NR")).setGlobal "FNR" (next "FNR")
        return some record
      | none =>
        closeMain
        readMain fuel

/-- Reads a record from a file or a command; the answer is nothing if it cannot be opened, and no
record at the end. -/
def readNamed (k : Plan) (origin : Origin) (name : Bytes) : Step (Option (Option Bytes)) := do
  let r ← get
  let opened ← match r.inlets.lookup name with
    | some i => pure (some i)
    | none =>
      let i ← match origin with
        | .command => do
          let (descriptor, child) ← startShell k name false
          pure (some { descriptor := descriptor, child := some child : Inlet })
        | _ =>
          if name = ['-'] || name = "/dev/stdin".toList then pure (some { descriptor := 0 : Inlet })
          else
            match ← step (request (.open r.freshDescriptor name .read false)) with
            | .ok _ => pure (some { descriptor := r.freshDescriptor : Inlet })
            | .error _ => pure none
      match i with
      | some i =>
        modify fun r => { r with inlets := (name, i) :: r.inlets,
                                 freshDescriptor := r.freshDescriptor + 1 }
        pure (some i)
      | none => pure none
  match opened with
  | none => return none
  | some i =>
    let (record, i) ← readInlet i
    modify fun r => { r with inlets := r.inlets.map fun p => if p.1 = name then (name, i) else p }
    return some record

end LinkWatch.Host.Record
