import LinkWatch.Host.Sigil.Form
import LinkWatch.Host.Sigil.Value
import LinkWatch.Host.Utility.Launching
import LinkWatch.Host.Utility.Trial
import Std.Data.HashMap

/-!
# The memory of a program with marked names

Values, lists and tables stand at addresses. A name leads to an address, either within the braces in
which it has been declared or everywhere; a link is an address too.
-/

namespace LinkWatch.Host.Sigil

open LinkWatch.Text LinkWatch.Host.Kernel LinkWatch.Host.Utility

/-- A table whose keys are kept in the order in which they have come. -/
structure Register where
  entries : Std.HashMap Bytes (Nat × Scalar) := {}
  fresh : Nat := 0

/-- The keys of a table with their values. -/
def Register.pairs (t : Register) : List (Bytes × Scalar) :=
  ((t.entries.toList.map fun e => (e.2.1, e.1, e.2.2)).mergeSort fun a b => a.1 ≤ b.1).map (·.2)

/-- A table with a value for a key. -/
def Register.put (t : Register) (key : Bytes) (v : Scalar) : Register :=
  match t.entries[key]? with
  | some (place, _) => { t with entries := t.entries.insert key (place, v) }
  | none => { entries := t.entries.insert key (t.fresh, v), fresh := t.fresh + 1 }

/-- A value in memory. -/
inductive Spot where
  | cell (address : Nat)
  | element (address index : Nat)
  | entry (address : Nat) (key : Bytes)
  /-- A value that is not kept. -/
  | loose (v : Scalar)

/-- Names with what they lead to. -/
abbrev Names := List (Bytes × Nat)

/-- A routine, with the names that it knows. -/
structure Routine where
  body : List Statement
  names : List Names

/-- Something that is read from or written to. -/
structure Conduit where
  title : Bytes
  descriptor : Option Nat
  buffer : Bytes := []
  isAtEnd : Bool := false
  /-- What has not been written yet, the last piece first. -/
  pieces : List Bytes := []
  size : Nat := 0
  child : Option Nat := none
  lines : Nat := 0
  names : List Bytes := []

/-- The last match: the text, where it starts and ends, its groups, and their names. -/
structure Match where
  text : Bytes
  start : Nat
  place : Place
  names : List (Bytes × Nat)

/-- What comes back at the end of the braces in which it has been changed for a while. -/
inductive Saved where
  | value (s : Spot) (v : Scalar)
  | name (name : Bytes) (address : Option Nat)

/-- What stays the same while a program runs. -/
structure Plan where
  call : Call
  perform : Performer

/-- The memory of a program. -/
structure Memory where
  cells : Std.HashMap Nat Scalar := {}
  lists : Std.HashMap Nat (Array Scalar) := {}
  tables : Std.HashMap Nat Register := {}
  fresh : Nat := 1
  globals : Std.HashMap Bytes Nat := {}
  names : List Names := [[]]
  routines : Std.HashMap Bytes Routine := {}
  /-- The classes of what has one, by addresses. -/
  classes : Std.HashMap Nat Bytes := {}
  closures : Std.HashMap Nat Routine := {}
  conduits : Std.HashMap Nat Conduit := {}
  conduitNames : List (Bytes × Nat) := []
  freshConduit : Nat := 5
  freshDescriptor : Nat := 100
  selected : Nat := 1
  /-- The conduit from which a line has been read last. -/
  lastRead : Option Nat := none
  found : Option Match := none
  /-- Where matching goes on in the text of a variable, and whether the match there was empty. -/
  positions : Std.HashMap Bytes (Nat × Bool) := {}
  /-- How many keys of a table have been passed. -/
  rounds : Std.HashMap Nat Nat := {}
  /-- The ranges of lines in which a program is, with the number of the line in each. -/
  ranges : Std.HashMap Nat Nat := {}
  errorNumber : Nat := 0
  /-- What comes back at the end of the present braces, the last one first. -/
  saved : List Saved := []
  wantsList : Bool := false
  line : Nat := 1
  endings : List (List Statement × List Names) := []
  /-- Whether some file of the arguments has been opened. -/
  hasFile : Bool := false
  /-- The ending of copies, if files are changed in place. -/
  inPlace : Option Bytes := none
  random : Nat := 42
  /-- Whether parts of seconds count. -/
  isFine : Bool := false
  /-- Whether some signal is noticed. -/
  isWatchful : Bool := false
  /-- The signals that have been noticed and not been dealt with. -/
  noticed : List Nat := []
  title : Bytes := "-e".toList

/-- Why a program does not go on with the next statement. -/
inductive Halt where
  | die (v : Scalar)
  | exit (status : Nat)
  | next (label : Bytes)
  | last (label : Bytes)
  | redo
  | give (vs : List Scalar)

/-- A step of a program. -/
abbrev Act := ExceptT Halt (StateT Memory Program)

/-- A request as a step. -/
def ask {α : Type} (p : Program α) : Act α :=
  ExceptT.lift (StateT.lift p)

/-- Does something and tells what stops it, if something does. -/
def tried {α : Type} (a : Act α) : Act (Except Halt α) :=
  ExceptT.lift a.run

/-! ## Values -/

/-- Makes an address. -/
def freshAddress : Act Nat := do
  let m ← get
  set { m with fresh := m.fresh + 1 }
  return m.fresh

/-- The address that a marked name leads to, if there is one. -/
def Memory.address? (m : Memory) (name : Bytes) : Option Nat :=
  match m.names.findSome? fun names => names.lookup name with
  | some a => some a
  | none => m.globals[name]?

/-- The address that a marked name leads to. -/
def addressOf (name : Bytes) : Act Nat := do
  let m ← get
  match m.address? name with
  | some a => return a
  | none =>
    let a ← freshAddress
    modify fun m => { m with globals := m.globals.insert name a }
    return a

/-- Lets a marked name lead to a new address. -/
def declare (name : Bytes) : Act Nat := do
  let a ← freshAddress
  modify fun m =>
    match m.names with
    | inner :: outer => { m with names := ((name, a) :: inner) :: outer }
    | [] => { m with names := [[(name, a)]] }
  return a

/-- The list at an address. -/
def Memory.list (m : Memory) (address : Nat) : Array Scalar :=
  (m.lists[address]?).getD #[]

/-- The table at an address. -/
def Memory.table (m : Memory) (address : Nat) : Register :=
  (m.tables[address]?).getD {}

/-- Keeps a list at an address. -/
def setList (address : Nat) (vs : Array Scalar) : Act Unit :=
  modify fun m => { m with lists := m.lists.insert address vs }

/-- Keeps a table at an address. -/
def setTable (address : Nat) (t : Register) : Act Unit :=
  modify fun m => { m with tables := m.tables.insert address t }

/-- The value at a spot. -/
def Memory.load (m : Memory) (s : Spot) : Scalar :=
  match s with
  | .cell a => (m.cells[a]?).getD .none
  | .element a i => ((m.list a)[i]?).getD .none
  | .entry a key => match (m.table a).entries[key]? with
    | some (_, v) => v
    | none => .none
  | .loose v => v

/-- The memory with a value at a spot. -/
def Memory.keep (m : Memory) (s : Spot) (v : Scalar) : Memory :=
  match s with
  | .cell a => { m with cells := m.cells.insert a v }
  | .element a i =>
    let vs := m.list a
    let m := { m with lists := m.lists.erase a }
    let vs := if i < vs.size then vs.setIfInBounds i v
      else (vs ++ Array.replicate (i - vs.size) Scalar.none).push v
    { m with lists := m.lists.insert a vs }
  | .entry a key =>
    let t := m.table a
    let m := { m with tables := m.tables.erase a }
    { m with tables := m.tables.insert a (t.put key v) }
  | .loose _ => m

/-- Keeps a value at a spot. -/
def keep (s : Spot) (v : Scalar) : Act Unit :=
  modify fun m => m.keep s v

/-- Does something with names of its own. Afterwards what has been changed for a while comes back.
-/
def inBraces {α : Type} (a : Act α) : Act α := do
  let before ← get
  set { before with names := [] :: before.names, saved := [] }
  let result ← tried a
  modify fun m =>
    let m := m.saved.foldl (fun (m : Memory) (s : Saved) =>
      match s with
      | .value spot v => m.keep spot v
      | .name name (some address) => { m with globals := m.globals.insert name address }
      | .name name none => { m with globals := m.globals.erase name }) m
    { m with names := before.names, saved := before.saved }
  match result with
  | .ok x => return x
  | .error h => throw h

/-- Does something while a name that all parts know leads to another value. -/
def standingFor {α : Type} (name : Bytes) (s : Spot) (a : Act α) : Act α := do
  let old := (← get).globals[name]?
  let address ← freshAddress
  let v := (← get).load s
  modify fun m => { m with globals := m.globals.insert name address,
                           cells := m.cells.insert address v }
  let result ← tried a
  modify fun m =>
    let m := m.keep s (m.load (.cell address))
    { m with
      globals := match old with
        | some o => m.globals.insert name o
        | none => m.globals.erase name
      cells := m.cells.erase address }
  match result with
  | .ok x => return x
  | .error h => throw h

/-- The value of a variable that all parts of a program know. -/
def Memory.setting (m : Memory) (name : String) : Scalar :=
  match m.globals[('$' :: name.toList)]? with
  | some a => m.load (.cell a)
  | none => .none

/-- Gives a variable that all parts of a program know a value. -/
def setSetting (name : String) (v : Scalar) : Act Unit := do
  let m ← get
  let a ← match m.globals[('$' :: name.toList)]? with
    | some a => pure a
    | none => do
      let a ← freshAddress
      modify fun m => { m with globals := m.globals.insert ('$' :: name.toList) a }
      pure a
  keep (.cell a) v

/-- A name for a spot. -/
def Spot.tag : Spot → Bytes
  | .cell a => digitsOf a
  | .element a i => digitsOf a ++ '.' :: digitsOf i
  | .entry a key => digitsOf a ++ ':' :: key
  | .loose _ => []

/-! ## Faults -/

/-- Where a program is: the line, and the line of what has been read last. -/
def Memory.place (m : Memory) : Bytes :=
  let read : Bytes := match m.lastRead.bind fun n => m.conduits[n]? with
    | some p =>
      if p.lines = 0 then [] else ", <".toList ++ p.title ++ "> line ".toList ++ digitsOf p.lines
    | none => []
  " at ".toList ++ m.title ++ " line ".toList ++ digitsOf m.line ++ read ++ ['.', '\n']

/-- Stops the program with words about a fault. -/
def fault {α : Type} (words : Bytes) : Act α := do
  let m ← get
  throw (.die (.text (words ++ m.place)))

/-- Notes why a request has not been granted. -/
def noteError (e : OsError) : Act Unit := do
  setSetting "!" (.text (wordsOf e))
  modify fun m => { m with errorNumber := e.code }

/-! ## Conduits -/

/-- Puts a conduit in its place. -/
def setConduit (number : Nat) (p : Conduit) : Act Unit :=
  modify fun m => { m with conduits := m.conduits.insert number p }

/-- Writes what has not been written to a conduit. -/
def flushConduit (number : Nat) : Act Unit := do
  match (← get).conduits[number]? with
  | some p =>
    match p.descriptor with
    | some d =>
      if p.pieces ≠ [] then
        match ← ask (writeTo d p.pieces.reverse.flatten) with
        | .ok _ => pure ()
        | .error e => noteError e
        setConduit number { p with pieces := [], size := 0 }
    | none => return ()
  | none => return ()

/-- Writes all that has not been written. -/
def flushAll : Act Unit := do
  for (number, _) in (← get).conduits.toList do flushConduit number

/-- Writes a text to a conduit; whether that could be done. -/
def putText (number : Nat) (text : Bytes) : Act Bool := do
  let m ← get
  match m.conduits[number]? with
  | some p =>
    if p.descriptor.isNone then return false
    else
      let p := { p with pieces := text :: p.pieces, size := p.size + text.length }
      setConduit number p
      if blockSize ≤ p.size || number = 2 || (number = m.selected && (m.setting "|").isTrue) then
        flushConduit number
      return true
  | none => return false

/-- The variables that other programs are given: the table of them as it is now. -/
def Memory.environment (m : Memory) : Environment :=
  match m.globals["%ENV".toList]? with
  | some a => (m.table a).pairs.map fun e => (e.1, e.2.asText)
  | none => []

/-- Starts a process that reads from a conduit of this program or writes to one; the answer is the
end of this program and the number of the process. -/
def startProcess (k : Plan) (words : List Bytes) (isInput : Bool) : Act (Nat × Nat) := do
  flushAll
  let m ← get
  let (source, sink) ← ask (request .pipe)
  let (kept, given, standard) := if isInput then (sink, source, 0) else (source, sink, 1)
  let others := m.conduits.toList.filterMap fun p => p.2.descriptor.filter (2 < ·)
  let child ← ask (request (.fork (do
    for d in others do request (.close d)
    request (.close kept)
    let _ ← request (.copy given standard)
    request (.close given)
    becomeProgram k.perform k.call id (callOf m.environment words) : Program Nat).action))
  ask (request (.close given))
  return (kept, child)

/-- The words that a shell is started with. -/
def shellWords (text : Bytes) : List Bytes :=
  ["/bin/sh".toList, "-c".toList, text]

/-- Waits for a process and tells its status as programs are told it. -/
def awaitChild (child : Nat) : Act Nat := do
  let status ← match ← ask (request (.wait (some [child]) none false)) with
    | .ended _ (.code status) => pure (256 * status)
    | .ended _ (.signal n _) => pure n
    | _ => pure 0
  setSetting "?" (.ofNat status)
  return status

/-- Closes a conduit; whether it was open. -/
def closeConduit (number : Nat) : Act Bool := do
  flushConduit number
  match (← get).conduits[number]? with
  | some p =>
    let isOpen := p.descriptor.isSome || p.buffer ≠ []
    match p.descriptor with
    | some d => ask (request (.close d))
    | none => pure ()
    setConduit number
      { p with descriptor := none, buffer := [], isAtEnd := true, lines := 0, child := none }
    match p.child with
    | some child =>
      let status ← awaitChild child
      return isOpen && status = 0
    | none => return isOpen
  | none => return false

/-- A line at the start of a text with its end, and what follows; there is none if the text has to
go on. -/
def cutLine (separator : Option Bytes) (isAll : Bool) (cs : Bytes) : Option (Bytes × Bytes) :=
  let last : Option (Bytes × Bytes) := if isAll && cs ≠ [] then some (cs, []) else none
  match separator with
  | none => last
  | some ['\n'] =>
    let first := cs.takeWhile (· ≠ '\n')
    match cs.drop first.length with
    | _ :: rest => some (first ++ ['\n'], rest)
    | [] => last
  | some [] =>
    let start := cs.dropWhile (· = '\n')
    match cut? ['\n', '\n'] start with
    | some (first, rest) =>
      let after := rest.dropWhile (· = '\n')
      if after = [] && !isAll then none else some (first ++ ['\n', '\n'], after)
    | none => if isAll && start ≠ [] then some (start, []) else none
  | some mark =>
    match cut? mark cs with
    | some (first, rest) => some (first ++ mark, rest)
    | none => last

/-- Reads a line from a conduit. -/
def readConduit (separator : Option Bytes) : Nat → Conduit → Program (Option Bytes × Conduit)
  | 0, p => return (none, p)
  | fuel + 1, p => do
    match cutLine separator p.isAtEnd p.buffer with
    | some (first, rest) => return (some first, { p with buffer := rest, lines := p.lines + 1 })
    | none =>
      match p.isAtEnd, p.descriptor with
      | false, some d =>
        match ← request (.read d pieceSize) with
        | .ok [] => readConduit separator fuel { p with isAtEnd := true }
        | .ok piece => readConduit separator fuel { p with buffer := p.buffer ++ piece }
        | .error _ => readConduit separator fuel { p with isAtEnd := true }
      | _, _ => return (none, { p with buffer := [], isAtEnd := true })

/-- What divides lines, unless all is one. -/
def Memory.separator (m : Memory) : Option Bytes :=
  match m.setting "/" with
  | .none => none
  | v => some v.asText

/-- Reads a line from a conduit. -/
def nextLine (number : Nat) : Act (Option Bytes) := do
  let m ← get
  match m.conduits[number]? with
  | some p =>
    let (text, p) ← ask (readConduit m.separator streamFuel p)
    modify fun m => { m with conduits := m.conduits.insert number p, lastRead := some number }
    return text
  | none => return none

/-- Whether a conduit has no more lines. -/
def isFinished (number : Nat) : Act Bool := do
  match (← get).conduits[number]? with
  | some p =>
    if p.buffer ≠ [] then return false
    else
      match p.isAtEnd, p.descriptor with
      | false, some d =>
        match ← ask (request (.read d pieceSize)) with
        | .ok [] =>
          setConduit number { p with isAtEnd := true }
          return true
        | .ok piece =>
          setConduit number { p with buffer := piece }
          return false
        | .error _ => return true
      | _, _ => return true
  | none => return true

/-- The conduit of the files that the arguments name. -/
def filesConduit : Nat := 3

/-- The conduit of what follows the program. -/
def dataConduit : Nat := 4

/-- Opens the next file of the arguments; whether there is one. -/
def openNext : Nat → Act Bool
  | 0 => return false
  | fuel + 1 => do
    let m ← get
    let a ← addressOf "@ARGV".toList
    let words := (← get).list a
    let lines := (m.conduits[filesConduit]?.map Conduit.lines).getD 0
    match words.toList with
    | [] =>
      if m.hasFile then return false
      else
        modify fun m => { m with hasFile := true }
        setSetting "ARGV" (.text ['-'])
        setConduit filesConduit { title := [], descriptor := some 0, lines := lines }
        return true
    | word :: rest =>
      setList a rest.toArray
      modify fun m => { m with hasFile := true }
      let path := word.asText
      setSetting "ARGV" (.text path)
      if path = ['-'] then
        setConduit filesConduit { title := [], descriptor := some 0, lines := lines }
        return true
      else
        match ← ask (readFile path) with
        | .error e =>
          noteError e
          let here := (← get).place
          let _ ← ask (writeTo 2 ("Can't open ".toList ++ path ++ ": ".toList ++ wordsOf e
            ++ here))
          openNext fuel
        | .ok text =>
          setConduit filesConduit
            { title := [], descriptor := none, buffer := text, isAtEnd := true, lines := lines }
          match m.inPlace with
          | none => return true
          | some ending =>
            if ending ≠ [] then
              let copy := if ending.contains '*' then ending.flatMap fun c => if c = '*' then path
                else [c]
                else path ++ ending
              match ← ask (request (.open m.freshDescriptor copy .write false)) with
              | .ok _ =>
                let _ ← ask (writeTo m.freshDescriptor text)
                ask (request (.close m.freshDescriptor))
              | .error _ => pure ()
            match ← ask (request (.open m.freshDescriptor path .write false)) with
            | .ok _ =>
              let number := m.freshConduit
              modify fun m =>
                { m with
                  freshDescriptor := m.freshDescriptor + 1, freshConduit := m.freshConduit + 1
                  selected := number
                  conduits := m.conduits.insert number
                    { title := "ARGVOUT".toList, descriptor := some m.freshDescriptor } }
              return true
            | .error e =>
              noteError e
              openNext fuel

/-- Reads a line of the files that the arguments name. -/
def nextArgumentLine : Nat → Act (Option Bytes)
  | 0 => return none
  | fuel + 1 => do
    let m ← get
    if (m.conduits[filesConduit]?).isNone then
      if ← openNext streamFuel then nextArgumentLine fuel
      else
        modify fun m => { m with hasFile := false }
        return none
    else
      match ← nextLine filesConduit with
      | some text => return some text
      | none =>
        let m ← get
        if m.inPlace.isSome && m.selected ≠ 1 then
          let _ ← closeConduit m.selected
          modify fun m => { m with selected := 1 }
        if ← openNext streamFuel then nextArgumentLine fuel else return none

/-- The number of a conduit that a value names. -/
def conduitOf? (v : Scalar) : Act (Option Nat) := do
  match v with
  | .link .conduit n => return some n
  | .link .cell a =>
    let m ← get
    match m.load (.cell a) with
    | .link .conduit n => return some n
    | v => return m.conduitNames.lookup (bareName v)
  | v => return (← get).conduitNames.lookup (bareName v)
where
  /-- The name of a conduit without what may stand before it. -/
  bareName (v : Scalar) : Bytes :=
    let name := v.asText.dropWhile (· = '*')
    (stripPrefix? "main::".toList name).getD name

end LinkWatch.Host.Sigil
