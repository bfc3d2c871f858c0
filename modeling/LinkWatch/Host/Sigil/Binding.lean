import LinkWatch.Host.Sigil.Library
import LinkWatch.Host.Sigil.Reader

/-!
# Names and loops of programs with marked names

How names are bound and come back, how values become lists and tables, and how loops are left.
-/

namespace LinkWatch.Host.Sigil

open LinkWatch.Text LinkWatch.Host.Kernel LinkWatch.Host.Utility

/-! ## Names -/

/-- Lets a marked name stand for something else until the present braces end. -/
def bindForWhile (name : Bytes) : Act Unit := do
  let m ← get
  let old := m.globals[name]?
  let a ← freshAddress
  modify fun m => { m with globals := m.globals.insert name a, saved := .name name old :: m.saved }

/-- Lets a name lead to an address in the present braces. -/
def bindTo (name : Bytes) (address : Nat) : Act Unit :=
  modify fun m =>
    match m.names with
    | inner :: outer => { m with names := ((name, address) :: inner) :: outer }
    | [] => { m with names := [[(name, address)]] }

/-- The name that a value has that is kept from call to call. -/
def lastingName (line : Nat) (name : Bytes) : Bytes :=
  '\x00' :: digitsOf line ++ name

/-- The names that a routine without names of its own knows: the outermost ones. -/
def Memory.outermost (m : Memory) : List Names :=
  match m.names.getLast? with
  | some names => [names]
  | none => [[]]

/-- The routine of a name. -/
def Memory.routine? (m : Memory) (name : Bytes) : Option Routine :=
  m.routines[name]?

/-- The last part of a name with packages. -/
def lastPart (name : Bytes) : Bytes :=
  match cut? [':', ':'] name.reverse with
  | some (first, _) => first.reverse
  | none => name

/-- Whether a marked name has been declared. -/
def Memory.isDeclared (m : Memory) (name : Bytes) : Bool :=
  m.names.any fun names => (names.lookup name).isSome

/-- The list that values are taken from if none is named: the arguments of the routine, or of the
program. -/
def usualList : Act Nat := do
  if (← get).isDeclared "@_".toList then addressOf "@_".toList else addressOf "@ARGV".toList

/-! ## Links -/

/-- What a mark leads to. -/
def goalOf (mark : Char) : Goal :=
  match mark with
  | '@' => .list
  | '#' => .list
  | '%' => .table
  | '&' => .routine
  | _ => .cell

/-- A link to something new that holds a value. -/
def linkToValue (v : Scalar) : Act Scalar := do
  let a ← freshAddress
  keep (.cell a) v
  return .link .cell a

/-- A link to a new list. -/
def linkToList (vs : List Scalar) : Act Scalar := do
  let a ← freshAddress
  setList a vs.toArray
  return .link .list a

/-- The table of keys and values that follow each other. -/
def registerOf : List Scalar → Register → Register
  | key :: v :: rest, t => registerOf rest (t.put key.asText v)
  | [key], t => t.put key.asText .none
  | [], t => t

/-- A link to a new table. -/
def linkToTable (vs : List Scalar) : Act Scalar := do
  let a ← freshAddress
  setTable a (registerOf vs {})
  return .link .table a

/-- A link to a routine. -/
def linkToRoutine (r : Routine) : Act Scalar := do
  let a ← freshAddress
  modify fun m => { m with closures := m.closures.insert a r }
  return .link .routine a

/-- The address that a value leads to. A value that is none yet becomes a link to something new. -/
def leadTo (mark : Char) (s : Spot) : Act Nat := do
  let m ← get
  let goal := goalOf mark
  match m.load s with
  | .link g a =>
    if g = goal then return a else fault ("Not ".toList ++ article goal ++ " reference".toList)
  | .none => do
    let a ← freshAddress
    keep s (.link goal a)
    return a
  | v => addressOf ((if mark = '#' then '@' else mark) :: v.asText)
where
  /-- The word for what a link has to lead to. -/
  article (goal : Goal) : Bytes :=
    (if goal = .list then "an " else "a ").toList ++ goal.word.toList

/-- The index of an element, counted from the end if it is negative. -/
def indexIn (size : Nat) (i : Int) : Option Nat :=
  if 0 ≤ i then some i.toNat
  else if 0 ≤ (size : Int) + i then some ((size : Int) + i).toNat
  else none

/-! ## Errors of the system -/

/-- The words for errors that no request of this program ends with. -/
def otherErrors : List (Nat × String) :=
  [(3, "No such process"), (4, "Interrupted system call"), (5, "Input/output error"),
    (10, "No child processes"), (11, "Resource temporarily unavailable"), (14, "Bad address"),
    (18, "Invalid cross-device link"), (19, "No such device"),
    (23, "Too many open files in system"), (24, "Too many open files"), (26, "Text file busy"),
    (27, "File too large"), (31, "Too many links"), (33, "Numerical argument out of domain"),
    (34, "Numerical result out of range"), (35, "Resource deadlock avoided"),
    (37, "No locks available"), (38, "Function not implemented"), (110, "Connection timed out"),
    (111, "Connection refused")]

/-- Makes an error of the system the last one, by its number. -/
def setErrorNumber (number : Nat) : Act Unit := do
  let known : List OsError :=
    [.notFound, .noDevice, .badDescriptor, .noMemory, .permissionDenied, .exists, .notDirectory,
      .isDirectory, .noSpace, .readOnly, .nameTooLong, .notEmpty, .brokenPipe, .notPermitted,
      .listTooLong, .notExecutable, .busy, .invalid, .noTerminal, .noSeek, .tooManyLinks]
  let words : Bytes :=
    if number = 0 then []
    else match known.find? fun e => e.code = number with
      | some e => wordsOf e
      | none => match otherErrors.lookup number with
        | some words => words.toList
        | none => "Unknown error ".toList ++ digitsOf number
  setSetting "!" (.text words)
  modify fun m => { m with errorNumber := number }

/-! ## Classes -/

/-- The routine that a method of a class is, its own or one of the classes that it comes from. -/
def Memory.method? (m : Memory) (name : Bytes) : Nat → Bytes → Option Routine
  | 0, _ => none
  | fuel + 1, kind =>
    match m.routine? (kind ++ ':' :: ':' :: name) with
    | some r => some r
    | none =>
      match m.globals[('@' :: kind ++ "::ISA".toList)]? with
      | some a => (m.list a).toList.findSome? fun v => m.method? name fuel v.asText
      | none => none

/-- Whether a class is another one or comes from it. -/
def Memory.isKind (m : Memory) (other : Bytes) : Nat → Bytes → Bool
  | 0, _ => false
  | fuel + 1, kind =>
    kind = other || match m.globals[('@' :: kind ++ "::ISA".toList)]? with
      | some a => (m.list a).toList.any fun v => m.isKind other fuel v.asText
      | none => false

/-- The class of a value, if it has one. -/
def Memory.class? (m : Memory) (v : Scalar) : Option Bytes :=
  match v with
  | .link .conduit _ => none
  | .link _ a => m.classes[a]?
  | _ => none

/-! ## Steps and ranges -/

/-- A value counted up or down by one. -/
def Scalar.stepped (v : Scalar) (isUp : Bool) : Scalar :=
  match v with
  | .text cs =>
    if isUp && isCountable cs then .text (nextText cs)
    else match (countAt cs).result (if isUp then "+" else "-") (.whole 1) with
      | .ok n => n.scalar
      | .error _ => v
  | v =>
    match v.count.result (if isUp then "+" else "-") (.whole 1) with
    | .ok n => n.scalar
    | .error _ => v

/-- A value with the other sign. -/
def Scalar.opposite (v : Scalar) : Scalar :=
  match v with
  | .text ('-' :: cs) => if cs.head?.any isNameStart then .text ('+' :: cs) else negated
  | .text (c :: cs) => if isNameStart c then .text ('-' :: c :: cs) else negated
  | _ => negated
where
  /-- The number with the other sign. -/
  negated : Scalar :=
    match (Count.whole 0).result "-" v.count with
    | .ok n => n.scalar
    | .error _ => v

/-- The texts from one on up to another one, or up to its length. -/
def textRange (last : Bytes) : Nat → Bytes → List Scalar
  | 0, _ => []
  | fuel + 1, cs =>
    if last.length < cs.length then []
    else if cs = last then [.text cs]
    else .text cs :: textRange last fuel (nextText cs)

/-- The values from one up to another one. -/
def rangeOf (a b : Scalar) : List Scalar :=
  let isCounted := match a with
    | .text cs => isNumeral cs || cs = []
    | _ => true
  if isCounted then
    let n := b.int - a.int + 1
    (List.range n.toNat).map fun (i : Nat) => .whole (a.int + (i : Int))
  else textRange b.asText 1000000 a.asText

/-- Whether a program is inside a range of rounds, and in which of them; the bounds are only asked
for when they count. -/
def inRange (id : Nat) (first last : Act Bool) : Act Scalar := do
  let m ← get
  let before := m.ranges[id]?
  let starts ← match before with
    | some _ => pure true
    | none => first
  if !starts then return .ofBool false
  else
    let n := before.getD 0 + 1
    if ← last then
      modify fun m => { m with ranges := m.ranges.erase id }
      return .text (digitsOf n ++ "E0".toList)
    else
      modify fun m => { m with ranges := m.ranges.insert id n }
      return .ofNat n

/-! ## Loops -/

/-- Whether a loop goes on after a round. -/
def goesOn (label : Bytes) (result : Except Halt Unit) : Act Bool := do
  let isOwn (l : Bytes) : Bool := l = [] || l = label
  match result with
  | .ok _ => return true
  | .error (.next l) => if isOwn l then return true else throw (.next l)
  | .error (.last l) => if isOwn l then return false else throw (.last l)
  | .error h => throw h

/-- The value of a routine that may be left early. -/
def returned (result : Except Halt (List Scalar)) : Act (List Scalar) := do
  match result with
  | .ok vs => return vs
  | .error (.give vs) => return vs
  | .error h => throw h

/-! ## Mistakes -/

/-- The message about a mistake in a program. -/
def Mistake.text (m : Mistake) (title : Bytes) : Bytes :=
  let place := " at ".toList ++ title ++ " line ".toList ++ digitsOf m.line
  match m.flaw with
  | .unexpected words shown =>
    Text.line (words ++ place ++ if shown = [] then ", at end of line".toList else shown)
  | .unended words => Text.line (words ++ place ++ ['.'])
  | .missing name =>
    Text.line (missingWords name ++ place ++ ['.'])
      ++ Text.line ("BEGIN failed--compilation aborted".toList ++ place ++ ['.'])

/-! ## Lines -/

/-- Where lines are read from. -/
inductive Source where
  /-- The files of the arguments. -/
  | arguments
  | conduit (number : Nat)
  | nothing

/-- The next line. -/
def Source.next : Source → Act (Option Bytes)
  | .arguments => nextArgumentLine streamFuel
  | .conduit n => nextLine n
  | .nothing => return none

/-- All lines that are left. -/
def Source.rest (s : Source) : Nat → Act (List Scalar)
  | 0 => return []
  | fuel + 1 => do
    match ← s.next with
    | some text => return .text text :: (← s.rest fuel)
    | none => return []

/-- A value without the line end at its end, and how many characters that is. -/
def withoutLineEnd (separator : Option Bytes) (cs : Bytes) : Bytes × Nat :=
  let mark := match separator with
    | some [] => ['\n']
    | some mark => mark
    | none => []
  if mark ≠ [] && mark.isSuffixOf cs then (cs.take (cs.length - mark.length), mark.length)
  else (cs, 0)

/-- Takes bytes from a conduit, at most so many. -/
def takeBytes (number size : Nat) : Nat → Bytes → Act Bytes
  | 0, out => return out
  | fuel + 1, out => do
    if size ≤ out.length then return out
    else if ← isFinished number then return out
    else
      match (← get).conduits[number]? with
      | some p =>
        let part := p.buffer.take (size - out.length)
        setConduit number { p with buffer := p.buffer.drop part.length }
        modify fun m => { m with lastRead := some number }
        takeBytes number size fuel (out ++ part)
      | none => return out

/-- Gives a conduit a name, or replaces one of the usual conduits. -/
def nameConduit (name : Bytes) (number : Nat) : Act Unit := do
  let m ← get
  match ["STDIN".toList, "STDOUT".toList, "STDERR".toList].idxOf? name, m.conduits[number]? with
  | some usual, some p =>
    flushConduit usual
    match p.descriptor with
    | some d =>
      let _ ← ask (request (.copy d usual))
      ask (request (.close d))
      modify fun m => { m with conduits := m.conduits.erase number }
      setConduit usual { p with descriptor := some usual, title := name }
    | none => setConduit usual { p with title := name }
  | _, _ =>
    match m.conduitNames.lookup name with
    | some old => let _ ← closeConduit old
    | none => pure ()
    modify fun m =>
      { m with conduitNames := (name, number) :: m.conduitNames.filter fun n => n.1 ≠ name }

end LinkWatch.Host.Sigil
