import LinkWatch.Host.Shell.Expansion
import LinkWatch.Host.Shell.Printing

/-!
# Assignments

A value is given to a variable, to a place in it, or added to what is there. A list of values makes
a row, or a table where a table has been declared. What is declared of a variable changes the values
that it is given.
-/

namespace LinkWatch.Host.Shell

open LinkWatch.Text LinkWatch.Host.Kernel LinkWatch.Host.Utility

/-! ## Values -/

/-- A value as it is stored, by what is declared of its variable. -/
def storedAs (traits : List Char) (value : Bytes) : Act Bytes := do
  if traits.contains 'i' then return numeralOf (← numberOf value)
  else if traits.contains 'u' then return value.map Char.toUpper
  else if traits.contains 'l' then return value.map Char.toLower
  else return value

/-- A value after another one to which it is added. -/
def addedTo (traits : List Char) (old value : Bytes) : Act Bytes := do
  if traits.contains 'i' then
    return numeralOf (wrapped ((← numberOf old) + (← numberOf value)))
  else return old ++ value

/-- Gives a variable a value, or a place in it if one is named. -/
def assignAt (exported : Bool) (name : Bytes) (key : Option Bytes) (isAdded : Bool)
    (value : Bytes) : Act Unit := do
  let s ← get
  let b := (s.meant? name).getD { name := name }
  match key with
  | none =>
    let value ← if isAdded then addedTo b.traits (b.contents.usual?.getD []) value else pure value
    assignContents exported name (b.contents.putUsual (← storedAs b.traits value))
  | some text =>
    let place ← keyIn name b.contents text
    let old := (b.contents.get? place).getD []
    let value ← if isAdded then addedTo b.traits old value else pure value
    assignContents exported name (b.contents.put place (← storedAs b.traits value))

/-! ## Lists -/

/-- One of the values of a list, with the place that is named for it. -/
structure Element where
  key : Option Bytes
  value : Bytes

/-- The values that the words of a list stand for. -/
def expandElements (sub : Substitute) (ws : List Word) : Act (List Element) := do
  let groups ← ws.mapM fun w => do
    match w.parts with
    | .text [] :: .place key :: .text ('=' :: cs) :: rest =>
      let key := glyphText (← expandWhole sub key)
      let value ← expandValue sub (if cs = [] then rest else .text cs :: rest)
      return [Element.mk (some key) value]
    | _ =>
      let fields ← expandWords sub [w]
      return fields.map (Element.mk none)
  return groups.flatten

/-- Adds values to a row, those without a place one after another. -/
def fillRow (name : Bytes) (traits : List Char) :
    List (Nat × Bytes) → Nat → List Element → Act Contents
  | row, _, [] => return .row row
  | row, next, e :: rest => do
    let n ← match e.key with
      | none => pure next
      | some text =>
        match ← keyIn name (.row row) text with
        | .number n => pure n
        | .name _ => pure next
    fillRow name traits (putElement n (← storedAs traits e.value) row) (n + 1) rest

/-- Adds values to a table. Without places each two of them are a name and its value. -/
def fillTable (traits : List Char) : List (Bytes × Bytes) → List Element → Act Contents
  | table, [] => return .table table
  | table, ⟨some key, value⟩ :: rest => do
    fillTable traits (putEntry key (← storedAs traits value) table) rest
  | table, [⟨none, key⟩] => return .table (putEntry key [] table)
  | table, ⟨none, key⟩ :: e :: rest => do
    fillTable traits (putEntry key (← storedAs traits e.value) table) rest

/-- Gives a variable a list of values, or adds them to those that it has. -/
def assignElements (exported : Bool) (name : Bytes) (isAdded : Bool) (es : List Element) :
    Act Unit := do
  let s ← get
  let b := (s.meant? name).getD { name := name }
  let contents ← match b.contents, isAdded with
    | .table entries, true => fillTable b.traits entries es
    | .table _, false => fillTable b.traits [] es
    | .row row, true => fillRow name b.traits row b.contents.limit es
    | .text value, true => fillRow name b.traits [(0, value)] 1 es
    | _, _ => fillRow name b.traits [] 0 es
  assignContents exported name contents

/-! ## Lists as arguments -/

/-- A list of values as one text. -/
def encodeElements (es : List Element) : Bytes :=
  valueMark :: joinWith [valueMark] (es.flatMap fun e =>
    match e.key with
    | some key => ['k' :: key, e.value]
    | none => ['v' :: e.value])

/-- The list of values that a text is. -/
def decodeElements? (cs : Bytes) : Option (List Element) :=
  let rec go : List Bytes → List Element
    | ('k' :: key) :: value :: rest => ⟨some key, value⟩ :: go rest
    | ('v' :: value) :: rest => ⟨none, value⟩ :: go rest
    | _ => []
  match cs with
  | c :: rest => if c = valueMark then some (go (pieces valueMark rest)) else none
  | [] => none

/-! ## Assignments -/

/-- Makes an assignment. The answer is its text as the trace of commands shows it. -/
def performAssignment (sub : Substitute) (exported : Bool) (a : Assignment) : Act Bytes := do
  let ⟨name, key, isAdded, value⟩ := a
  let sourceOf (ps : List Part) : Bytes := ps.flatMap (Part.source printingFuel false)
  let start := name ++ key.elim [] (fun ps => '[' :: sourceOf ps ++ [']'])
    ++ (if isAdded then ['+', '='] else ['='])
  if !(← get).isRich then
    let text ← expandValue sub value
    assignAs exported name text
    return name ++ '=' :: text
  else
    match value with
    | [.list ws] =>
      let es ← expandElements sub ws
      assignElements exported name isAdded es
      return start ++ sourceOf value
    | value =>
      let text ← expandValue sub value
      let key ← match key with
        | none => pure none
        | some parts => do pure (some (glyphText (← expandWhole sub parts)))
      assignAt exported name key isAdded text
      return start ++ tracedValue text

/-- An assignment among the arguments of a command as the trace of commands shows it: the line
before the command if a list is given, and the argument. -/
def tracedArgument (field : Bytes) : Option Bytes × Bytes :=
  match cutAt? '=' field with
  | some (name, value) =>
    match decodeElements? value with
    | some es =>
      let item (e : Element) : Bytes :=
        e.key.elim [] (fun k => '[' :: betweenQuotes k ++ [']', '=']) ++ betweenQuotes e.value
      (some (name ++ '=' :: '(' :: joinWords (es.map item) ++ [')']), name)
    | none => (none, tracedWord field)
  | none => (none, tracedWord field)

/-- An assignment as an argument of a command. -/
def assignmentField (sub : Substitute) (a : Assignment) : Act Bytes := do
  let ⟨name, key, isAdded, value⟩ := a
  let place ← match key with
    | none => pure []
    | some parts => do pure ('[' :: glyphText (← expandWhole sub parts) ++ [']'])
  let text ← match value with
    | [.list ws] => do pure (encodeElements (← expandElements sub ws))
    | value => expandValue sub value
  return name ++ place ++ (if isAdded then ['+', '='] else ['=']) ++ text

end LinkWatch.Host.Shell
