import LinkWatch.Json.Node

/-!
# Records in JSON

A record with named fields is an object or an array. In an object the fields stand in any order,
members of other names are passed over, and no field may stand twice. In an array the fields stand
in their own order, with nothing after them.
-/

namespace LinkWatch.Json

/-- The truth value of a node. -/
def Node.bool? : Node → Option Bool
  | .bool b => some b
  | _ => none

/-- The text of a node. -/
def Node.text? : Node → Option String
  | .string body => (unescape? body).map String.ofList
  | _ => none

/-- The natural number of a node. -/
def Node.natural? : Node → Option UInt64
  | .number n => n.natural?
  | _ => none

/-- The double of a node. -/
def Node.float? : Node → Option Float
  | .number n => n.float?
  | _ => none

/-- The items of a node, each read in the same way. -/
def Node.list? {α : Type} (read : Node → Option α) : Node → Option (List α)
  | .array items => items.mapM read
  | _ => none

/-- What a node that may be null holds. -/
def Node.orNull? {α : Type} (read : Node → Option α) : Node → Option (Option α)
  | .null => some none
  | n => (read n).map some

/-- The nodes of a record's fields, in the order of the fields, and whether they were given by
place rather than by name. -/
structure Fields where
  byPlace : Bool
  values : List (Option Node)

/-- The one member of a name: `some none` if there is none, and nothing if there are more. -/
def memberOf? (members : List (List Char × Node)) (name : List Char) : Option (Option Node) :=
  match members.filter (·.1 == name) with
  | [] => some none
  | [m] => some (some m.2)
  | _ => none

/-- The fields of a record with the given names. The names of all members have to be texts. -/
def Node.fields? (names : List String) : Node → Option Fields
  | .object members => do
    let named ← members.mapM fun m => (unescape? m.1).map fun key => (key, m.2)
    let values ← names.mapM fun name => memberOf? named name.toList
    return ⟨false, values⟩
  | .array items =>
    if items.length ≤ names.length then
      some ⟨true, items.map some ++ List.replicate (names.length - items.length) none⟩
    else none
  | _ => none

/-- A field that has to be there. -/
def required? {α : Type} (read : Node → Option α) (field : Option Node) : Option α :=
  field.bind read

/-- A field that has a value of its own where it is missing. -/
def orDefault? {α : Type} (default : α) (read : Node → Option α) : Option Node → Option α
  | none => some default
  | some n => read n

end LinkWatch.Json
