import LinkWatch.Host.Record.Value
import Std.Data.HashMap

/-!
# Tables of programs on records

A table holds values by index, which is a text or a whole number; a number and its text are the same
index. When a program goes through a table it gets the indices in the order of a spread of their
texts, and of those at the same place the one that was reached last comes first.
-/

namespace LinkWatch.Host.Record

open LinkWatch.Text LinkWatch.Host.Utility

/-- An element of a table: its value, and when it was last reached by a text or by a number. -/
structure Element where
  value : Cell := .none
  textTime : Option Nat := none
  numberTime : Option Nat := none

/-- A table. -/
structure Table where
  elements : Std.HashMap Bytes Element := {}
  /-- How often elements have been reached. -/
  clock : Nat := 0
  /-- Whether all elements have been placed by their texts. -/
  isPlaced : Bool := false
  /-- The number of places. -/
  places : Nat := 64

/-- An index. -/
inductive Index where
  | text (cs : Bytes)
  | number (n : Int)

/-- The text of an index. -/
def Index.shown : Index → Bytes
  | .text cs => cs
  | .number n => numeralOf n

/-- The index that a value stands for. -/
def Index.ofCell (format : Bytes) : Cell → Index
  | .number x =>
    let r := realOf x
    if r.isWhole then
      let n := r.whole
      if leastNumber ≤ n && n ≤ greatestNumber then .number n else .text (formattedNumber format x)
    else .text (formattedNumber format x)
  | v => .text (v.asText format)

/-- A number spread over 32 bits for a text. -/
def spread (cs : Bytes) : Nat :=
  cs.foldl (fun h c => (Nat.xor h c.toNat * 16777619) % UInt32.size) 2166136261

/-- Makes an element the one that was reached last. -/
def Table.mark (t : Table) (key : Bytes) (byText byNumber : Bool) : Table :=
  let e := (t.elements[key]?).getD {}
  let time := t.clock + 1
  let e := { e with
    textTime := if byText then some time else e.textTime
    numberTime := if byNumber then some time else e.numberTime }
  { t with elements := t.elements.insert key e, clock := time }

/-- Whether of two pairs of numbers the first is not greater. -/
def isInOrder (a b : Nat × Nat) : Bool :=
  a.1 < b.1 || (a.1 = b.1 && a.2 ≤ b.2)

/-- Places the elements that have only been reached by number. -/
def Table.place (t : Table) : Table :=
  if t.isPlaced then t
  else
    let waiting := t.elements.toList.filterMap fun (p : Bytes × Element) =>
      if p.2.textTime.isSome then none
      else
        let n := (integer? p.1).getD 0
        some (((n % (t.places : Int)).toNat, t.clock - p.2.numberTime.getD 0), p.1)
    let ordered := waiting.mergeSort fun a b => isInOrder a.1 b.1
    let placed := ordered.foldl (fun (t : Table) p => t.mark p.2 true false) t
    { placed with isPlaced := true }

/-- The table in which an index has been reached; it is made if it is not there. -/
def Table.reach (t : Table) (i : Index) : Table :=
  let key := i.shown
  let grown (t : Table) : Table :=
    if 12 * t.places < t.elements.size then { t with places := 2 * t.places } else t
  match i with
  | .text _ =>
    let t : Table := if t.elements.isEmpty then { t with isPlaced := true } else t.place
    grown (t.mark key true false)
  | .number _ =>
    let isKnown := (t.elements[key]?).any fun e => e.numberTime.isSome
    grown (t.mark key (t.isPlaced && !isKnown) true)

/-- The value at an index. -/
def Table.value (t : Table) (i : Index) : Cell :=
  match t.elements[i.shown]? with
  | some e => e.value
  | none => .none

/-- The table with a value at an index. -/
def Table.put (t : Table) (i : Index) (v : Cell) : Table :=
  let t := t.reach i
  let key := i.shown
  { t with elements := t.elements.insert key { (t.elements[key]?).getD {} with value := v } }

/-- The table without an index. -/
def Table.remove (t : Table) (i : Index) : Table :=
  let elements := t.elements.erase i.shown
  if elements.isEmpty then {} else { t with elements := elements }

/-- All indices in order, and the table after they have been placed. -/
def Table.indices (t : Table) : List Bytes × Table :=
  let t := t.place
  let all := t.elements.toList.map fun (p : Bytes × Element) =>
    ((spread p.1 % t.places, t.clock - p.2.textTime.getD 0), p.1)
  ((all.mergeSort fun a b => isInOrder a.1 b.1).map (·.2), t)

end LinkWatch.Host.Record
