import LinkWatch.Decimal.Nearest
import LinkWatch.Text.Bytes

/-!
# What variables hold

A variable holds a text, or several: in a row each one has a number, in a table a name. The entries
of a table come in the order of the places that their names have in a table of fixed size.
-/

namespace LinkWatch.Host.Shell

open LinkWatch.Text

/-- What a variable holds. -/
inductive Contents where
  | nothing
  | text (value : Bytes)
  /-- Texts with numbers, in their order. -/
  | row (elements : List (Nat × Bytes))
  /-- Texts with names, the newest first. -/
  | table (entries : List (Bytes × Bytes))
  deriving DecidableEq, Repr

/-- The place of one of several texts. -/
inductive Key where
  | number (n : Nat)
  | name (cs : Bytes)
  deriving DecidableEq, Repr

/-- Whether there may be several texts. -/
def Contents.isMany : Contents → Bool
  | .row _ => true
  | .table _ => true
  | _ => false

/-- The text at a place. -/
def Contents.get? (c : Contents) (k : Key) : Option Bytes :=
  match c, k with
  | .text value, .number 0 => some value
  | .row elements, .number n => elements.lookup n
  | .table entries, .name cs => entries.lookup cs
  | _, _ => none

/-- The text that stands for a variable: its only one, or the one in the first place. -/
def Contents.usual? (c : Contents) : Option Bytes :=
  match c with
  | .table _ => c.get? (.name ['0'])
  | _ => c.get? (.number 0)

/-- The elements of a row with another one at a number. -/
def putElement (n : Nat) (value : Bytes) : List (Nat × Bytes) → List (Nat × Bytes)
  | [] => [(n, value)]
  | (m, v) :: rest =>
    if n < m then (n, value) :: (m, v) :: rest
    else if n = m then (n, value) :: rest
    else (m, v) :: putElement n value rest

/-- The entries of a table with another one of a name. A new name comes first. -/
def putEntry (name value : Bytes) (entries : List (Bytes × Bytes)) : List (Bytes × Bytes) :=
  if (entries.lookup name).isSome then
    entries.map fun e => if e.1 = name then (name, value) else e
  else (name, value) :: entries

/-- The contents with a text at a place. A single text is the first of a row. -/
def Contents.put (c : Contents) (k : Key) (value : Bytes) : Contents :=
  match c, k with
  | .table entries, .name cs => .table (putEntry cs value entries)
  | .table entries, .number n => .table (putEntry (digitsOf n) value entries)
  | .row elements, .number n => .row (putElement n value elements)
  | .text old, .number n => .row (putElement n value [(0, old)])
  | _, .number n => .row [(n, value)]
  | _, .name cs => .table [(cs, value)]

/-- The contents with another text that stands for the variable. -/
def Contents.putUsual (c : Contents) (value : Bytes) : Contents :=
  match c with
  | .row elements => .row (putElement 0 value elements)
  | .table entries => .table (putEntry ['0'] value entries)
  | _ => .text value

/-- The contents without the text at a place. -/
def Contents.remove (c : Contents) (k : Key) : Contents :=
  match c, k with
  | .row elements, .number n => .row (elements.filter fun e => e.1 ≠ n)
  | .table entries, .name cs => .table (entries.filter fun e => e.1 ≠ cs)
  | .text _, .number 0 => .nothing
  | c, _ => c

/-! ## The order of a table -/

/-- The number that a name is turned into: each byte is mixed in after a multiplication. Bytes above
127 count as negative numbers. -/
def nameNumber (cs : Bytes) : Nat :=
  let word : Nat := 4294967296
  cs.foldl (fun h c =>
    let byte := if c.toNat < 128 then c.toNat else word - 256 + c.toNat
    (h * 16777619 % word) ^^^ byte) 2166136261

/-- The number of places in a table. -/
def tablePlaces : Nat := 1024

/-- The entries in the order of their places. Where several have one place the newest comes first.
-/
def orderedEntries {α : Type} (entries : List (Bytes × α)) : List (Bytes × α) :=
  entries.mergeSort fun a b => nameNumber a.1 % tablePlaces ≤ nameNumber b.1 % tablePlaces

/-- The places that are taken, with their texts, in their order. -/
def Contents.entries (c : Contents) : List (Bytes × Bytes) :=
  match c with
  | .nothing => []
  | .text value => [(['0'], value)]
  | .row elements => elements.map fun e => (digitsOf e.1, e.2)
  | .table entries => orderedEntries entries

/-- All texts in their order. -/
def Contents.values (c : Contents) : List Bytes :=
  c.entries.map Prod.snd

/-- The row of some texts. -/
def rowOf (values : List Bytes) : Contents :=
  .row ((List.range values.length).zip values)

/-- The texts of a row from a number on, or of other contents from a position on. -/
def Contents.valuesFrom (c : Contents) (offset : Nat) : List Bytes :=
  match c with
  | .row elements => (elements.filter fun e => offset ≤ e.1).map Prod.snd
  | c => c.values.drop offset

/-- One more than the number of the last text. -/
def Contents.limit (c : Contents) : Nat :=
  match c with
  | .row elements => (elements.getLast?).elim 0 fun e => e.1 + 1
  | c => c.values.length

end LinkWatch.Host.Shell
