/-!
# Values and tables under construction

A configuration document holds texts, numbers and truth values, in arrays and tables. Floating
numbers and moments are told apart from the rest, but nothing in the settings has their value.

A document builds its tables piece by piece. A header opens a table, a dotted key opens tables on
its way, and a header opens the tables above its own by implication. No table is opened twice: a
header may still open one that was only implied, dotted keys may go on with the tables that dotted
keys opened, and nothing else may be added to an existing table.
-/

namespace LinkWatch.Toml

/-! ## Values -/

/-- A value. -/
inductive Value where
  | text (s : String)
  | integer (n : Int)
  | floating
  | boolean (b : Bool)
  | moment
  | array (items : List Value)
  | table (entries : List (String × Value))
  deriving Repr, Inhabited

/-! ## Tables -/

/-- What opened a table. -/
inductive Origin where
  /-- A header of its own. -/
  | header
  /-- The header of a table below it. -/
  | implied
  /-- A dotted key. -/
  | dotted
  deriving DecidableEq, Repr

/-- An entry of a table that is being built: a value, a table, or a list of tables, of which the
last is the one that can still grow. -/
inductive Item where
  | value (v : Value)
  | table (origin : Origin) (entries : List (String × Item))
  | tables (elements : List (List (String × Item)))
  deriving Repr

/-- The entries of a table that is being built, in the order in which they came. -/
abbrev Entries := List (String × Item)

/-- Puts an item in place of that of an existing key. -/
def replace (key : String) (item : Item) : Entries → Entries
  | [] => []
  | e :: es => if e.1 == key then (key, item) :: es else e :: replace key item es

/-- Adds a value under a dotted key: the names before the last one, and the last. -/
def addPair (key : String) (value : Value) : List String → Entries → Option Entries
  | [], entries =>
    match entries.lookup key with
    | some _ => none
    | none => some (entries ++ [(key, .value value)])
  | name :: path, entries =>
    match entries.lookup name with
    | none =>
      (addPair key value path []).map fun inner => entries ++ [(name, .table .dotted inner)]
    | some (.value _) => none
    | some (.table origin inner) =>
      if origin = .header ∨ (path = [] ∧ origin ≠ .dotted) then none
      else (addPair key value path inner).map fun inner => replace name
        (.table origin inner) entries
    | some (.tables elements) =>
      match path, elements.reverse with
      | _ :: _, last :: earlier =>
        (addPair key value path last).map fun last =>
          replace name (.tables (earlier.reverse ++ [last])) entries
      | _, _ => none

/-- A dotted key and its value. -/
structure Pair where
  path : List String
  key : String
  value : Value
  deriving Repr

/-- Adds pairs in order. -/
def addPairs (pairs : List Pair) (entries : Entries) : Option Entries :=
  pairs.foldlM (fun entries p => addPair p.key p.value p.path entries) entries

/-- Changes the table at the end of a path, opening tables on the way by implication. -/
def within (change : Entries → Option Entries) : List String → Entries → Option Entries
  | [], entries => change entries
  | name :: path, entries =>
    match entries.lookup name with
    | none => (within change path []).map fun inner => entries ++ [(name, .table .implied inner)]
    | some (.value _) => none
    | some (.table origin inner) =>
      (within change path inner).map fun inner => replace name (.table origin inner) entries
    | some (.tables elements) =>
      match elements.reverse with
      | last :: earlier =>
        (within change path last).map fun last =>
          replace name (.tables (earlier.reverse ++ [last])) entries
      | [] => none

/-- The headers of a document. The pairs at its beginning have none. -/
inductive Header where
  | start
  /-- A table: the names before its own, and its own. -/
  | table (path : List String) (name : String)
  /-- One more table of a list. -/
  | element (path : List String) (name : String)
  deriving DecidableEq, Repr

/-- A header and the pairs below it. -/
structure Section where
  header : Header
  pairs : List Pair
  deriving Repr

/-- Opens a table by its header, and fills it. -/
def openTable (name : String) (pairs : List Pair) (entries : Entries) : Option Entries :=
  match entries.lookup name with
  | none => (addPairs pairs []).map fun inner => entries ++ [(name, .table .header inner)]
  | some (.table .implied inner) =>
    (addPairs pairs inner).map fun inner => replace name (.table .header inner) entries
  | some _ => none

/-- Adds a table to a list of tables by its header, and fills it. -/
def openElement (name : String) (pairs : List Pair) (entries : Entries) : Option Entries :=
  match entries.lookup name with
  | none => (addPairs pairs []).map fun inner => entries ++ [(name, .tables [inner])]
  | some (.tables elements) =>
    (addPairs pairs []).map fun inner => replace name (.tables (elements ++ [inner])) entries
  | some _ => none

/-- Adds a section to a document. -/
def addSection (document : Entries) (s : Section) : Option Entries :=
  match s.header with
  | .start => addPairs s.pairs document
  | .table path name => within (openTable name s.pairs) path document
  | .element path name => within (openElement name s.pairs) path document

/-- The entries of a document, if its sections fit together. -/
def build (sections : List Section) : Option Entries :=
  sections.foldlM addSection []

mutual

/-- The finished value of an item. -/
def Item.finish : Item → Value
  | .value v => v
  | .table _ entries => .table (finishEntries entries)
  | .tables elements => .array (finishElements elements)

/-- The finished values of entries. -/
def finishEntries : List (String × Item) → List (String × Value)
  | [] => []
  | (key, item) :: entries => (key, item.finish) :: finishEntries entries

/-- The finished tables of a list. -/
def finishElements : List (List (String × Item)) → List Value
  | [] => []
  | entries :: elements => .table (finishEntries entries) :: finishElements elements

end

end LinkWatch.Toml
