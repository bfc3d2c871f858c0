import LinkWatch.Decimal.Fixed
import LinkWatch.Host.Utility.Real
import LinkWatch.Host.Utility.Stream
import LinkWatch.Host.Utility.Version

/-!
# Lines in order

Sorting the lines of files by keys.
-/

namespace LinkWatch.Host.Utility

open LinkWatch.Text LinkWatch.Host.Kernel LinkWatch.Decimal

/-- A part of a line by which lines are compared, and how. -/
structure SortKey where
  /-- The first field and the first character in it, from one on. -/
  first : Nat × Nat := (1, 1)
  /-- Whether blanks at the start of the first field are passed over. -/
  skipsFirst : Bool := false
  /-- The last field and the last character in it; zero stands for the end of the field. -/
  last : Option (Nat × Nat) := none
  skipsLast : Bool := false
  flags : List Char := []

/-- The letters of the ways to sort. -/
def sortLetters : List Char :=
  "bdfghiMnRrV".toList

/-- The place of a key: a field, perhaps a character in it, and flags. -/
def sortPlace (cs : Bytes) : Except String (Nat × Option Nat × List Char) :=
  let (field, rest) := readBased 10 cs
  if !cs.head?.any Char.isDigit then .error "invalid number at field start"
  else if field = 0 then .error "field number is zero"
  else
    let (char, rest) := match rest with
      | '.' :: rest => let p := readBased 10 rest; (some p.1, p.2)
      | rest => (none, rest)
    if rest.all (· ∈ sortLetters) then .ok (field, char, rest)
    else .error "stray character in field spec"

/-- A key as it is given. -/
def sortKey (cs : Bytes) : Except String SortKey :=
  let start (p : Nat × Option Nat × List Char) : Except String SortKey :=
    if p.2.1 = some 0 then .error "character offset is zero"
    else .ok { first := (p.1, p.2.1.getD 1), skipsFirst := 'b' ∈ p.2.2, flags := p.2.2 }
  match cutAt? ',' cs with
  | none => (sortPlace cs).bind start
  | some (a, b) =>
    (sortPlace a).bind fun p => (start p).bind fun k => (sortPlace b).map fun q =>
      { k with last := some (q.1, q.2.1.getD 0), skipsLast := 'b' ∈ q.2.2, flags := p.2.2 ++ q.2.2 }

/-- The fields of a line. Without a mark, a field starts with the blanks before it. -/
def sortFields (mark : Option Char) (text : Bytes) : List Bytes :=
  match mark with
  | some m => pieces m text
  | none =>
    let runs := text.splitBy fun a b => isBlankChar a == isBlankChar b || isBlankChar a
    if text = [] then [[]] else runs

/-- The part of a line that a key means. -/
def SortKey.part (k : SortKey) (mark : Option Char) (text : Bytes) : Bytes :=
  let fields := sortFields mark text
  let gap := if mark.isSome then 1 else 0
  let starts := (fields.foldl (fun (acc : Nat × List Nat) f =>
    (acc.1 + f.length + gap, acc.1 :: acc.2)) (0, [])).2.reverse
  let blanks (skips : Bool) (n : Nat) : Nat :=
    if skips then ((text.drop n).takeWhile isBlankChar).length else 0
  let startOf (field : Nat) : Nat := min text.length ((starts[field - 1]?).getD text.length)
  let from_ := startOf k.first.1
  let from_ := min text.length (from_ + blanks k.skipsFirst from_ + (k.first.2 - 1))
  let stop := match k.last with
    | none => text.length
    | some (field, 0) => startOf field + ((fields[field - 1]?).getD []).length
    | some (field, char) =>
      let s := startOf field
      min text.length (s + blanks k.skipsLast s + char)
  (text.take stop).drop from_

/-- The number at the start of a text as a fraction of integers. -/
def sortNumber (cs : Bytes) : Int × Nat :=
  let cs := cs.dropWhile isBlankChar
  let (negative, digits) := match cs with
    | '-' :: rest => (true, rest)
    | rest => (false, rest)
  match readPlaces 10 digits with
  | none => (0, 1)
  | some (m, places, _) => (if negative then -m else m, tenTo places)

/-- The rank of the suffix of a size; a size of zero has none. -/
def suffixRank (cs : Bytes) : Int :=
  let cs := cs.dropWhile isBlankChar
  let (negative, digits) := match cs with
    | '-' :: rest => (true, rest)
    | rest => (false, rest)
  let number := digits.takeWhile fun c => c.isDigit || c = '.'
  let isZero := number.all fun c => c = '0' || c = '.'
  let rank : Int := match digits.drop number.length with
    | c :: _ =>
      if c = 'k' then 1 else ("KMGTPEZY".toList.findIdx? (· = c)).elim 0 (· + 1)
    | [] => 0
  if isZero then 0 else if negative then -rank else rank

/-- The number of the month that a text starts with, or zero. -/
def monthRank (cs : Bytes) : Nat :=
  let start := ((cs.dropWhile isBlankChar).take 3).map Char.toUpper
  let names : List String :=
    ["JAN", "FEB", "MAR", "APR", "MAY", "JUN", "JUL", "AUG", "SEP", "OCT", "NOV", "DEC"]
  (names.findIdx? (· = String.ofList start)).elim 0 (· + 1)

/-- A number of any kind for comparison: its rank among what is no number, what is infinite and what
is not, and its value. -/
def generalNumber (cs : Bytes) : Nat × (Int × Nat) :=
  let (x, rest) := readReal cs
  if rest.length = cs.length then (0, (0, 1))
  else
    match x.magnitude with
    | .notNumber => (1, (0, 1))
    | .infinite => (if x.negative then 2 else 4, (0, 1))
    | .fraction num den => (3, (if x.negative then -num else num, den))

/-- How two numbers compare. -/
def compareNumbers (a b : Int × Nat) : Ordering :=
  compare (a.1 * b.2) (b.1 * a.2)

/-- How two texts compare, byte by byte. -/
def compareBytes (a b : Bytes) : Ordering :=
  compareOfLessAndEq (a.map Char.toNat) (b.map Char.toNat)

/-- How two parts of lines compare. -/
def compareParts (flags : List Char) (a b : Bytes) : Ordering :=
  let order :=
    if 'n' ∈ flags then compareNumbers (sortNumber a) (sortNumber b)
    else if 'h' ∈ flags then
      (compare (suffixRank a) (suffixRank b)).then (compareNumbers (sortNumber a) (sortNumber b))
    else if 'g' ∈ flags then
      let m := generalNumber a
      let n := generalNumber b
      (compare m.1 n.1).then (compareNumbers m.2 n.2)
    else if 'M' ∈ flags then compare (monthRank a) (monthRank b)
    else
      let kept (cs : Bytes) : Bytes :=
        let cs := if 'd' ∈ flags then cs.filter fun c => c.isAlphanum || isBlankChar c else cs
        let cs := if 'i' ∈ flags then cs.filter fun c => 32 ≤ c.toNat && c.toNat < 127 else cs
        if 'f' ∈ flags then cs.map Char.toUpper else cs
      if 'V' ∈ flags then compareVersions (kept a) (kept b) else compareBytes (kept a) (kept b)
  if 'r' ∈ flags then order.swap else order

/-- How lines are sorted. -/
structure SortOrder where
  keys : List SortKey
  mark : Option Char
  flags : List Char
  /-- Whether lines that compare as equal keep their order. -/
  isStable : Bool

/-- How two lines compare by the keys alone. -/
def SortOrder.byKeys (s : SortOrder) (a b : Bytes) : Ordering :=
  let skips := 'b' ∈ s.flags
  let usual (k : SortKey) : SortKey :=
    if k.flags = [] then { k with flags := s.flags, skipsFirst := skips, skipsLast := skips } else k
  let keys := if s.keys = [] then [{}] else s.keys
  keys.foldl (fun order k =>
    match order with
    | .eq =>
      let k := usual k
      compareParts k.flags (k.part s.mark a) (k.part s.mark b)
    | order => order) .eq

/-- How two lines compare, in the end as texts. -/
def SortOrder.compare (s : SortOrder) (a b : Bytes) : Ordering :=
  (s.byKeys a b).then
    (if s.isStable then .eq
     else if 'r' ∈ s.flags then (compareBytes a b).swap else compareBytes a b)

/-- The first of each run of lines that compare as equal. -/
def firstOfRuns (same : Bytes → Bytes → Bool) (lines : List Bytes) : List Bytes :=
  (lines.splitBy same).filterMap List.head?

/-- Merges lists of lines, of which each is in order. -/
def mergeLists (before : Bytes → Bytes → Bool) : List (List Bytes) → List Bytes
  | [] => []
  | [lines] => lines
  | lines :: rest => List.merge lines (mergeLists before rest) before

/-- Whether ways to sort exclude one another. -/
def areIncompatible (flags : List Char) : Bool :=
  let kinds := (['n', 'g', 'h', 'M'].filter (· ∈ flags)).length
    + (if flags.any (· ∈ ['V', 'R', 'd', 'i']) then 1 else 0)
  1 < kinds

/-- Reads the lines of all files, or tells about the first that cannot be read. -/
def readRecords (c : Call) (ending : Char) : List Bytes → Program (Option (List (List Bytes)))
  | [] => return some []
  | file :: rest => do
    match ← readFile file with
    | .ok text =>
      return (← readRecords c ending rest).map (recordsOf ending text :: ·)
    | .error e =>
      let words := if e = .isDirectory then "read failed: " else "cannot read: "
      c.complain (words.toList ++ file ++ ':' :: ' ' :: wordsOf e)
      return none

/-- The options for sorting. -/
def sortTable : OptionTable where
  plain := sortLetters ++ ['c', 'C', 'm', 's', 'u', 'z', 'D']
  valued := ['k', 't', 'o', 'S', 'T', 'W', 'F', 'P', 'B']
  long := [("reverse", 'r'), ("numeric-sort", 'n'), ("unique", 'u'), ("key", 'k'),
    ("field-separator", 't'), ("ignore-case", 'f'), ("stable", 's'), ("output", 'o'),
    ("human-numeric-sort", 'h'), ("general-numeric-sort", 'g'), ("ignore-leading-blanks", 'b'),
    ("dictionary-order", 'd'), ("ignore-nonprinting", 'i'), ("month-sort", 'M'),
    ("random-sort", 'R'), ("version-sort", 'V'), ("merge", 'm'), ("zero-terminated", 'z'),
    ("sort", 'W'), ("buffer-size", 'S'), ("temporary-directory", 'T'), ("files0-from", 'F'),
    ("debug", 'D'), ("parallel", 'P'), ("batch-size", 'P'), ("compress-program", 'P'),
    ("random-source", 'P'), ("check", 'c')]

/-- The letter of a way to sort that is given by its name. -/
def sortNamed? (name : Bytes) : Option Char :=
  let names : List (String × Char) :=
    [("general-numeric", 'g'), ("human-numeric", 'h'), ("month", 'M'), ("numeric", 'n'),
      ("random", 'R'), ("version", 'V')]
  names.lookup (String.ofList name)

/-- Tells whether lines are in order. -/
def checkOrder (c : Call) (order : SortOrder) (drops tells : Bool) (file : Bytes)
    (lines : List Bytes) : Program Nat := do
  let inOrder (a b : Bytes) : Bool :=
    if drops then order.compare a b = .lt else order.compare a b ≠ .gt
  let broken := ((lines.zip (lines.drop 1)).mapIdx fun i p => (i + 2, p)).find? fun (_, p) =>
    !inOrder p.1 p.2
  match broken with
  | none => return 0
  | some (i, (_, b)) =>
    if tells then c.complain (file ++ ':' :: digitsOf i ++ ": disorder: ".toList ++ b)
    return 1

/-- Sorts the lines of files. -/
def sort (c : Call) : Program Nat :=
  let arguments := c.arguments.map fun (a : Bytes) =>
    if ["--check=quiet".toList, "--check=silent".toList].contains a then ['-', 'C']
    else if a = "--check=diagnose-first".toList then ['-', 'c'] else a
  Call.withOptions { c with arguments := arguments } sortTable 2 fun o => do
    let named := (o.values 'W').filterMap sortNamed?
    let flags := ((o.flags.map (·.1)).filter (· ∈ sortLetters)) ++ named
    let ending := if o.has 'z' then '\x00' else '\n'
    let mark := o.value? 't'
    match (o.values 'k').mapM sortKey with
    | .error words =>
      let isBad (k : Bytes) : Bool := match sortKey k with
        | .error _ => true
        | .ok _ => false
      let key := ((o.values 'k').find? isBad).getD []
      c.refuse 2 (words.toList ++ ": invalid field specification '".toList ++ key ++ ['\''])
    | .ok keys =>
      let given := flags :: keys.map SortKey.flags
      if mark = some [] then c.refuse 2 "empty tab".toList
      else if mark.any fun m => 1 < m.length && m ≠ ['\\', '0'] then
        c.refuse 2 ("multi-character tab '".toList ++ mark.getD [] ++ ['\''])
      else if given.any areIncompatible then
        let found := (given.find? areIncompatible).getD []
        let letters := sortLetters.filter fun d => d ∈ found && d ≠ 'b' && d ≠ 'r'
        c.refuse 2 ("options '-".toList ++ letters ++ "' are incompatible".toList)
      else
        let checks := o.has 'c' || o.has 'C'
        let order : SortOrder :=
          { keys := keys, flags := flags, isStable := o.has 's' || o.has 'u'
            mark := mark.bind fun m => if m = ['\\', '0'] then some '\x00' else m.head? }
        let listed ← match o.value? 'F' with
          | none => pure []
          | some file => do
            let text ← readFile file
            pure (recordsOf '\x00' (text.toOption.getD []))
        let operands := o.operands ++ listed
        let files := if operands = [] then [['-']] else operands
        if checks && 1 < files.length then
          c.refuse 2 ("extra operand '".toList ++ (files[1]?).getD []
            ++ (if o.has 'c' then "' not allowed with -c" else "' not allowed with -C").toList)
        else
          match ← readRecords c ending files with
          | none => return 2
          | some lists =>
            let lines := lists.flatten
            if checks then checkOrder c order (o.has 'u') (o.has 'c') (files.headD []) lines
            else
              let notAfter (a b : Bytes) : Bool := order.compare a b ≠ .gt
              let sorted := if o.has 'm' then mergeLists notAfter lists
                else lines.mergeSort notAfter
              let kept :=
                if o.has 'u' then firstOfRuns (fun a b => order.byKeys a b = .eq) sorted else sorted
              let text := kept.flatMap (· ++ [ending])
              match o.value? 'o' with
              | none => c.deliver text 0
              | some file =>
                match ← request (.open fileDescriptor file .write false) with
                | .error e => c.refuse 2 ("open failed: ".toList ++ file ++ ':' :: ' ' :: wordsOf e)
                | .ok _ =>
                  let _ ← writeTo fileDescriptor text
                  request (.close fileDescriptor)
                  return 0

end LinkWatch.Host.Utility
