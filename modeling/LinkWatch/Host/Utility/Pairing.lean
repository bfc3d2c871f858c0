import LinkWatch.Host.Utility.Condition
import LinkWatch.Host.Utility.Order

/-!
# Two inputs side by side

Lines that two sorted inputs have in common, lines of two inputs that agree in a field, and the
places at which two inputs differ.
-/

namespace LinkWatch.Host.Utility

open LinkWatch.Text LinkWatch.Host.Kernel LinkWatch.Decimal

/-- Reads two files, or tells about the first one that cannot be read. -/
def readPair (c : Call) (failure : Nat) (one two : Bytes) (use : Bytes → Bytes → Program Nat) :
    Program Nat := do
  match ← readFile one with
  | .error e => c.refuse failure (Wording.usual.opening one e)
  | .ok a =>
    match ← readFile two with
    | .error e => c.refuse failure (Wording.usual.opening two e)
    | .ok b => use a b

/-- Goes on if there are exactly two operands. -/
def Call.withPair (c : Call) (operands : List Bytes) (use : Bytes → Bytes → Program Nat) :
    Program Nat :=
  match operands with
  | [] => c.misuse 1 "missing operand".toList
  | [a] => c.misuse 1 ("missing operand after '".toList ++ a ++ ['\''])
  | [a, b] => use a b
  | _ :: _ :: extra :: _ => c.misuse 1 ("extra operand '".toList ++ extra ++ ['\''])

/-! ## Common lines -/

/-- Compares two sorted lists of lines. -/
def compareSorted : Nat → List Bytes → List Bytes → List (Nat × Bytes)
  | 0, _, _ => []
  | _, [], bs => bs.map (2, ·)
  | _, as, [] => as.map (1, ·)
  | fuel + 1, a :: as, b :: bs =>
    match compareBytes a b with
    | .lt => (1, a) :: compareSorted fuel as (b :: bs)
    | .gt => (2, b) :: compareSorted fuel (a :: as) bs
    | .eq => (3, b) :: compareSorted fuel as bs

/-- Whether each line comes before the next one or is the same. -/
def areSorted (notAfter : Bytes → Bytes → Bool) (lines : List Bytes) : Bool :=
  (lines.zip (lines.drop 1)).all fun (a, b) => notAfter a b

/-- How many rows come before it is noticed that some line is not in its order. -/
def rowsInOrder (notAfter : Bytes → Bytes → Bool) (as bs : List Bytes) (rows : List (Nat × Bytes)) :
    Nat :=
  let sound (lines : List Bytes) : Nat :=
    ((lines.zip (lines.drop 1)).takeWhile fun (a, b) => notAfter a b).length + 1
  let rec go : Nat → Nat → List (Nat × Bytes) → Nat
    | m, n, rows =>
      match rows with
      | [] => 0
      | (k, _) :: rest =>
        if m = 0 || n = 0 then 0
        else 1 + go (if k = 2 then m else m - 1) (if k = 1 then n else n - 1) rest
  go (if areSorted notAfter as then as.length + 1 else sound as)
    (if areSorted notAfter bs then bs.length + 1 else sound bs) rows

/-- Shows which lines two sorted files have in common. -/
def compareFiles (c : Call) : Program Nat :=
  let t : OptionTable :=
    { plain := ['1', '2', '3', 'z', 'T', 'K', 'N'], valued := ['O']
      long := [("total", 'T'), ("check-order", 'K'), ("nocheck-order", 'N'),
        ("output-delimiter", 'O'), ("zero-terminated", 'z')] }
  c.withOptions t 1 fun o =>
    c.withPair o.operands fun one two => readPair c 1 one two fun left right => do
      let ending := if o.has 'z' then '\x00' else '\n'
      let separator := match o.value? 'O' with
        | some [] => ['\x00']
        | some text => text
        | none => ['\t']
      let as := recordsOf ending left
      let bs := recordsOf ending right
      let rows := compareSorted (as.length + bs.length + 1) as bs
      let column (n : Nat) : Char := if n = 1 then '1' else if n = 2 then '2' else '3'
      let notAfter (a b : Bytes) : Bool := compareBytes a b ≠ .gt
      let shown := if o.has 'K' then rows.take (rowsInOrder notAfter as bs rows) else rows
      let lines := shown.flatMap fun (n, text) =>
        if o.has (column n) then []
        else
          let before := ([1, 2].filter fun m => m < n && !o.has (column m)).length
          (List.replicate before separator).flatten ++ text ++ [ending]
      let count (n : Nat) : Bytes := digitsOf (rows.filter fun r => r.1 = n).length
      let total := if o.has 'T' then
          joinWith separator [count 1, count 2, count 3, "total".toList] ++ [ending]
        else []
      let isUnpaired := rows.any fun r => r.1 ≠ 3
      let broken := [(1, as), (2, bs)].filter fun (_, lines) => !areSorted notAfter lines
      if broken = [] || o.has 'N' || !(isUnpaired || o.has 'K') then c.deliver (lines ++ total) 0
      else
        let status ← c.deliver (if o.has 'K' then lines else lines ++ total) 1
        broken.forM fun (n, _) =>
          c.complain ("file ".toList ++ digitsOf n ++ " is not in sorted order".toList)
        c.complain "input is not in sorted order".toList
        return status

/-! ## Joined lines -/

/-- The fields of a line, at a mark or between blanks. -/
def lineFields (mark : Option Char) (text : Bytes) : List Bytes :=
  match mark with
  | some m => pieces m text
  | none =>
    let text := text.dropWhile isBlankChar
    if text = [] then []
    else
      let runs := text.splitBy fun a b => isBlankChar a == isBlankChar b
      let words := runs.filter fun r => !r.head?.any isBlankChar
      if text.getLast?.any isBlankChar then words ++ [[]] else words

/-- A line with the value of the field that it is joined by. -/
structure JoinLine where
  key : Bytes
  fields : List Bytes

/-- A line without fields. -/
def JoinLine.blank : JoinLine := ⟨[], []⟩

/-- A field of the output: the one that lines are joined by, or one of a file. -/
inductive JoinField where
  | shared
  | of (file field : Nat)

/-- A field of the output as it is given. -/
def JoinField.ofText? (cs : Bytes) : Option JoinField :=
  match cs with
  | ['0'] => some .shared
  | file :: '.' :: digits =>
    if file = '1' || file = '2' then
      (natural? digits).bind fun n => if n = 0 then none else some (.of (digitValue file) n)
    else none
  | _ => none

/-- How lines are joined. -/
structure JoinPlan where
  mark : Option Char
  ending : Char
  first : Nat
  second : Nat
  showsPairs : Bool
  showsFirst : Bool
  showsSecond : Bool
  ignoresCase : Bool
  filler : Bytes
  /-- The fields of the output, if they are given. -/
  format : Option (List JoinField)

/-- A line by one of its fields. -/
def JoinPlan.line (p : JoinPlan) (field : Nat) (text : Bytes) : JoinLine :=
  let fields := lineFields p.mark text
  let key := (fields[field - 1]?).getD []
  ⟨if p.ignoresCase then key.map Char.toLower else key, fields⟩

/-- A field as it is shown: what is missing or empty is filled. -/
def JoinPlan.shown (p : JoinPlan) (l : JoinLine) (field : Nat) : Bytes :=
  match l.fields[field - 1]? with
  | some [] => p.filler
  | some text => text
  | none => p.filler

/-- A line of output for two lines, of which one may be blank. -/
def JoinPlan.output (p : JoinPlan) (a b : JoinLine) : Bytes :=
  let shared := if a.fields = [] then p.shown b p.second else p.shown a p.first
  let others (l : JoinLine) (field : Nat) : List Bytes :=
    ((List.range l.fields.length).filter (· ≠ field - 1)).map fun i => p.shown l (i + 1)
  let fields := match p.format with
    | some format => format.map fun
      | .shared => shared
      | .of file field => p.shown (if file = 1 then a else b) field
    | none => shared :: others a p.first ++ others b p.second
  joinWith [p.mark.getD ' '] fields ++ [p.ending]

/-- Joins lines that are in the order of their fields. The second value tells whether some line has
no partner. -/
def joinLines (p : JoinPlan) : Nat → List JoinLine → List JoinLine → List Bytes × Bool
  | 0, _, _ => ([], false)
  | fuel + 1, as, bs =>
    let aloneFirst (l : JoinLine) : List Bytes :=
      if p.showsFirst then [p.output l .blank] else []
    let aloneSecond (l : JoinLine) : List Bytes :=
      if p.showsSecond then [p.output .blank l] else []
    match as, bs with
    | [], bs => (bs.flatMap aloneSecond, false)
    | as, [] => (as.flatMap aloneFirst, false)
    | a :: as, b :: bs =>
      if isBefore a.key b.key then
        (aloneFirst a ++ (joinLines p fuel as (b :: bs)).1, true)
      else if isBefore b.key a.key then
        (aloneSecond b ++ (joinLines p fuel (a :: as) bs).1, true)
      else
        let same := a :: as.takeWhile fun l => l.key = a.key
        let others := b :: bs.takeWhile fun l => l.key = a.key
        let pairs := same.flatMap fun x => others.map fun y => p.output x y
        let (rest, isLonely) :=
          joinLines p fuel (as.drop (same.length - 1)) (bs.drop (others.length - 1))
        ((if p.showsPairs then pairs else []) ++ rest, isLonely)

/-- Joins the lines of two files. -/
def joinFiles (c : Call) : Program Nat :=
  let t : OptionTable :=
    { plain := ['i', 'z', 'K', 'N', 'H'], valued := ['1', '2', 'j', 't', 'a', 'v', 'e', 'o']
      long := [("ignore-case", 'i'), ("zero-terminated", 'z'), ("check-order", 'K'),
        ("nocheck-order", 'N'), ("header", 'H')] }
  c.withOptions t 1 fun o =>
    let field (flag : Char) : Option Nat :=
      match (o.value? flag).or (o.value? 'j') with
      | none => some 1
      | some text => (natural? text).filter (0 < ·)
    let files := o.values 'a' ++ o.values 'v'
    let formats := (o.values 'o').flatMap fun f =>
      (pieces ',' (f.map fun d => if isBlankChar d then ',' else d)).filter (· ≠ [])
    let isAutomatic := o.values 'o' = ["auto".toList]
    let format : Option (List JoinField) := if isAutomatic then some []
      else formats.mapM JoinField.ofText?
    let mark : Option (Option Char) := match o.value? 't' with
      | none => some none
      | some [] => some (some '\n')
      | some [m] => some (some m)
      | some ['\\', '0'] => some (some '\x00')
      | some _ => none
    match field '1', field '2', format, mark with
    | some first, some second, some format, some mark =>
      if files.any fun f => f ≠ ['1'] && f ≠ ['2'] then
        c.refuse 1 ("invalid field number: '".toList
          ++ (files.find? fun f => f ≠ ['1'] && f ≠ ['2']).getD [] ++ ['\''])
      else
        c.withPair o.operands fun one two => readPair c 1 one two fun a b => do
          let ending := if o.has 'z' then '\x00' else '\n'
          let plan : JoinPlan :=
            { mark := mark, ending := ending, first := first, second := second
              showsPairs := !o.has 'v', showsFirst := files.contains ['1']
              showsSecond := files.contains ['2'], ignoresCase := o.has 'i'
              filler := (o.value? 'e').getD [], format := if o.has 'o' then some format else none }
          let as := (recordsOf ending a).map (plan.line first)
          let bs := (recordsOf ending b).map (plan.line second)
          let automatic : List JoinField :=
            let fields (file : Nat) (ls : List JoinLine) (own : Nat) : List JoinField :=
              let count := (ls.head?.map fun l => l.fields.length).getD 0
              ((List.range count).filter (· ≠ own - 1)).map fun i => .of file (i + 1)
            .shared :: fields 1 as first ++ fields 2 bs second
          let plan := if isAutomatic then { plan with format := some automatic } else plan
          let (head, as, bs) : Bytes × List JoinLine × List JoinLine :=
            if o.has 'H' && (as ≠ [] || bs ≠ []) then
              (plan.output (as.headD .blank) (bs.headD .blank), as.drop 1, bs.drop 1)
            else ([], as, bs)
          let (lines, isLonely) := joinLines plan (as.length + bs.length + 1) as bs
          let notAfter (a b : Bytes) : Bool := !isBefore b a
          let isBroken := [as, bs].any fun ls => !areSorted notAfter (ls.map JoinLine.key)
          let status ← c.deliver (head ++ lines.flatten) 0
          if isBroken && !o.has 'N' && (isLonely || o.has 'K') then
            c.refuse 1 "input is not in sorted order".toList
          else return status
    | none, _, _, _ => c.refuse 1 "invalid field number".toList
    | _, none, _, _ => c.refuse 1 "invalid field number".toList
    | _, _, none, _ =>
      let bad := (formats.find? fun f => (JoinField.ofText? f).isNone).getD []
      c.refuse 1 ("invalid file number in field spec: '".toList ++ bad ++ ['\''])
    | _, _, _, none =>
      c.refuse 1 ("multi-character tab '".toList ++ (o.value? 't').getD [] ++ ['\''])

/-! ## Differences between bytes -/

/-- The first place at which two texts differ, counted from one, or none if one of them ends
first. -/
def firstDifference : Nat → Bytes → Bytes → Option Nat
  | n, a :: as, b :: bs => if a = b then firstDifference (n + 1) as bs else some n
  | _, _, _ => none

/-- A byte with signs for control and for high numbers. -/
def byteSign (c : Char) : Bytes :=
  let low (n : Nat) : Bytes :=
    if n < 32 then ['^', Char.ofNat (n + 64)] else if n = 127 then ['^', '?'] else [Char.ofNat n]
  if 128 ≤ c.toNat then 'M' :: '-' :: low (c.toNat - 128) else low c.toNat

/-- Compares two files byte by byte. -/
def showDifference (c : Call) : Program Nat :=
  let t : OptionTable :=
    { plain := ['s', 'l', 'b'], valued := ['n', 'i']
      long := [("silent", 's'), ("quiet", 's'), ("verbose", 'l'), ("print-bytes", 'b'),
        ("bytes", 'n'), ("ignore-initial", 'i')] }
  c.withOptions t 2 fun o =>
    match o.operands with
    | [] => c.misuse 2 ("missing operand after '".toList ++ c.name ++ ['\''])
    | one :: others =>
      let two := others.headD ['-']
      readPair c 2 one two fun a b => do
        let skips : List Nat := match o.value? 'i' with
          | some text => (pieces ':' text).filterMap natural?
          | none => (others.drop 1).filterMap natural?
        let skipFirst := skips.headD 0
        let skipSecond := if (o.value? 'i').isSome then skips.getLast?.getD 0
          else (skips[1]?).getD 0
        let most := (o.value? 'n').bind natural?
        let cutTo (skip : Nat) (cs : Bytes) : Bytes :=
          (most.elim id fun n => List.take n) (cs.drop skip)
        let a := cutTo skipFirst a
        let b := cutTo skipSecond b
        let octal (d : Char) : Bytes := padLeft 3 ' ' (Nat.toDigits 8 d.toNat)
        let endsEarly : Program Unit := do
          let (short, text, skip) :=
            if a.length < b.length then (one, a, skipFirst) else (two, b, skipSecond)
          c.complain ("EOF on ".toList ++ short ++ (if text = [] then " which is empty".toList
            else " after byte ".toList ++ digitsOf (text.length + skip)))
        if o.has 'l' then
          let isFile (file : Bytes) : Bool := file ≠ ['-']
          let size := min (if isFile one then a.length else 9223372036854775807)
            (if isFile two then b.length else 9223372036854775807)
          let width := (digitsOf size).length
          let rows := ((a.zip b).mapIdx fun i p => (i + 1, p)).filter fun (_, x, y) => x ≠ y
          let sign (d : Char) : Bytes := if o.has 'b' then ' ' :: byteSign d else []
          let text := rows.flatMap fun (n, x, y) =>
            let middle := if o.has 'b' then padRight 4 ' ' (byteSign x) else []
            padLeft width ' ' (digitsOf n) ++ ' ' :: octal x
              ++ (if o.has 'b' then ' ' :: middle else []) ++ ' ' :: octal y ++ sign y ++ ['\n']
          if a.length ≠ b.length then endsEarly
          c.deliver text (if rows = [] && a.length = b.length then 0 else 1)
        else
          match firstDifference 1 a b with
          | some n =>
            let row := ((a.take (n - 1)).filter (· = '\n')).length + 1
            if o.has 's' then return 1
            else
              let x := (a[n - 1]?).getD ' '
              let y := (b[n - 1]?).getD ' '
              let place := digitsOf n ++ ", line ".toList ++ digitsOf row
              let words := if o.has 'b' then
                  " differ: byte ".toList ++ place ++ " is ".toList ++ octal x ++ ' ' :: byteSign x
                    ++ ' ' :: octal y ++ ' ' :: byteSign y
                else " differ: char ".toList ++ place
              c.deliver (line (one ++ ' ' :: two ++ words)) 1
          | none =>
            if a.length = b.length then return 0
            else
              if !o.has 's' then endsEarly
              return 1

end LinkWatch.Host.Utility
