import LinkWatch.Host.Utility.Stream
import LinkWatch.Host.Utility.Template

/-!
# Series of numbers, and pauses

Numbers from one to another in equal steps, and durations, which are decimal numbers with units.
-/

namespace LinkWatch.Host.Utility

open LinkWatch.Text LinkWatch.Host.Kernel LinkWatch.Decimal

/-! ## Pauses -/

/-- A duration in nanoseconds: a number, perhaps with a unit. -/
def duration? (cs : Bytes) : Option Nat :=
  let (x, rest) := readReal cs
  let unit? : Option Nat := match rest with
    | [] => some 1
    | ['s'] => some 1
    | ['m'] => some 60
    | ['h'] => some 3600
    | ['d'] => some 86400
    | _ => none
  if rest.length = cs.length then none
  else
    unit?.bind fun unit =>
      match x.magnitude with
      | .notNumber => none
      | .infinite => if x.negative then none else some (tenTo 40)
      | .fraction num den =>
        if x.negative && num ≠ 0 then none
        else some ((num * unit * 1000000000 + den - 1) / den)

/-- Waits for some time. -/
def sleep (c : Call) : Program Nat :=
  c.withOptions { plain := [], isStrict := true } 1 fun o =>
    if o.operands = [] then c.misuse 1 "missing operand".toList
    else
      let isBad (a : Bytes) : Bool := (duration? a).isNone
      match o.operands.find? isBad with
      | some a => c.misuse 1 ("invalid time interval '".toList ++ a ++ ['\''])
      | none => do
        let total := (o.operands.filterMap duration?).foldl (· + ·) 0
        let _ ← request (.pause total)
        return 0

/-! ## Series -/

/-- A text in which a mark is replaced by another one. -/
def replaceMark (mark text : Bytes) : Nat → Bytes → Bytes
  | 0, cs => cs
  | fuel + 1, cs =>
    if mark = [] then cs
    else
      match cut? mark cs with
      | some (before, after) => before ++ text ++ replaceMark mark text fuel after
      | none => cs

/-- A decimal number with the number of its places, and the width of its text. -/
structure Places where
  /-- The number without its point. -/
  digits : Int
  places : Nat
  width : Nat

/-- A number beyond all that a series comes to. -/
def endlessNumber : Int := tenTo 60

/-- A number without a sign with all its places. -/
def unsignedPlaces? (cs : Bytes) : Option Places :=
  let word := String.ofList (cs.map Char.toLower)
  if word = "inf" || word = "infinity" then some ⟨endlessNumber, 0, 3⟩
  else
    match cs with
    | '0' :: x :: digits =>
      if x.toLower = 'x' then
        match readBased 16 digits with
        | (n, []) => if digits = [] then none else some ⟨n, 0, 1⟩
        | _ => none
      else decimal
    | _ => decimal
where
  /-- The number in decimal notation, perhaps with an exponent. -/
  decimal : Option Places :=
    match readPlaces 10 cs with
    | none => none
    | some (m, places, rest) =>
      let p := readPower 'e' rest
      if p.2 ≠ [] then none
      else
        let shift : Int := places - p.1
        let n : Nat := if shift < 0 then m * tenTo (-shift).toNat else m
        let whole := (cs.takeWhile Char.isDigit).length
        let width := max 1 whole + (if 0 < shift then shift.toNat + 1 else 0)
        some ⟨n, shift.toNat, width⟩

/-- A number with all its places. -/
def placesOf? (cs : Bytes) : Option Places :=
  match skipSpaces cs with
  | '-' :: rest => (unsignedPlaces? rest).map fun p => ⟨-p.digits, p.places, p.width + 1⟩
  | '+' :: rest => unsignedPlaces? rest
  | rest => unsignedPlaces? rest

/-- What is wrong with a template, which is to have one slot for a number. -/
def templateFault? (cs : Bytes) : Option Bytes :=
  let about (words : String) : Option Bytes :=
    some ("format ".toList ++ inQuotes cs ++ ' ' :: words.toList)
  match (pieces '%' (replaceMark ['%', '%'] [] (cs.length + 1) cs)).drop 1 with
  | [] => about "has no % directive"
  | [slot] =>
    let rest := slot.dropWhile (· ∈ ['-', '+', '#', '0', ' ', '\''])
    let rest := (rest.dropWhile Char.isDigit)
    let rest := match rest with
      | '.' :: rest => rest.dropWhile Char.isDigit
      | rest => rest
    let rest := match rest with
      | 'L' :: rest => rest
      | rest => rest
    match rest with
    | [] => about "ends in %"
    | d :: _ =>
      if d ∈ ['e', 'f', 'g', 'a', 'E', 'F', 'G', 'A'] then none
      else about (String.ofList ("has unknown %".toList ++ d :: " directive".toList))
  | _ => about "has too many % directives"

/-- A number without its point, as if it had so many places. -/
def Places.scaled (p : Places) (places : Nat) : Int :=
  p.digits * tenTo (places - p.places)

/-- The text of a number with so many places. -/
def placesText (places : Nat) (n : Int) : Bytes :=
  let digits := padLeft (places + 1) '0' (digitsOf n.natAbs)
  let whole := digits.take (digits.length - places)
  (if n < 0 then ['-'] else []) ++ whole
    ++ (if places = 0 then [] else '.' :: digits.drop (digits.length - places))

/-- A number with zeros after its sign, up to a width. -/
def zerosBefore (width : Nat) (cs : Bytes) : Bytes :=
  match cs with
  | '-' :: rest => '-' :: padLeft (width - 1) '0' rest
  | _ => padLeft width '0' cs

/-- Writes the numbers of a series. -/
def writeSeries (c : Call) (show_ : Int → Bytes) (separator : Bytes) (step last : Int) :
    Nat → Bool → Int → Program Nat
  | 0, _, _ => return 0
  | fuel + 1, isFirst, n => do
    let rec block : Nat → Bool → Int → List Bytes → List Bytes × Int × Bool
      | 0, isFirst, n, out => (out, n, isFirst)
      | count + 1, isFirst, n, out =>
        if (if step < 0 then n < last else last < n) then (out, n, isFirst)
        else
          block count false (n + step)
            ((if isFirst then show_ n else separator ++ show_ n) :: out)
    let (out, next, stillFirst) := block 500 isFirst n []
    let isOver := if step < 0 then next < last else last < next
    let text := out.reverse.flatten
    if isOver then c.deliver (if stillFirst then text else line text) 0
    else
      match ← writeTo 1 text with
      | .error e => c.refuse 1 ("write error: ".toList ++ wordsOf e)
      | .ok _ => writeSeries c show_ separator step last fuel false next

/-- Whether an argument is a negative number. -/
def isNegativeNumber (cs : Bytes) : Bool :=
  match cs with
  | '-' :: d :: _ => d.isDigit || d = '.' || d = 'i' || d = 'I'
  | _ => false

/-- Reads the options of a series up to its first number. -/
def seriesOptions : Nat → List Bytes → Options → Except Bytes Options
  | 0, rest, o => .ok { o with operands := rest }
  | fuel + 1, arguments, o =>
    let flag (f : Char × Bytes) (rest : List Bytes) : Except Bytes Options :=
      seriesOptions fuel rest { o with flags := o.flags ++ [f] }
    match arguments with
    | ['-', '-'] :: rest => .ok { o with operands := rest }
    | ['-', 'w'] :: rest => flag ('w', []) rest
    | ['-', 's'] :: value :: rest => flag ('s', value) rest
    | ['-', 'f'] :: value :: rest => flag ('f', value) rest
    | ['-', 's'] :: [] => .error "option requires an argument -- 's'".toList
    | ['-', 'f'] :: [] => .error "option requires an argument -- 'f'".toList
    | a :: rest =>
      if a = "--equal-width".toList then flag ('w', []) rest
      else if a = "--help".toList then .ok { flags := [(helpFlag, [])] }
      else if a = "--version".toList then .ok { flags := [(versionFlag, [])] }
      else
        match stripPrefix? "--separator=".toList a, stripPrefix? "--format=".toList a with
        | some value, _ => flag ('s', value) rest
        | _, some value => flag ('f', value) rest
        | none, none =>
          if isNegativeNumber a then .ok { o with operands := arguments }
          else
            match a with
            | '-' :: 's' :: value => flag ('s', value) rest
            | '-' :: 'f' :: value => flag ('f', value) rest
            | '-' :: d :: _ => .error ("invalid option -- '".toList ++ [d, '\''])
            | _ => .ok { o with operands := arguments }
    | [] => .ok o

/-- Writes a series of numbers. -/
def series (c : Call) : Program Nat := do
  match seriesOptions (c.arguments.length + 1) c.arguments {} with
  | .error words => c.misuse 1 words
  | .ok o =>
    if o.has helpFlag then return ← c.deliver (usageLine c.name) 0
    if o.has versionFlag then return ← c.deliver (versionLine c.name) 0
    let isBad (a : Bytes) : Bool := (placesOf? a).isNone
    let template := (o.value? 'f').getD ['%', 'g']
    if let some words := templateFault? template then return ← c.refuse 1 words
    if o.has 'f' && o.has 'w' then
      return ← c.misuse 1
        "format string may not be specified when printing equal width strings".toList
    match o.operands.find? isBad with
    | some a =>
      let kind := if (a.map Char.toLower) = "nan".toList then "'not-a-number'" else "floating point"
      c.misuse 1 ("invalid ".toList ++ kind.toList ++ " argument: ".toList ++ inQuotes a)
    | none =>
      let go (first step last : Places) : Program Nat :=
        let places := max first.places step.places
        let inner := max places last.places
        if step.digits = 0 then
          c.misuse 1 ("invalid Zero increment value: ".toList
            ++ inQuotes ((o.operands[1]?).getD []))
        else
          let width := max (first.width + (places - first.places)
              + (if first.places = 0 && 0 < places then 1 else 0))
            (last.width + (if places < last.places then 0 else places - last.places)
              + (if last.places = 0 && 0 < places then 1 else 0)
              - (if places < last.places then last.places - places
                  + (if places = 0 then 1 else 0) else 0))
          let plain (n : Int) : Bytes := placesText places (n / tenTo (inner - places))
          let show_ (n : Int) : Bytes :=
            match o.value? 'f' with
            | some format => (fillTemplate .system format [plain n]).text
            | none => if o.has 'w' then zerosBefore width (plain n) else plain n
          writeSeries c show_ ((o.value? 's').getD ['\n']) (step.scaled inner) (last.scaled inner)
            streamFuel true (first.scaled inner)
      let one : Places := ⟨1, 0, 1⟩
      match o.operands.filterMap placesOf? with
      | [] => c.misuse 1 "missing operand".toList
      | [last] => go one one last
      | [first, last] => go first one last
      | [first, step, last] => go first step last
      | _ => c.misuse 1 ("extra operand '".toList ++ (o.operands.getLast?).getD [] ++ ['\''])

end LinkWatch.Host.Utility
