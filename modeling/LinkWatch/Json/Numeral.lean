import LinkWatch.Decimal.Nearest
import LinkWatch.Decimal.Shortest

/-!
# Numbers in JSON

A number is kept as it is written. As a natural number it must have neither sign, fraction nor
exponent. As a double it is read fast rather than exactly: the digits that fit into 64 bits make
one double, which is then multiplied or divided by a power of ten. A double is written with its
shortest digits.
-/

namespace LinkWatch.Json

open LinkWatch.Decimal

/-- The exponent of a number: its letter, its sign if there is one, and its digits. -/
structure Exponent where
  mark : Char
  sign : Option Char
  digits : List Char
  deriving DecidableEq, Repr

/-- A number as it is written. -/
structure Numeral where
  negative : Bool
  whole : List Char
  fraction : Option (List Char)
  exponent : Option Exponent
  deriving DecidableEq, Repr

/-- Whether a list is not empty and holds digits only. -/
def isDigits (cs : List Char) : Bool :=
  cs ≠ [] && cs.all Char.isDigit

/-- Whether the parts of a number follow the grammar. -/
def Numeral.isProper (n : Numeral) : Bool :=
  isDigits n.whole && (n.whole.length = 1 || n.whole.head? ≠ some '0')
    && n.fraction.all isDigits
    && n.exponent.all fun e =>
      (e.mark == 'e' || e.mark == 'E') && e.sign.all (fun s => s == '+' || s == '-')
        && isDigits e.digits

/-- The text of an exponent. -/
def Exponent.text (e : Exponent) : List Char :=
  e.mark :: (e.sign.toList ++ e.digits)

/-- The text of a number. -/
def Numeral.text (n : Numeral) : List Char :=
  (if n.negative then ['-'] else []) ++ n.whole
    ++ (n.fraction.elim [] fun f => '.' :: f) ++ (n.exponent.elim [] Exponent.text)

/-! ## Reading the text -/

/-- Reads the fraction of a number, if there is one. -/
def readFraction? (cs : List Char) : Option (Option (List Char) × List Char) :=
  match cs with
  | '.' :: rest =>
    let digits := rest.takeWhile Char.isDigit
    if digits = [] then none else some (some digits, rest.dropWhile Char.isDigit)
  | _ => some (none, cs)

/-- Reads the exponent of a number, if there is one. -/
def readExponent? (cs : List Char) : Option (Option Exponent × List Char) :=
  match cs with
  | c :: rest =>
    if c == 'e' || c == 'E' then
      let signed : Option Char × List Char :=
        match rest with
        | '+' :: more => (some '+', more)
        | '-' :: more => (some '-', more)
        | _ => (none, rest)
      let digits := signed.2.takeWhile Char.isDigit
      if digits = [] then none
      else some (some ⟨c, signed.1, digits⟩, signed.2.dropWhile Char.isDigit)
    else some (none, cs)
  | [] => some (none, [])

/-- Reads a number from the start of a text. -/
def readNumeral? (cs : List Char) : Option (Numeral × List Char) := do
  let negative := cs.head? == some '-'
  let rest := if negative then cs.tail else cs
  let whole := rest.takeWhile Char.isDigit
  guard (whole ≠ [] && (whole.length = 1 || whole.head? ≠ some '0'))
  let (fraction, rest) ← readFraction? (rest.dropWhile Char.isDigit)
  let (exponent, rest) ← readExponent? rest
  return (⟨negative, whole, fraction, exponent⟩, rest)

/-! ## Values -/

/-- The value of a digit. -/
def digitValue (c : Char) : Nat :=
  c.toNat - '0'.toNat

/-- The value of a list of digits. -/
def digitsValue (cs : List Char) : Nat :=
  cs.foldl (fun n c => n * 10 + digitValue c) 0

/-- The value of a number that is natural and fits into 64 bits. -/
def Numeral.natural? (n : Numeral) : Option UInt64 :=
  if n.negative || n.fraction.isSome || n.exponent.isSome then none
  else
    let v := digitsValue n.whole
    if v < UInt64.size then some (UInt64.ofNat v) else none

/-- Adds digits to a significand as long as it fits into 64 bits, and gives the digits left
over. -/
def absorb (significand : Nat) : List Char → Nat × List Char
  | [] => (significand, [])
  | d :: ds =>
    let s := significand * 10 + digitValue d
    if s < UInt64.size then absorb s ds else (significand, d :: ds)

/-- The double nearest to a power of ten. -/
def tenTo (n : Nat) : Float :=
  nearest (Decimal.tenTo n) 1

/-- Divides by `10^e`, at most 308 places at a time. Four divisions bring every significand to
zero. -/
def divideByTen (x : Float) (e : Nat) : Nat → Float
  | 0 => 0.0
  | fuel + 1 =>
    if e ≤ 308 then x / tenTo e
    else if x == 0.0 then x
    else divideByTen (x / tenTo 308) (e - 308) fuel

/-- The double that a significand and a power of ten make, unless it is too large. -/
def scaled? (significand : Nat) (exponent : Int) : Option Float :=
  let x := (UInt64.ofNat significand).toFloat
  if exponent < 0 then some (divideByTen x exponent.natAbs 4)
  else if exponent ≤ 308 then
    let y := x * tenTo exponent.toNat
    if y.isInf then none else some y
  else if significand = 0 then some x
  else none

/-- The largest exponent that is computed with. -/
def exponentLimit : Nat := 2147483647

/-- The magnitude of a number as a double, unless it is too large. -/
def Numeral.magnitude? (n : Numeral) : Option Float :=
  let a := absorb 0 n.whole
  let fraction := n.fraction.getD []
  let b := absorb a.1 fraction
  let places : Int := (a.2.length : Int) - ((fraction.length : Int) - (b.2.length : Int))
  match n.exponent with
  | none => scaled? b.1 places
  | some e =>
    let v := digitsValue e.digits
    let down := e.sign == some '-'
    if exponentLimit < v then
      if b.1 ≠ 0 && !down then none else some 0.0
    else
      let total : Int := if down then places - v else places + v
      scaled? b.1 (max (-2147483648) (min 2147483647 total))

/-- The value of a number as a double, unless it is too large. -/
def Numeral.float? (n : Numeral) : Option Float :=
  n.magnitude?.map fun x => if n.negative then -x else x

/-! ## Writing -/

/-- A natural number. -/
def Numeral.ofNat (n : Nat) : Numeral :=
  ⟨false, Nat.toDigits 10 n, none, none⟩

/-- The least decimal exponent that is written without one. -/
def leastPlainExponent : Int := -5

/-- The greatest decimal exponent that is written without one. -/
def greatestPlainExponent : Int := 15

/-- A positive decimal: plain with at least one place where the exponent is small, else with one
digit before the point and a signed exponent. -/
def Numeral.ofDecimal (negative : Bool) (d : Digits) : Numeral :=
  let digits := Nat.toDigits 10 d.digits
  let point : Int := d.exponent + digits.length
  let exponent : Int := point - 1
  if leastPlainExponent ≤ exponent ∧ exponent ≤ greatestPlainExponent then
    if 0 < point then
      let whole := digits.take point.toNat
      let whole := whole ++ List.replicate (point.toNat - digits.length) '0'
      let fraction := digits.drop point.toNat
      ⟨negative, whole, some (if fraction = [] then ['0'] else fraction), none⟩
    else ⟨negative, ['0'], some (List.replicate (-point).toNat '0' ++ digits), none⟩
  else
    let fraction := digits.tail
    let sign := if exponent < 0 then '-' else '+'
    ⟨negative, digits.take 1, if fraction = [] then none else some fraction,
      some ⟨'e', some sign, Nat.toDigits 10 exponent.natAbs⟩⟩

/-- A double, if it is finite. -/
def Numeral.ofFloat? (x : Float) : Option Numeral :=
  let bits := x.toBits.toNat
  let negative := bits / signBit == 1
  let magnitude := bits % signBit
  if infinityBits ≤ magnitude then none
  else if magnitude = 0 then some ⟨negative, ['0'], some ['0'], none⟩
  else some (Numeral.ofDecimal negative (shortest magnitude))

end LinkWatch.Json
