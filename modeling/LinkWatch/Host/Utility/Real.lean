import LinkWatch.Decimal.Fixed
import LinkWatch.Host.Utility.Numeral

/-!
# Real numbers as programs write them

A number is read from decimal or hexadecimal notation and rounded to so many binary digits. It is
written with a fixed number of places, with an exponent, or in the shorter of these ways.
-/

namespace LinkWatch.Host.Utility

open LinkWatch.Text LinkWatch.Decimal

/-- The size of a number. -/
inductive Magnitude where
  | fraction (num den : Nat)
  | infinite
  | notNumber
  deriving DecidableEq

/-- A number with its sign. -/
structure Real where
  negative : Bool
  magnitude : Magnitude
  deriving DecidableEq

/-- Zero. -/
def Real.zero : Real := ⟨false, .fraction 0 1⟩

/-- A whole number. -/
def Real.ofInt (n : Int) : Real :=
  ⟨n < 0, .fraction n.natAbs 1⟩

/-- A fraction rounded to so many binary digits. -/
def roundBinary (digits num den : Nat) : Nat × Nat :=
  if num = 0 then (0, 1)
  else
    let q : Int := binaryExponent num den - (digits - 1 : Nat)
    if 0 ≤ q then (roundDivEven num (den * twoTo q.toNat) * twoTo q.toNat, 1)
    else (roundDivEven (num * twoTo (-q).toNat) den, twoTo (-q).toNat)

/-- A number rounded to so many binary digits. -/
def Real.rounded (digits : Nat) (x : Real) : Real :=
  match x.magnitude with
  | .fraction num den =>
    let p := roundBinary digits num den
    { x with magnitude := .fraction p.1 p.2 }
  | _ => x

/-- An exponent after its letter, if there is one: its value, and the rest. -/
def readPower (letter : Char) (cs : Bytes) : Int × Bytes :=
  match cs with
  | e :: rest =>
    if e.toLower ≠ letter then (0, cs)
    else
      let (negative, digits) := match rest with
        | '-' :: ds => (true, ds)
        | '+' :: ds => (false, ds)
        | ds => (false, ds)
      if digits.head?.any Char.isDigit then
        let p := readBased 10 digits
        let n := min p.1 100000
        (if negative then -n else n, p.2)
      else (0, cs)
  | [] => (0, cs)

/-- A whole number times a power of ten or two. -/
def scaled (power : Nat → Nat) (mantissa : Nat) (exponent : Int) : Magnitude :=
  if mantissa = 0 then .fraction 0 1
  else if exponent > 20000 then .infinite
  else if exponent < -20000 then .fraction 0 1
  else if 0 ≤ exponent then .fraction (mantissa * power exponent.toNat) 1
  else .fraction mantissa (power (-exponent).toNat)

/-- Reads digits in a base, perhaps with a point among them: their value and the number of places
after the point, and the rest. -/
def readPlaces (base : Nat) (cs : Bytes) : Option (Nat × Nat × Bytes) :=
  let isDigit (c : Char) : Bool := digitValue c < base
  let whole := cs.takeWhile isDigit
  let (places, rest) := match cs.drop whole.length with
    | '.' :: after => (after.takeWhile isDigit, after.dropWhile isDigit)
    | after => ([], after)
  if whole = [] && places = [] then none
  else some ((readBased base (whole ++ places)).1, places.length, rest)

/-- Reads a number at the start of a text; the rest is the whole text if there is none. -/
def readReal (cs : Bytes) : Real × Bytes :=
  let start := skipSpaces cs
  let (negative, unsigned) := match start with
    | '-' :: rest => (true, rest)
    | '+' :: rest => (false, rest)
    | rest => (false, rest)
  let lower := unsigned.map Char.toLower
  if "infinity".toList.isPrefixOf lower then (⟨negative, .infinite⟩, unsigned.drop 8)
  else if "inf".toList.isPrefixOf lower then (⟨negative, .infinite⟩, unsigned.drop 3)
  else if "nan".toList.isPrefixOf lower then (⟨negative, .notNumber⟩, unsigned.drop 3)
  else
    let decimal : Real × Bytes :=
      match readPlaces 10 unsigned with
      | none => (.zero, cs)
      | some (m, places, rest) =>
        let p := readPower 'e' rest
        (⟨negative, scaled tenTo m (p.1 - places)⟩, p.2)
    match unsigned with
    | '0' :: x :: rest =>
      if x.toLower = 'x' then
        match readPlaces 16 rest with
        | none => decimal
        | some (m, places, rest) =>
          let p := readPower 'p' rest
          (⟨negative, scaled twoTo m (p.1 - 4 * places)⟩, p.2)
      else decimal
    | _ => decimal

/-- The greatest exponent of ten not above a fraction. -/
def decimalExponent (num den : Nat) : Int :=
  let guess : Int := (Nat.toDigits 10 num).length - (Nat.toDigits 10 den).length
  let reached (e : Int) : Bool :=
    if 0 ≤ e then den * tenTo e.toNat ≤ num else den ≤ num * tenTo (-e).toNat
  if num = 0 then 0 else if reached guess then guess else guess - 1

/-- A fraction with one digit before the point and so many after it: the digits, and the
exponent. -/
def exponentDigits (num den places : Nat) : Bytes × Int :=
  if num = 0 then (List.replicate (places + 1) '0', 0)
  else
    let e := decimalExponent num den
    let shift : Int := places - e
    let n := if 0 ≤ shift then roundDivEven (num * tenTo shift.toNat) den
      else roundDivEven num (den * tenTo (-shift).toNat)
    let digits := digitsOf n
    if digits.length > places + 1 then (digits.dropLast, e + 1) else (digits, e)

/-- How a number is written. -/
inductive RealStyle where
  | fixed
  | exponent
  | shorter
  deriving DecidableEq

/-- An exponent of at least two digits with its sign. -/
def powerText (e : Int) : Bytes :=
  (if e < 0 then '-' else '+') :: padLeft 2 '0' (digitsOf e.natAbs)

/-- Digits with a point after the first one. -/
def pointed (digits : Bytes) (keepsPoint : Bool) : Bytes :=
  match digits with
  | d :: rest => if rest = [] && !keepsPoint then [d] else d :: '.' :: rest
  | [] => []

/-- A text without the zeros at the end of its places, and without a point that is left alone. -/
def withoutZeros (cs : Bytes) : Bytes :=
  if '.' ∈ cs then
    match cs.reverse.dropWhile (· = '0') with
    | '.' :: rest => rest.reverse
    | rest => rest.reverse
  else cs

/-- The text of a fraction with so many places. -/
def fractionText (style : RealStyle) (keepsPoint : Bool) (places num den : Nat) : Bytes :=
  let withExponent (places : Nat) (strips : Bool) : Bytes :=
    let (digits, e) := exponentDigits num den places
    let text := pointed digits keepsPoint
    (if strips then withoutZeros text else text) ++ 'e' :: powerText e
  let withPoint (places : Nat) : Bytes :=
    let text := fixedFraction num den places
    if places = 0 && keepsPoint then text ++ ['.'] else text
  match style with
  | .fixed => withPoint places
  | .exponent => withExponent places false
  | .shorter =>
    let digits := max places 1
    let e := (exponentDigits num den (digits - 1)).2
    if -4 ≤ e && e < digits then
      let text := withPoint (((digits : Int) - 1 - e).toNat)
      if keepsPoint then text else withoutZeros text
    else withExponent (digits - 1) (!keepsPoint)

/-- The text of a fraction in hexadecimal notation, of which the first digit takes up so many binary
ones. Without a number of places there are as many as are needed. -/
def hexadecimalText (leading : Nat) (keepsPoint : Bool) (places : Option Nat) (num den : Nat) :
    Bytes :=
  let e : Int := if num = 0 then 0 else binaryExponent num den - (leading - 1 : Nat)
  let scaledNum := if 0 ≤ e then num else num * twoTo (-e).toNat
  let scaledDen := if 0 ≤ e then den * twoTo e.toNat else den
  let shown := places.getD 16
  let digits := padLeft (shown + 1) '0'
    (Nat.toDigits 16 (roundDivEven (scaledNum * twoTo (4 * shown)) scaledDen))
  let text := pointed digits (keepsPoint || places = none)
  let bare := withoutZeros text
  (if places.isSome then text else if keepsPoint && !bare.contains '.' then bare ++ ['.'] else bare)
    ++ 'p' :: (if e < 0 then '-' else '+') :: digitsOf e.natAbs

/-- The text of the size of a number. -/
def Magnitude.text (m : Magnitude) (style : RealStyle) (keepsPoint : Bool) (places : Nat) : Bytes :=
  match m with
  | .fraction num den => fractionText style keepsPoint places num den
  | .infinite => "inf".toList
  | .notNumber => "nan".toList

end LinkWatch.Host.Utility
