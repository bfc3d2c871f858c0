import LinkWatch.Decimal.Nearest
import LinkWatch.Toml.Lexeme

/-!
# Numbers

Whole numbers are decimal with an optional sign, or hexadecimal, octal or binary without one, and
fit into 64 bits with sign. A number with a fraction or an exponent is a floating number. Single
underscores may stand between digits. A floating number that is too large upwards is refused.
-/

namespace LinkWatch.Toml

/-- Reads digits of a base, with single underscores between them. The text read and the rest. -/
def readDigits? (base : Nat) : List Char → Option (List Char × List Char)
  | [] => none
  | c :: cs =>
    if isDigitOf base c then
      match cs with
      | '_' :: d :: rest =>
        if isDigitOf base d then
          (readDigits? base (d :: rest)).map fun p => (c :: p.1, p.2)
        else some ([c], '_' :: d :: rest)
      | d :: rest =>
        if isDigitOf base d then (readDigits? base (d :: rest)).map fun p => (c :: p.1, p.2)
        else some ([c], d :: rest)
      | [] => some ([c], [])
    else none

/-- Reads an optional sign: whether it is a minus, and the rest. -/
def readSign : List Char → Bool × List Char
  | '-' :: rest => (true, rest)
  | '+' :: rest => (false, rest)
  | cs => (false, cs)

/-- Reads the digits of a whole decimal number, of which only zero itself begins with zero. -/
def readWhole? : List Char → Option (List Char × List Char)
  | '0' :: rest => some (['0'], rest)
  | cs => readDigits? 10 cs

/-- A whole number, if it fits into 64 bits with sign. -/
def inRange? (n : Int) : Option Int :=
  if -9223372036854775808 ≤ n ∧ n ≤ 9223372036854775807 then some n else none

/-- Reads a whole number. -/
def readInteger? : List Char → Option (Int × List Char)
  | '0' :: 'x' :: rest => based? 16 rest
  | '0' :: 'o' :: rest => based? 8 rest
  | '0' :: 'b' :: rest => based? 2 rest
  | cs => do
    let (negative, rest) := readSign cs
    let (digits, rest) ← readWhole? rest
    let n : Int := numberOf 10 digits
    let n ← inRange? (if negative then -n else n)
    return (n, rest)
where
  /-- Reads the digits after a mark of the base. -/
  based? (base : Nat) (cs : List Char) : Option (Int × List Char) := do
    let (digits, rest) ← readDigits? base cs
    let n ← inRange? (numberOf base digits)
    return (n, rest)

/-- Reads an exponent: its value and the rest. -/
def readExponent? : List Char → Option (Int × List Char)
  | c :: rest =>
    if c == 'e' || c == 'E' then do
      let (negative, rest) := readSign rest
      let (digits, rest) ← readDigits? 10 rest
      let n : Int := numberOf 10 digits
      return (if negative then -n else n, rest)
    else none
  | [] => none

/-- Reads a fraction: its digits and the rest. -/
def readFraction? : List Char → Option (List Char × List Char)
  | '.' :: rest => readDigits? 10 rest
  | _ => none

/-- Whether `mantissa · 10^exponent` is too large for a double. -/
def isTooLarge (mantissa : Nat) (exponent : Int) : Bool :=
  (Decimal.nearestDecimal mantissa exponent).isInf

/-- Reads a finite floating number and gives the rest. -/
def readFinite? (cs : List Char) : Option (List Char) := do
  let (negative, rest) := readSign cs
  let (whole, rest) ← readWhole? rest
  let fraction := readFraction? rest
  let digits := whole ++ (fraction.elim [] (·.1))
  let places : Int := (fraction.elim [] (·.1)).length
  let rest := fraction.elim rest (·.2)
  let exponent := readExponent? rest
  guard (fraction.isSome || exponent.isSome)
  let power := exponent.elim 0 (·.1) - places
  guard (negative || !isTooLarge (numberOf 10 digits) power)
  return exponent.elim rest (·.2)

/-- Reads infinity or the value that is no number, and gives the rest. -/
def readSpecial? (cs : List Char) : Option (List Char) :=
  match (readSign cs).2 with
  | 'i' :: 'n' :: 'f' :: rest => some rest
  | 'n' :: 'a' :: 'n' :: rest => some rest
  | _ => none

/-- Reads a floating number and gives the rest. -/
def readFloating? (cs : List Char) : Option (List Char) :=
  (readFinite? cs).or (readSpecial? cs)

end LinkWatch.Toml
