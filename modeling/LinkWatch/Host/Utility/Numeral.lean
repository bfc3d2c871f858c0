import LinkWatch.Text.Bytes

/-!
# Whole numbers in arguments

A number may be given in decimal, octal or hexadecimal notation, and is kept in 64 bits with sign:
either the nearest one that fits, or the one that the lowest bits stand for.
-/

namespace LinkWatch.Host.Utility

open LinkWatch.Text

/-- A number at the start of a text: decimal, octal after a zero, or hexadecimal after `0x`. -/
def readConstant (cs : Bytes) : Nat × Bytes :=
  match cs with
  | '0' :: x :: d :: rest =>
    if x.toLower = 'x' && digitValue d < 16 then readBased 16 (d :: rest) else readBased 8 cs
  | '0' :: _ => readBased 8 cs
  | _ => readBased 10 cs

/-- A number with an optional sign after blanks. The rest is empty if the whole text is the
number. -/
def readNumber (cs : Bytes) : Int × Bytes :=
  match skipSpaces cs with
  | '-' :: rest => let p := readConstant rest; (-p.1, p.2)
  | '+' :: rest => let p := readConstant rest; (p.1, p.2)
  | rest => let p := readConstant rest; (p.1, p.2)

/-- The least number. -/
def leastNumber : Int := -9223372036854775808

/-- The greatest number. -/
def greatestNumber : Int := 9223372036854775807

/-- The number that is nearest to a given one. -/
def saturated (n : Int) : Int :=
  max leastNumber (min n greatestNumber)

/-- The number that the lowest 64 bits of a number stand for. -/
def wrapped (n : Int) : Int :=
  Int.bmod n UInt64.size

end LinkWatch.Host.Utility
