/-!
# The double nearest to a fraction

A finite non-negative double is `m · 2^q` with `m < 2^53` and `q ≥ -1074`; its bits are
`(q + 1074) · 2^52 + m`, for normal and subnormal numbers alike. Rounding a fraction to the
nearest double is therefore one rounded division, and a carry out of the significand moves the
exponent by itself.
-/

namespace LinkWatch.Decimal

/-! ## Powers and the parts of a double -/

/-- Two to a power. -/
def twoTo (n : Nat) : Nat :=
  Nat.pow 2 n

/-- Ten to a power. -/
def tenTo (n : Nat) : Nat :=
  Nat.pow 10 n

/-- Two to the power 52, the least significand of a normal double. -/
def leastNormal : Nat := 0x10000000000000

/-- Two to the power 63, the bit of a double's sign. -/
def signBit : Nat := 0x8000000000000000

/-! ## Rounding -/

/-- The quotient rounded to the nearest whole number; a half goes to the even neighbour. -/
def roundDivEven (num den : Nat) : Nat :=
  let d := num / den
  let r := num % den
  if 2 * r < den then d
  else if 2 * r = den then d + d % 2
  else d + 1

/-- The bits of positive infinity. -/
def infinityBits : Nat := 0x7ff0000000000000

/-- The greatest `e` with `2^e ≤ num / den`, for positive `num` and `den`. -/
def binaryExponent (num den : Nat) : Int :=
  let e : Int := (num.log2 : Int) - (den.log2 : Int)
  let reached : Bool :=
    if 0 ≤ e then den * twoTo e.toNat ≤ num else den ≤ num * twoTo (-e).toNat
  if reached then e else e - 1

/-- The bits of the double nearest to `num / den`; fractions too large for a double give
infinity. -/
def nearestBits (num den : Nat) : Nat :=
  if num = 0 then 0
  else
    let q : Int := max (binaryExponent num den - 52) (-1074)
    let m : Nat :=
      if 0 ≤ q then roundDivEven num (den * twoTo q.toNat)
      else roundDivEven (num * twoTo (-q).toNat) den
    min ((q + 1074).toNat * leastNormal + m) infinityBits

/-- The double nearest to `num / den`. -/
def nearest (num den : Nat) : Float :=
  Float.ofBits (UInt64.ofNat (nearestBits num den))

/-- The double nearest to `mantissa · 10^exponent`. An exponent that puts the leading digit far
outside the range of doubles is answered without computing the power. -/
def nearestDecimal (mantissa : Nat) (exponent : Int) : Float :=
  let leading : Int := exponent + (Nat.toDigits 10 mantissa).length
  if mantissa = 0 then 0.0
  else if leading < -400 then 0.0
  else if 400 < leading then nearest (tenTo 400) 1
  else if 0 ≤ exponent then nearest (mantissa * tenTo exponent.toNat) 1
  else nearest mantissa (tenTo (-exponent).toNat)

end LinkWatch.Decimal
