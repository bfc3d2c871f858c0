import LinkWatch.Decimal.Nearest

/-!
# Shortest decimal digits

The fewest decimal digits that identify a positive double: of all decimals that round to it, one
with the fewest digits, and of those the nearest to it. The reals that round to `m · 2^q` form an
interval, which holds its ends exactly when `m` is even, since a half goes to the even neighbour.
-/

namespace LinkWatch.Decimal

/-- A positive double `significand · 2^exponent` in its standard form. -/
structure Binary where
  significand : Nat
  exponent : Int

/-- The parts of a positive finite double, from its bits without the sign. -/
def Binary.ofBits (bits : Nat) : Binary :=
  let e : Nat := bits / leastNormal
  let f : Nat := bits % leastNormal
  if e = 0 then ⟨f, -1074⟩ else ⟨f + leastNormal, Int.ofNat e - 1075⟩

/-- A fraction interval around a value, all three over the denominator `unit`. -/
structure Interval where
  low : Nat
  value : Nat
  high : Nat
  unit : Nat
  closed : Bool

/-- The reals that round to the double. Below a power of two the neighbour is only half as far. -/
def Binary.interval (b : Binary) : Interval :=
  let m := b.significand
  let below := if m = leastNormal ∧ -1074 < b.exponent then 1 else 2
  let q := b.exponent - 2
  let scale := if 0 ≤ q then twoTo q.toNat else 1
  let unit := if 0 ≤ q then 1 else twoTo (-q).toNat
  ⟨(4 * m - below) * scale, 4 * m * scale, (4 * m + 2) * scale, unit, m % 2 == 0⟩

/-- Whether `num / den` lies in the interval. -/
def Interval.contains (i : Interval) (num den : Nat) : Bool :=
  let x := num * i.unit
  if i.closed then i.low * den ≤ x && x ≤ i.high * den
  else i.low * den < x && x < i.high * den

/-- A positive decimal `digits · 10^exponent`. -/
structure Digits where
  digits : Nat
  exponent : Int
  deriving DecidableEq, Repr

/-- The least `p` with `num / den < 10^p`, for positive `num` and `den`. -/
def decimalPoint (num den : Nat) : Int :=
  if den ≤ num then (Nat.toDigits 10 (num / den)).length
  else
    let t := (Nat.toDigits 10 (den / num)).length
    if num * tenTo (t - 1) = den then 2 - (t : Int) else 1 - (t : Int)

/-- The value's neighbour on the grid of multiples of `10^g`, if one lies in the interval; of two
the nearer, and of two equally near the even one. -/
def Interval.onGrid? (i : Interval) (g : Int) : Option Nat :=
  let num := if 0 ≤ g then i.value else i.value * tenTo (-g).toNat
  let den := if 0 ≤ g then i.unit * tenTo g.toNat else i.unit
  let c := num / den
  let r := num % den
  let inside (k : Nat) : Bool :=
    if 0 ≤ g then i.contains (k * tenTo g.toNat) 1 else i.contains k (tenTo (-g).toNat)
  match 0 < c && inside c, inside (c + 1) with
  | false, false => none
  | true, false => some c
  | false, true => some (c + 1)
  | true, true =>
    if 2 * r < den then some c
    else if den < 2 * r then some (c + 1)
    else some (c + c % 2)

/-- Moves trailing zeros into the exponent. -/
def Digits.normalize (fuel : Nat) (d : Digits) : Digits :=
  match fuel with
  | 0 => d
  | fuel + 1 =>
    if d.digits ≠ 0 ∧ d.digits % 10 = 0 then normalize fuel ⟨d.digits / 10, d.exponent + 1⟩ else d

/-- The shortest digits of a positive finite double, given by its bits without the sign. Seventeen
digits are always enough. -/
def shortest (bits : Nat) : Digits :=
  let i := (Binary.ofBits bits).interval
  let p := decimalPoint i.value i.unit
  let found := (List.range 17).findSome? fun k =>
    let g := p - (k + 1 : Nat)
    (i.onGrid? g).map fun c => Digits.mk c g
  match found with
  | some d => d.normalize 17
  | none => ⟨0, 0⟩

end LinkWatch.Decimal
