import LinkWatch.Decimal.Shortest
import LinkWatch.Host.Utility.Template

/-!
# Doubles of programs on records

A program on records counts with doubles. Whole numbers are written in full, others with six digits
unless something else is asked for.
-/

namespace LinkWatch.Host.Utility

open LinkWatch.Text LinkWatch.Decimal

/-- The double nearest to a number. -/
def floatOf (x : Real) : Float :=
  let size : Float := match x.magnitude with
    | .fraction num den => nearest num den
    | .infinite => 1.0 / 0.0
    | .notNumber => 0.0 / 0.0
  if x.negative then -size else size

/-- The number that a double is. -/
def realOf (x : Float) : Real :=
  let bits := x.toBits.toNat
  let size := bits % signBit
  let magnitude : Magnitude :=
    if infinityBits < size then .notNumber
    else if size = infinityBits then .infinite
    else
      let b := Binary.ofBits size
      if 0 ≤ b.exponent then .fraction (b.significand * twoTo b.exponent.toNat) 1
      else .fraction b.significand (twoTo (-b.exponent).toNat)
  ⟨bits / signBit = 1, magnitude⟩

/-- The whole part of a number; those that are none count as the greatest or the least one. -/
def Real.whole (x : Real) : Int :=
  match x.magnitude with
  | .fraction num den => if x.negative then -(num / den : Nat) else (num / den : Nat)
  | .infinite => if x.negative then leastNumber else greatestNumber
  | .notNumber => leastNumber

/-- Whether a number is whole. -/
def Real.isWhole (x : Real) : Bool :=
  match x.magnitude with
  | .fraction num den => num % den = 0
  | _ => false

/-- The double of a whole number. -/
def floatOfInt (n : Int) : Float :=
  floatOf (.ofInt n)

/-- The whole part of a double. -/
def wholePart (x : Float) : Float :=
  let r := realOf x
  match r.magnitude with
  | .fraction _ _ => floatOfInt (r.whole)
  | _ => x

/-- What is left of a double when another one is taken away as often as possible. -/
def remainderOf (a b : Float) : Float :=
  let x := realOf a
  match x.magnitude, (realOf b).magnitude with
  | .fraction n d, .fraction m e =>
    if m = 0 then 0.0 / 0.0 else floatOf ⟨x.negative, .fraction ((n * e) % (m * d)) (d * e)⟩
  | .fraction _ _, .infinite => a
  | _, _ => 0.0 / 0.0

/-- The text of a number that is not whole, or too large, in a format. -/
def roundedText (format : Bytes) (x : Real) : Bytes :=
  match x.magnitude with
  | .notNumber => "-nan".toList
  | m =>
    let usual : Slot := ⟨[], 0, false, some 6, 'g'⟩
    let (before, slot, after) : Bytes × Slot × Bytes :=
      match cutAt? '%' format with
      | none => ([], usual, [])
      | some (before, spec) =>
        let flags := spec.takeWhile (· ∈ ['#', '-', '+', ' ', '0'])
        let width := readBased 10 (spec.drop flags.length)
        let (precision, rest) : Option Nat × Bytes := match width.2 with
          | '.' :: rest => let p := readBased 10 rest; (some p.1, p.2)
          | rest => (none, rest)
        let letter := rest.headD 'g'
        let precision := if letter = 'd' || letter = 'i' then precision else some (precision.getD 6)
        (before, ⟨flags, width.1, false, precision, letter⟩, rest.drop 1)
    let shown := if slot.letter = 'd' || slot.letter = 'i' then slot.setWhole (x.whole)
      else slot.setReal 1 ⟨x.negative, m⟩
    before ++ shown ++ after

/-- The text of a double, in a format if it is not whole. -/
def formattedNumber (format : Bytes) (x : Float) : Bytes :=
  let r := realOf x
  let n := r.whole
  let limit : Int := UInt64.size
  if r.isWhole && leastNumber ≤ n && n ≤ limit then numeralOf (min n (limit - 1))
  else roundedText format r

/-- The format of numbers if nothing else is asked for. -/
def usualFormat : Bytes :=
  "%.6g".toList

end LinkWatch.Host.Utility
