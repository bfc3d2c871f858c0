import LinkWatch.Decimal.Nearest

/-!
# Numbers with a fixed number of places

The text of a double rounded to so many decimal places. The double's exact value is rounded, and a
half goes to the even neighbour.
-/

namespace LinkWatch.Decimal

/-- Pads a text on the left with `fill` up to `width` characters. -/
def padLeft (width : Nat) (fill : Char) (cs : List Char) : List Char :=
  List.replicate (width - cs.length) fill ++ cs

/-- Pads a text on the right with `fill` up to `width` characters. -/
def padRight (width : Nat) (fill : Char) (cs : List Char) : List Char :=
  cs ++ List.replicate (width - cs.length) fill

/-- The fraction `num / den` with `places` decimal places. -/
def fixedFraction (num den places : Nat) : List Char :=
  let scaled := roundDivEven (num * tenTo places) den
  let digits := padLeft (places + 1) '0' (Nat.toDigits 10 scaled)
  let whole := digits.take (digits.length - places)
  if places = 0 then whole else whole ++ '.' :: digits.drop (digits.length - places)

/-- The text of a double with `places` decimal places. -/
def fixed (x : Float) (places : Nat) : List Char :=
  let bits := x.toBits.toNat
  let sign := if bits / signBit = 1 then ['-'] else []
  let magnitude := bits % signBit
  if infinityBits < magnitude then ['N', 'a', 'N']
  else if magnitude = infinityBits then sign ++ ['i', 'n', 'f']
  else
    let e : Nat := magnitude / leastNormal
    let f : Nat := magnitude % leastNormal
    let m := if e = 0 then f else f + leastNormal
    let q : Int := if e = 0 then -1074 else Int.ofNat e - 1075
    let text :=
      if 0 ≤ q then fixedFraction (m * twoTo q.toNat) 1 places
      else fixedFraction m (twoTo (-q).toNat) places
    sign ++ text

end LinkWatch.Decimal
