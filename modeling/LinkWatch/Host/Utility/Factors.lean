import LinkWatch.Host.Utility.Stream

/-!
# Prime factors

Small factors are found by trial, whether what is left is prime by powers, and its factors by a walk
whose values meet again modulo a factor.
-/

namespace LinkWatch.Host.Utility

open LinkWatch.Text LinkWatch.Host.Kernel

/-- A power modulo a number. -/
def powerMod (modulus : Nat) : Nat → Nat → Nat → Nat
  | 0, _, _ => 1 % modulus
  | bits + 1, base, exponent =>
    let half := powerMod modulus bits (base * base % modulus) (exponent / 2)
    if exponent % 2 = 0 then half else half * base % modulus

/-- How often two divides a number. -/
def twosIn : Nat → Nat → Nat
  | 0, _ => 0
  | fuel + 1, n => if n ≠ 0 && n % 2 = 0 then twosIn fuel (n / 2) + 1 else 0

/-- Whether a power of a base, squared so many times at most, gets to minus one. -/
def reachesMinusOne (n : Nat) : Nat → Nat → Bool
  | 0, _ => false
  | fuel + 1, x => x = n - 1 || reachesMinusOne n fuel (x * x % n)

/-- Whether a number has the properties of a prime number for small bases. -/
def isPrime (n : Nat) : Bool :=
  let bases := [2, 3, 5, 7, 11, 13, 17, 19, 23, 29, 31, 37, 41]
  if n < 2 then false
  else if bases.contains n then true
  else
    let bits := n.log2 + 1
    let twos := twosIn bits (n - 1)
    let odd := (n - 1) >>> twos
    bases.all fun b =>
      let x := powerMod n bits (b % n) odd
      x = 1 || reachesMinusOne n twos x

/-- A factor that a walk finds: a slow and a fast walker go on until their distance has a common
factor with the number. -/
def factorByWalk (n step : Nat) : Nat → Nat → Nat → Option Nat
  | 0, _, _ => none
  | fuel + 1, slow, fast =>
    let next (x : Nat) : Nat := (x * x + step) % n
    let slow := next slow
    let fast := next (next fast)
    let g := Nat.gcd (max slow fast - min slow fast) n
    if g = 1 then factorByWalk n step fuel slow fast
    else if g = n then none
    else some g

/-- The factors of a number without small ones. -/
def largeFactors : Nat → Nat → List Nat
  | 0, n => [n]
  | fuel + 1, n =>
    if n = 1 then []
    else if isPrime n then [n]
    else
      match (List.range 20).findSome? fun step => factorByWalk n (step + 1) 10000000 2 2 with
      | some f => largeFactors fuel f ++ largeFactors fuel (n / f)
      | none => [n]

/-- The factors below a limit, and what is left of a number. -/
def smallFactors : Nat → Nat → Nat → List Nat × Nat
  | 0, _, n => ([], n)
  | fuel + 1, d, n =>
    if n < d * d then ([], n)
    else if n % d = 0 then let p := smallFactors fuel d (n / d); (d :: p.1, p.2)
    else smallFactors fuel (if d = 2 then 3 else d + 2) n

/-- The prime factors of a number in their order. -/
def primeFactors (n : Nat) : List Nat :=
  let (small, rest) := smallFactors 5000 2 n
  small ++ (largeFactors 64 rest).mergeSort fun a b => a ≤ b

/-- Shows the prime factors of numbers. -/
def showFactors (c : Call) : Program Nat :=
  c.withOptions { plain := ['h'], long := [("exponents", 'h')] } 1 fun o => do
    let words ←
      if o.operands ≠ [] then pure o.operands
      else do
        let text := (← readAll 0).toOption.getD []
        pure ((pieces ' ' (text.map fun x => if isSpaceChar x then ' ' else x)).filter (· ≠ []))
    let results ← words.mapM fun w => do
      let plain := skipSpaces w
      let plain := if plain.head? = some '+' then plain.drop 1 else plain
      match natural? plain with
      | some n =>
        let factors := if n = 0 then [] else primeFactors n
        let text :=
          if o.has 'h' then
            (factors.splitBy fun a b => a == b).map fun fs =>
              digitsOf (fs.headD 1)
                ++ (if fs.length = 1 then [] else '^' :: digitsOf fs.length)
          else factors.map digitsOf
        let _ ← writeTo 1 (line (joinWith [' '] ((digitsOf n ++ [':']) :: text)))
        return true
      | none =>
        c.complain ('\'' :: w ++ "' is not a valid positive integer".toList)
        return false
    return if results.all id then 0 else 1

end LinkWatch.Host.Utility
