import LinkWatch.Decimal.Fixed
import LinkWatch.Proofs.WrittenNumbers
import Mathlib.Algebra.Order.Floor.Semifield
import Mathlib.Data.Nat.Cast.Order.Field
import Mathlib.Data.Rat.Floor
import Mathlib.Tactic.FieldSimp
import Mathlib.Tactic.LinearCombination
import Mathlib.Tactic.Linarith
import Mathlib.Tactic.Positivity

/-!
# Written doubles

For people a double is written with two places, which are the hundredths nearest to it. A document
shows its shortest digits. They make a decimal that stands for the double, in that no other double is
nearer to it. The decimals that do make an interval, from the middle between the double and the one
before it to the middle between it and the one after it. The shortest digits are searched on grids,
from a coarse one to a fine one, and a number on a grid is taken if it is in the interval. Seventeen
digits are always enough, because the interval is wider than a step of their grid.
-/

namespace LinkWatch.Decimal

/-! ## Values -/

/-- The value of a double without its sign. -/
def Binary.value (b : Binary) : ℚ :=
  b.significand * 2 ^ b.exponent

/-- The value of a decimal. -/
def Digits.value (d : Digits) : ℚ :=
  d.digits * 10 ^ d.exponent

/-- A number rounds to the double with some bits: no other double is nearer to it, and of two
equally near ones it is the one with the even significand. Infinity stands for the double that would
follow the greatest one. -/
def RoundsTo (r : ℚ) (bits : Nat) : Prop :=
  ∀ other ≤ infinityBits, other ≠ bits →
    |r - (Binary.ofBits bits).value| < |r - (Binary.ofBits other).value| ∨
      |r - (Binary.ofBits bits).value| = |r - (Binary.ofBits other).value| ∧
        (Binary.ofBits bits).significand % 2 = 0

/-! ## Two places -/

/-- A whole number is the nearest one to another number; of two equally near ones it is the even
one. -/
def IsNearest (r : ℚ) (n : Nat) : Prop :=
  |r - n| < 1 / 2 ∨ |r - n| = 1 / 2 ∧ n % 2 = 0

/-- A text shows a double with two places: the hundredths nearest to its value, with a minus sign if
its sign bit is set. What is not finite is shown by a word. -/
def ShowsHundredths (x : Float) (text : List Char) : Prop :=
  let magnitude := x.toBits.toNat % 2 ^ 63
  let sign := if 2 ^ 63 ≤ x.toBits.toNat then ['-'] else []
  if magnitude < 0x7ff0000000000000 then
    ∃ n, IsNearest (100 * (Binary.ofBits magnitude).value) n ∧
      text = sign ++ Nat.toDigits 10 (n / 100) ++
        ['.', Nat.digitChar (n / 10 % 10), Nat.digitChar (n % 10)]
  else if magnitude = 0x7ff0000000000000 then text = sign ++ ['i', 'n', 'f']
  else text = ['N', 'a', 'N']

/-- Rounding gives the nearest whole number. -/
theorem isNearest_roundDivEven (num : Nat) {den : Nat} (hden : 0 < den) :
    IsNearest (num / den) (roundDivEven num den) := by
  have hpos : (0 : ℚ) < den := Nat.cast_pos.2 hden
  unfold roundDivEven
  extract_lets d r
  -- the fraction is its whole part and a rest, which is compared with a half
  obtain ⟨rest, hrest⟩ : ∃ rest : ℚ, rest = r / den := ⟨_, rfl⟩
  have hsplit : (num / den : ℚ) = d + rest := by
    have hnum : (num : ℚ) = d * den + r := by
      exact_mod_cast (Nat.div_add_mod' num den).symm
    rw [hnum, hrest]
    field_simp
  have hless : 2 * r < den ↔ rest < 1 / 2 := by
    rw [hrest, div_lt_iff₀ hpos, div_mul_eq_mul_div, lt_div_iff₀ two_pos, one_mul, mul_comm]
    exact_mod_cast Iff.rfl
  have hhalf : 2 * r = den ↔ rest = 1 / 2 := by
    rw [hrest, div_eq_iff hpos.ne', div_mul_eq_mul_div, eq_div_iff two_ne_zero, one_mul, mul_comm]
    exact_mod_cast Iff.rfl
  have hfrom : 0 ≤ rest := hrest ▸ div_nonneg (Nat.cast_nonneg r) hpos.le
  have hto : rest < 1 := by
    rw [hrest, div_lt_one hpos]
    exact Nat.cast_lt.2 (Nat.mod_lt num hden)
  rw [hsplit]
  split
  case isTrue h =>
    left
    rw [add_sub_cancel_left, abs_of_nonneg hfrom]
    exact hless.1 h
  case isFalse h =>
    split
    case isTrue heq =>
      right
      rw [hhalf.1 heq]
      rcases Nat.mod_two_eq_zero_or_one d with heven | hodd
      · rw [heven, Nat.add_zero, add_sub_cancel_left]
        exact ⟨abs_of_pos (by norm_num), heven⟩
      · rw [hodd]
        refine ⟨?_, by omega⟩
        push_cast
        rw [add_sub_add_left_eq_sub, abs_of_neg (by norm_num)]
        norm_num
    case isFalse hne =>
      left
      have hmore : 1 / 2 < rest := by
        rcases lt_trichotomy rest (1 / 2) with h' | h' | h'
        · exact absurd (hless.2 h') h
        · exact absurd (hhalf.2 h') hne
        · exact h'
      push_cast
      rw [add_sub_add_left_eq_sub, abs_of_neg (by linarith)]
      linarith

/-- Padded to three digits, a number is the digits of its hundreds and two more. -/
theorem padLeft_toDigits (n : Nat) :
    padLeft 3 '0' (Nat.toDigits 10 n) =
      Nat.toDigits 10 (n / 100) ++ [Nat.digitChar (n / 10 % 10), Nat.digitChar (n % 10)] := by
  by_cases hone : n < 10
  · have hten : n / 10 = 0 := by omega
    have hhundred : n / 100 = 0 := by omega
    rw [Nat.toDigits_of_lt_base hone, hten, hhundred, Nat.mod_eq_of_lt hone]
    rfl
  · rw [Nat.toDigits_of_base_le (by decide) (Nat.le_of_not_lt hone)]
    by_cases htwo : n / 10 < 10
    · have hhundred : n / 100 = 0 := by omega
      rw [Nat.toDigits_of_lt_base htwo, hhundred, Nat.mod_eq_of_lt htwo]
      rfl
    · have hhundred : n / 10 / 10 = n / 100 := by omega
      rw [Nat.toDigits_of_base_le (by decide) (Nat.le_of_not_lt htwo), hhundred, padLeft]
      have hlength : 0 < (Nat.toDigits 10 (n / 100)).length :=
        List.length_pos_iff.2 Nat.toDigits_ne_nil
      have hfull : 3 - (Nat.toDigits 10 (n / 100) ++ [Nat.digitChar (n / 10 % 10)] ++
          [Nat.digitChar (n % 10)]).length = 0 := by
        simp only [List.length_append, List.length_singleton]
        omega
      rw [hfull, List.replicate_zero, List.nil_append, List.append_assoc, List.singleton_append]

/-- A fraction with two places is shown by the hundredths nearest to it. -/
theorem fixedFraction_two (num : Nat) {den : Nat} (hden : 0 < den) :
    ∃ n, IsNearest (100 * (num / den)) n ∧ fixedFraction num den 2 = Nat.toDigits 10 (n / 100) ++
      ['.', Nat.digitChar (n / 10 % 10), Nat.digitChar (n % 10)] := by
  have hnearest := isNearest_roundDivEven (num * 100) hden
  rw [Nat.cast_mul, mul_comm, mul_div_assoc] at hnearest
  refine ⟨_, hnearest, ?_⟩
  unfold fixedFraction
  extract_lets scaled digits whole
  have hdigits : digits = Nat.toDigits 10 (scaled / 100) ++
      [Nat.digitChar (scaled / 10 % 10), Nat.digitChar (scaled % 10)] := padLeft_toDigits scaled
  have hlength : digits.length - 2 = (Nat.toDigits 10 (scaled / 100)).length := by
    rw [hdigits, List.length_append]
    rfl
  simp only [whole, hlength]
  rw [if_neg (by decide), hdigits, List.take_left, List.drop_left]
  rfl

/-- The value of a double as a fraction, with two places. -/
theorem fixedFraction_binary (b : Binary) :
    ∃ n, IsNearest (100 * b.value) n ∧
      (if 0 ≤ b.exponent then fixedFraction (b.significand * twoTo b.exponent.toNat) 1 2
        else fixedFraction b.significand (twoTo (-b.exponent).toNat) 2) =
      Nat.toDigits 10 (n / 100) ++ ['.', Nat.digitChar (n / 10 % 10), Nat.digitChar (n % 10)] := by
  have htwo (n : Nat) : twoTo n = 2 ^ n := rfl
  obtain ⟨m, q⟩ := b
  by_cases hq : 0 ≤ q
  · obtain ⟨n, rfl⟩ := Int.eq_ofNat_of_zero_le hq
    have hfraction := fixedFraction_two (m * 2 ^ n) Nat.one_pos
    push_cast at hfraction
    rw [div_one] at hfraction
    simpa only [Binary.value, if_pos hq, htwo, Int.toNat_natCast, zpow_natCast] using hfraction
  · obtain ⟨n, rfl⟩ : ∃ n : Nat, q = -n := ⟨(-q).toNat, by omega⟩
    have hfraction := fixedFraction_two m (Nat.two_pow_pos n)
    push_cast at hfraction
    rw [div_eq_mul_inv] at hfraction
    simpa only [Binary.value, if_neg hq, htwo, neg_neg, Int.toNat_natCast, zpow_neg, zpow_natCast]
      using hfraction

/-- The parts of a double, one by one. -/
theorem ofBits_eq (bits : Nat) :
    Binary.ofBits bits =
      ⟨if bits / leastNormal = 0 then bits % leastNormal else bits % leastNormal + leastNormal,
        if bits / leastNormal = 0 then -1074 else Int.ofNat (bits / leastNormal) - 1075⟩ := by
  simp only [Binary.ofBits]
  by_cases h : bits / leastNormal = 0
  · simp only [if_pos h]
  · simp only [if_neg h]

/-- **The text with two places shows the double.** -/
theorem showsHundredths_fixed (x : Float) : ShowsHundredths x (fixed x 2) := by
  have hlt : x.toBits.toNat < 2 ^ 64 := x.toBits.toNat_lt
  have hsign : signBit = 2 ^ 63 := rfl
  have hinfinity : infinityBits = 0x7ff0000000000000 := rfl
  have hminus : (if x.toBits.toNat / 2 ^ 63 = 1 then ['-'] else []) =
      if 2 ^ 63 ≤ x.toBits.toNat then ['-'] else [] := by
    have hbit : x.toBits.toNat / 2 ^ 63 = 1 ↔ 2 ^ 63 ≤ x.toBits.toNat := by omega
    simp only [hbit]
  obtain ⟨n, hnearest, htext⟩ := fixedFraction_binary (Binary.ofBits (x.toBits.toNat % 2 ^ 63))
  simp only [ShowsHundredths, fixed, hsign, hinfinity, hminus]
  rcases Nat.lt_trichotomy (x.toBits.toNat % 2 ^ 63) 0x7ff0000000000000 with hless | heq | hmore
  · rw [if_pos hless, if_neg (Nat.not_lt_of_lt hless), if_neg (Nat.ne_of_lt hless)]
    refine ⟨n, hnearest, ?_⟩
    rw [List.append_assoc, ← htext, ofBits_eq]
  · rw [if_neg (by omega), if_pos heq, if_neg (by omega), if_pos heq]
  · rw [if_neg (by omega), if_neg (by omega), if_pos hmore]

/-! ## Doubles and their neighbours -/

theorem two_zpow_pos (e : ℤ) : (0 : ℚ) < 2 ^ e :=
  zpow_pos (by norm_num) e

theorem ten_zpow_pos (e : ℤ) : (0 : ℚ) < 10 ^ e :=
  zpow_pos (by norm_num) e

theorem leastNormal_pos : 0 < leastNormal := by
  decide

/-- A double by the two parts of its bits. -/
theorem ofBits_mul_add (e : Nat) {f : Nat} (h : f < leastNormal) :
    Binary.ofBits (e * leastNormal + f) =
      if e = 0 then ⟨f, -1074⟩ else ⟨f + leastNormal, Int.ofNat e - 1075⟩ := by
  have hdiv : (e * leastNormal + f) / leastNormal = e := by
    rw [Nat.add_comm, Nat.add_mul_div_right _ _ leastNormal_pos, Nat.div_eq_of_lt h, Nat.zero_add]
  have hmod : (e * leastNormal + f) % leastNormal = f := by
    rw [Nat.mul_comm, Nat.mul_add_mod, Nat.mod_eq_of_lt h]
  simp only [Binary.ofBits, hdiv, hmod]

/-- Two doubles with neighbouring bits: the second one has the next significand, or, with a carry,
the least normal one and the next exponent. -/
theorem ofBits_succ (bits : Nat) :
    let b := Binary.ofBits bits
    let next := Binary.ofBits (bits + 1)
    next.significand = b.significand + 1 ∧ next.exponent = b.exponent ∧
        (next.significand = leastNormal → next.exponent = -1074) ∨
      b.significand + 1 = 2 * leastNormal ∧ next.significand = leastNormal ∧
        next.exponent = b.exponent + 1 ∧ -1074 < next.exponent := by
  have hpos := leastNormal_pos
  obtain ⟨e, f, hf, rfl⟩ : ∃ e f, f < leastNormal ∧ bits = e * leastNormal + f :=
    ⟨bits / leastNormal, bits % leastNormal, Nat.mod_lt _ hpos, (Nat.div_add_mod' _ _).symm⟩
  rw [ofBits_mul_add e hf]
  by_cases hcarry : f + 1 < leastNormal
  · rw [Nat.add_assoc, ofBits_mul_add e hcarry]
    left
    by_cases he : e = 0
    · simp [he]
    · simp only [he, if_false]
      exact ⟨by omega, trivial, fun h => by omega⟩
  · have hnext : e * leastNormal + f + 1 = (e + 1) * leastNormal + 0 := by
      rw [Nat.succ_mul]
      omega
    rw [hnext, ofBits_mul_add (e + 1) hpos, if_neg (Nat.succ_ne_zero e)]
    by_cases he : e = 0
    · left
      simp only [he, if_true]
      refine ⟨by omega, rfl, fun _ => rfl⟩
    · right
      simp only [he, if_false, Int.ofNat_eq_natCast]
      omega

/-- The next double is a unit of the last place greater. -/
theorem value_succ (bits : Nat) :
    (Binary.ofBits (bits + 1)).value =
      (Binary.ofBits bits).value + 2 ^ (Binary.ofBits bits).exponent := by
  rcases ofBits_succ bits with ⟨hsignificand, hexponent, -⟩ | ⟨hcarry, hsignificand, hexponent, -⟩
  · rw [Binary.value, Binary.value, hsignificand, hexponent]
    push_cast
    ring
  · have hcast : ((Binary.ofBits bits).significand : ℚ) + 1 = 2 * leastNormal := by
      exact_mod_cast hcarry
    rw [Binary.value, Binary.value, hsignificand, hexponent, zpow_add_one₀ (by norm_num)]
    linear_combination (-2 ^ (Binary.ofBits bits).exponent : ℚ) * hcast

/-- Greater bits make a greater double. -/
theorem value_strictMono : StrictMono fun bits => (Binary.ofBits bits).value := by
  refine strictMono_nat_of_lt_succ fun bits => ?_
  rw [value_succ]
  exact lt_add_of_pos_right _ (two_zpow_pos _)

/-! ## The numbers that round to a double -/

/-- A number is in an interval. -/
def Interval.Holds (i : Interval) (r : ℚ) : Prop :=
  (i.low ≤ r * i.unit ∧ r * i.unit ≤ i.high) ∧
    (i.closed = true ∨ i.low < r * i.unit ∧ r * i.unit < i.high)

/-- What is between two numbers of an interval is in it. -/
theorem Interval.Holds.between {i : Interval} {r s t : ℚ} (hr : i.Holds r) (ht : i.Holds t)
    (hrs : r ≤ s) (hst : s ≤ t) : i.Holds s := by
  have hunit : (0 : ℚ) ≤ i.unit := Nat.cast_nonneg _
  have hlow : r * i.unit ≤ s * i.unit := mul_le_mul_of_nonneg_right hrs hunit
  have hhigh : s * i.unit ≤ t * i.unit := mul_le_mul_of_nonneg_right hst hunit
  refine ⟨⟨hr.1.1.trans hlow, hhigh.trans ht.1.2⟩, ?_⟩
  rcases hr.2 with hclosed | ⟨hr, -⟩
  · exact .inl hclosed
  · exact ht.2.imp_right fun ht => ⟨hr.trans_le hlow, hhigh.trans_lt ht.2⟩

/-- The test of an interval decides whether a fraction is in it. -/
theorem contains_iff (i : Interval) (num : Nat) {den : Nat} (hden : 0 < den) :
    i.contains num den = true ↔ i.Holds (num / den) := by
  have hpos : (0 : ℚ) < den := Nat.cast_pos.2 hden
  have hvalue : (num / den : ℚ) * i.unit = (num * i.unit : Nat) / den := by
    push_cast
    ring
  have hle (bound : Nat) : (bound : ℚ) ≤ (num * i.unit : Nat) / den ↔
      bound * den ≤ num * i.unit := by
    rw [le_div_iff₀ hpos]
    exact_mod_cast Iff.rfl
  have hge (bound : Nat) : (num * i.unit : Nat) / den ≤ (bound : ℚ) ↔
      num * i.unit ≤ bound * den := by
    rw [div_le_iff₀ hpos]
    exact_mod_cast Iff.rfl
  have hlt (bound : Nat) : (bound : ℚ) < (num * i.unit : Nat) / den ↔
      bound * den < num * i.unit := by
    rw [lt_div_iff₀ hpos]
    exact_mod_cast Iff.rfl
  have hgt (bound : Nat) : (num * i.unit : Nat) / den < (bound : ℚ) ↔
      num * i.unit < bound * den := by
    rw [div_lt_iff₀ hpos]
    exact_mod_cast Iff.rfl
  rw [Interval.Holds, hvalue, hle, hge, hlt, hgt, Interval.contains]
  cases i.closed
  · simp only [Bool.false_eq_true, if_false, false_or, Bool.and_eq_true, decide_eq_true_eq]
    omega
  · simp

/-- Of two numbers, the one on whose side of the middle another number is, is no further from it. -/
theorem abs_sub_le_abs_sub {r v w : ℚ} (h : v < w ∧ 2 * r ≤ v + w ∨ w < v ∧ v + w ≤ 2 * r) :
    |r - v| ≤ |r - w| := by
  rcases h with ⟨hlt, hmiddle⟩ | ⟨hlt, hmiddle⟩
  · exact (abs_le.2 ⟨by linarith, by linarith⟩).trans (neg_le_abs (r - w))
  · exact (abs_le.2 ⟨by linarith, by linarith⟩).trans (le_abs_self (r - w))

/-- A number that is as far from one number as from another is in their middle. -/
theorem eq_middle_of_abs_sub_eq {r v w : ℚ} (hne : v ≠ w) (h : |r - v| = |r - w|) :
    2 * r = v + w := by
  rcases abs_eq_abs.1 h with h | h
  · exact absurd (by linarith) hne
  · linarith

theorem interval_unit_pos (b : Binary) : 0 < b.interval.unit := by
  simp only [Binary.interval]
  split
  · exact Nat.one_pos
  · exact Nat.two_pow_pos _

/-- The interval of a double is told in quarters of its last place: two of them to each neighbour,
but one below a power of two. -/
theorem interval_eq (b : Binary) :
    ∃ quarter : ℚ, 4 * quarter = 2 ^ b.exponent * b.interval.unit ∧
      b.interval.low = ((4 * b.significand -
        if b.significand = leastNormal ∧ -1074 < b.exponent then 1 else 2 : Nat) : ℚ) * quarter ∧
      b.interval.value = 4 * b.significand * quarter ∧
      b.interval.high = (4 * b.significand + 2) * quarter := by
  have hsplit : (2 : ℚ) ^ b.exponent = 4 * 2 ^ (b.exponent - 2) := by
    rw [zpow_sub₀ (by norm_num)]
    ring
  simp only [Binary.interval]
  by_cases hq : 0 ≤ b.exponent - 2
  · obtain ⟨n, hn⟩ := Int.eq_ofNat_of_zero_le hq
    refine ⟨2 ^ n, ?_, ?_⟩
    · rw [hsplit, if_pos hq, hn, zpow_natCast, Nat.cast_one, mul_one]
    · simp [hn, twoTo]
  · obtain ⟨n, hn⟩ : ∃ n : Nat, b.exponent - 2 = -n := ⟨(2 - b.exponent).toNat, by omega⟩
    refine ⟨1, ?_, ?_⟩
    · have hpower : (2 : ℚ) ^ n ≠ 0 := pow_ne_zero n (by norm_num)
      have hunit : twoTo n = 2 ^ n := rfl
      rw [hsplit, if_neg hq, hn, neg_neg, Int.toNat_natCast, hunit, zpow_neg, zpow_natCast]
      push_cast
      field_simp
    · rw [if_neg hq, Nat.mul_one, Nat.mul_one, Nat.mul_one]
      push_cast
      exact ⟨(mul_one _).symm, (mul_one _).symm, (mul_one _).symm⟩

/-- The ends of the interval of a double are in the middle between it and its neighbours. -/
theorem interval_ends (bits : Nat) :
    let i := (Binary.ofBits (bits + 1)).interval
    2 * (i.low : ℚ) =
        ((Binary.ofBits bits).value + (Binary.ofBits (bits + 1)).value) * i.unit ∧
      2 * (i.high : ℚ) =
        ((Binary.ofBits (bits + 1)).value + (Binary.ofBits (bits + 2)).value) * i.unit := by
  intro i
  obtain ⟨quarter, hquarter, hlow, -, hhigh⟩ := interval_eq (Binary.ofBits (bits + 1))
  have hnext := value_succ (bits + 1)
  have hbefore := value_succ bits
  have hvalue : (Binary.ofBits (bits + 1)).value * i.unit =
      4 * (Binary.ofBits (bits + 1)).significand * quarter := by
    rw [Binary.value]
    linear_combination (-(Binary.ofBits (bits + 1)).significand : ℚ) * hquarter
  constructor
  · rcases ofBits_succ bits with ⟨hsignificand, hexponent, hleast⟩ |
      ⟨-, hsignificand, hexponent, hnormal⟩
    · rw [if_neg fun h => absurd (hleast h.1) (by omega), Nat.cast_sub (by omega)] at hlow
      push_cast at hlow
      rw [hexponent] at hquarter
      rw [hlow]
      linear_combination (-2 : ℚ) * hvalue + i.unit * hbefore - hquarter
    · rw [if_pos ⟨hsignificand, hnormal⟩, Nat.cast_sub (by rw [hsignificand]; decide)] at hlow
      push_cast at hlow
      rw [hexponent, zpow_add_one₀ (by norm_num)] at hquarter
      rw [hlow]
      linear_combination (-2 : ℚ) * hvalue + i.unit * hbefore - hquarter / 2
  · rw [hhigh]
    linear_combination (-2 : ℚ) * hvalue - i.unit * hnext + hquarter

/-- The numbers of its interval round to a double. -/
theorem roundsTo_of_holds {bits : Nat} (hbits : bits ≠ 0) {r : ℚ}
    (h : (Binary.ofBits bits).interval.Holds r) : RoundsTo r bits := by
  obtain ⟨before, rfl⟩ := Nat.exists_eq_succ_of_ne_zero hbits
  obtain ⟨hlow, hhigh⟩ := interval_ends before
  have hunit : (0 : ℚ) < (Binary.ofBits (before + 1)).interval.unit :=
    Nat.cast_pos.2 (interval_unit_pos _)
  obtain ⟨⟨hfrom, hto⟩, hends⟩ := h
  intro other _ hne
  -- from the ends of the interval to the neighbours, and from these to all other doubles
  have hbelow (hless : other < before + 1) :
      (Binary.ofBits other).value ≤ (Binary.ofBits before).value :=
    value_strictMono.monotone (Nat.le_of_lt_succ hless)
  have habove (hmore : before + 1 < other) :
      (Binary.ofBits (before + 2)).value ≤ (Binary.ofBits other).value :=
    value_strictMono.monotone hmore
  have hlower : (Binary.ofBits before).value + (Binary.ofBits (before + 1)).value ≤ 2 * r := by
    refine le_of_mul_le_mul_right ?_ hunit
    linarith
  have hupper :
      2 * r ≤ (Binary.ofBits (before + 1)).value + (Binary.ofBits (before + 2)).value := by
    refine le_of_mul_le_mul_right ?_ hunit
    linarith
  have hmiddle : (Binary.ofBits (before + 1)).value < (Binary.ofBits other).value ∧
        2 * r ≤ (Binary.ofBits (before + 1)).value + (Binary.ofBits other).value ∨
      (Binary.ofBits other).value < (Binary.ofBits (before + 1)).value ∧
        (Binary.ofBits (before + 1)).value + (Binary.ofBits other).value ≤ 2 * r := by
    rcases Nat.lt_or_gt_of_ne hne with hless | hmore
    · exact .inr ⟨value_strictMono hless, by linarith [hbelow hless]⟩
    · exact .inl ⟨value_strictMono hmore, by linarith [habove hmore]⟩
  refine (abs_sub_le_abs_sub hmiddle).lt_or_eq.imp_right fun heq => ⟨heq, ?_⟩
  rcases hends with hclosed | ⟨hfrom, hto⟩
  · exact beq_iff_eq.1 hclosed
  · -- as far from a neighbour, it would be an end of the interval
    have hexact := eq_middle_of_abs_sub_eq (value_strictMono.injective.ne hne.symm) heq
    exfalso
    rcases Nat.lt_or_gt_of_ne hne with hless | hmore
    · have hend : 2 * r * (Binary.ofBits (before + 1)).interval.unit ≤
          2 * (Binary.ofBits (before + 1)).interval.low := by
        rw [hlow]
        exact mul_le_mul_of_nonneg_right (by linarith [hbelow hless]) hunit.le
      linarith
    · have hend : 2 * ((Binary.ofBits (before + 1)).interval.high : ℚ) ≤
          2 * r * (Binary.ofBits (before + 1)).interval.unit := by
        rw [hhigh]
        exact mul_le_mul_of_nonneg_right (by linarith [habove hmore]) hunit.le
      linarith

/-! ## Decimals in an interval -/

/-- A fraction of powers of ten with a grid. -/
theorem holds_grid_iff (i : Interval) (g : Int) (k : Nat) :
    (if 0 ≤ g then i.contains (k * tenTo g.toNat) 1 else i.contains k (tenTo (-g).toNat)) = true ↔
      i.Holds (k * 10 ^ g) := by
  have hten (n : Nat) : tenTo n = 10 ^ n := rfl
  by_cases hg : 0 ≤ g
  · obtain ⟨n, rfl⟩ := Int.eq_ofNat_of_zero_le hg
    rw [if_pos hg, contains_iff i _ Nat.one_pos, hten, Int.toNat_natCast, zpow_natCast]
    push_cast
    rw [div_one]
  · obtain ⟨n, rfl⟩ : ∃ n : Nat, g = -n := ⟨(-g).toNat, by omega⟩
    rw [if_neg hg, hten, contains_iff i _ (Nat.pow_pos (by decide)), neg_neg, Int.toNat_natCast,
      zpow_neg, zpow_natCast]
    push_cast
    rw [div_eq_mul_inv]

/-- The whole number below a value on a grid. -/
theorem floor_grid (i : Interval) (hunit : 0 < i.unit) (g : Int) :
    let num := if 0 ≤ g then i.value else i.value * tenTo (-g).toNat
    let den := if 0 ≤ g then i.unit * tenTo g.toNat else i.unit
    (num / den : Nat) * 10 ^ g ≤ (i.value / i.unit : ℚ) ∧
      (i.value / i.unit : ℚ) < ((num / den : Nat) + 1) * 10 ^ g := by
  intro num den
  have hden : 0 < den := by
    simp only [den]
    split
    · exact Nat.mul_pos hunit (Nat.pow_pos (by decide))
    · exact hunit
  have hratio : (i.value / i.unit : ℚ) = num / den * 10 ^ g := by
    have hten (n : Nat) : tenTo n = 10 ^ n := rfl
    by_cases hg : 0 ≤ g
    · obtain ⟨n, rfl⟩ := Int.eq_ofNat_of_zero_le hg
      simp only [num, den, if_pos hg, hten, Int.toNat_natCast, zpow_natCast]
      push_cast
      field_simp
    · obtain ⟨n, rfl⟩ : ∃ n : Nat, g = -n := ⟨(-g).toNat, by omega⟩
      simp only [num, den, if_neg hg, hten, neg_neg, Int.toNat_natCast, zpow_neg, zpow_natCast]
      push_cast
      field_simp
  have hpower := ten_zpow_pos g
  rw [hratio]
  constructor
  · exact mul_le_mul_of_nonneg_right Nat.cast_div_le hpower.le
  · refine mul_lt_mul_of_pos_right ?_ hpower
    rw [div_lt_iff₀ (Nat.cast_pos.2 hden)]
    exact_mod_cast (Nat.div_lt_iff_lt_mul hden).1 (Nat.lt_succ_self (num / den))

/-- A neighbour on a grid is in the interval, and is not zero. -/
theorem holds_of_onGrid? {i : Interval} {g : Int} {d : Nat} (h : i.onGrid? g = some d) :
    0 < d ∧ i.Holds (d * 10 ^ g) := by
  unfold Interval.onGrid? at h
  extract_lets num den c r inside at h
  have hinside (k : Nat) : inside k = true ↔ i.Holds (k * 10 ^ g) := holds_grid_iff i g k
  have hlow (hc : (decide (0 < c) && inside c) = true) : 0 < c ∧ i.Holds (c * 10 ^ g) := by
    rw [Bool.and_eq_true, decide_eq_true_eq, hinside] at hc
    exact hc
  have hnext (hc : inside (c + 1) = true) : 0 < c + 1 ∧ i.Holds ((c + 1 : Nat) * 10 ^ g) :=
    ⟨Nat.succ_pos c, (hinside _).1 hc⟩
  split at h
  case h_1 => cases h
  case h_2 hc _ =>
    obtain rfl := Option.some.inj h
    exact hlow hc
  case h_3 hc =>
    obtain rfl := Option.some.inj h
    exact hnext hc
  case h_4 hc hc' =>
    split at h
    · obtain rfl := Option.some.inj h
      exact hlow hc
    · split at h
      · obtain rfl := Option.some.inj h
        exact hnext hc'
      · -- the even one of two, which both are in the interval
        obtain rfl := Option.some.inj h
        rcases Nat.mod_two_eq_zero_or_one c with heven | hodd
        · rw [heven, Nat.add_zero]
          exact hlow hc
        · rw [hodd]
          exact hnext hc'

/-- If anything of a grid is in the interval of a double, a neighbour of the double is. -/
theorem onGrid?_isSome {i : Interval} (hunit : 0 < i.unit) (hvalue : i.Holds (i.value / i.unit))
    {g : Int} {k : Nat} (hk : 0 < k) (h : i.Holds (k * 10 ^ g)) : (i.onGrid? g).isSome = true := by
  unfold Interval.onGrid?
  extract_lets num den c r inside
  obtain ⟨hbelow, habove⟩ : c * 10 ^ g ≤ (i.value / i.unit : ℚ) ∧
      (i.value / i.unit : ℚ) < (c + 1) * 10 ^ g := floor_grid i hunit g
  have hinside (k : Nat) : inside k = true ↔ i.Holds (k * 10 ^ g) := holds_grid_iff i g k
  have hpower := ten_zpow_pos g
  have hsome : (decide (0 < c) && inside c) = true ∨ inside (c + 1) = true := by
    rcases Nat.lt_or_ge c k with hless | hle
    · right
      have hgrid : ((c + 1 : Nat) : ℚ) * 10 ^ g ≤ k * 10 ^ g :=
        mul_le_mul_of_nonneg_right (Nat.cast_le.2 hless) hpower.le
      refine (hinside _).2 (hvalue.between h ?_ hgrid)
      push_cast
      exact habove.le
    · left
      have hgrid : (k : ℚ) * 10 ^ g ≤ c * 10 ^ g :=
        mul_le_mul_of_nonneg_right (Nat.cast_le.2 hle) hpower.le
      rw [Bool.and_eq_true, decide_eq_true_eq, hinside]
      exact ⟨Nat.lt_of_lt_of_le hk hle, h.between hvalue hgrid hbelow⟩
  split
  case h_1 hc hc' =>
    rcases hsome with h | h
    · rw [hc] at h
      cases h
    · rw [hc'] at h
      cases h
  case h_2 => rfl
  case h_3 => rfl
  case h_4 =>
    split
    · rfl
    · split
      all_goals rfl

/-! ## Seventeen digits -/

/-- A number has as many digits as there are powers of ten up to it. -/
theorem length_toDigits_spec {n : Nat} (h : n ≠ 0) :
    ∃ k, (Nat.toDigits 10 n).length = k + 1 ∧ 10 ^ k ≤ n ∧ n < 10 ^ (k + 1) := by
  induction n using Nat.strong_induction_on with
  | _ n ih =>
    by_cases hsmall : n < 10
    · rw [Nat.toDigits_of_lt_base hsmall]
      exact ⟨0, rfl, by omega, by omega⟩
    · obtain ⟨k, hlength, hfrom, hto⟩ := ih (n / 10) (by omega) (by omega)
      rw [Nat.toDigits_of_base_le (by decide) (Nat.le_of_not_lt hsmall), List.length_append,
        hlength]
      refine ⟨k + 1, rfl, ?_, ?_⟩
      · rw [pow_succ]
        omega
      · rw [pow_succ]
        omega

/-- The decimal point of a fraction stands behind a power of ten that is not greater. -/
theorem pow_decimalPoint_le {num den : Nat} (hnum : 0 < num) (hden : 0 < den) :
    (10 : ℚ) ^ (decimalPoint num den - 1) ≤ num / den := by
  have hpos : (0 : ℚ) < den := Nat.cast_pos.2 hden
  rw [decimalPoint, le_div_iff₀ hpos]
  split
  case isTrue hle =>
    obtain ⟨k, hlength, hfrom, -⟩ :=
      length_toDigits_spec (Nat.pos_iff_ne_zero.1 (Nat.div_pos hle hden))
    have hpower : 10 ^ k * den ≤ num := (Nat.le_div_iff_mul_le hden).1 hfrom
    rw [hlength, Nat.cast_succ, add_sub_cancel_right, zpow_natCast]
    exact_mod_cast hpower
  case isFalse hlt =>
    obtain ⟨k, hlength, -, hto⟩ :=
      length_toDigits_spec (Nat.pos_iff_ne_zero.1 (Nat.div_pos (Nat.le_of_not_le hlt) hnum))
    have hten (n : Nat) : tenTo n = 10 ^ n := rfl
    have hpower : den < num * 10 ^ (k + 1) := by
      rw [Nat.mul_comm]
      exact (Nat.div_lt_iff_lt_mul hnum).1 hto
    simp only [hlength, hten, Nat.add_sub_cancel]
    split
    case isTrue hexact =>
      have hexponent : 2 - ((k + 1 : Nat) : ℤ) - 1 = -k := by omega
      rw [hexponent, zpow_neg, zpow_natCast, inv_mul_le_iff₀ (pow_pos (by norm_num) k), mul_comm]
      exact_mod_cast hexact.ge
    case isFalse =>
      have hexponent : 1 - ((k + 1 : Nat) : ℤ) - 1 = -(k + 1 : Nat) := by omega
      rw [hexponent, zpow_neg, zpow_natCast, inv_mul_le_iff₀ (pow_pos (by norm_num) (k + 1)),
        mul_comm]
      exact_mod_cast hpower.le

theorem significand_lt (bits : Nat) : (Binary.ofBits bits).significand < 2 * leastNormal := by
  have hrest : bits % leastNormal < leastNormal := Nat.mod_lt _ leastNormal_pos
  simp only [Binary.ofBits]
  split
  all_goals
    simp only
    omega

/-- Only zero has no significand. -/
theorem significand_pos {bits : Nat} (hbits : bits ≠ 0) :
    0 < (Binary.ofBits bits).significand := by
  obtain ⟨before, rfl⟩ := Nat.exists_eq_succ_of_ne_zero hbits
  rcases ofBits_succ before with ⟨hsignificand, -⟩ | ⟨-, hsignificand, -⟩
  · rw [hsignificand]
    exact Nat.succ_pos _
  · rw [hsignificand]
    exact leastNormal_pos

/-- The interval of a double is wider than the seventeenth digit, and the double is in it. -/
theorem interval_wide {bits : Nat} (hbits : bits ≠ 0) :
    let i := (Binary.ofBits bits).interval
    (0 : ℚ) < i.low ∧ (i.low : ℚ) < i.value ∧ (i.value : ℚ) < i.high ∧
      (i.value : ℚ) < (i.high - i.low) * 10 ^ 16 := by
  intro i
  obtain ⟨quarter, hquarter, hlow, hvalue, hhigh⟩ := interval_eq (Binary.ofBits bits)
  have hunit : (0 : ℚ) < i.unit := Nat.cast_pos.2 (interval_unit_pos _)
  have hpos : 0 < quarter := by
    have hproduct := mul_pos (two_zpow_pos (Binary.ofBits bits).exponent) hunit
    linarith
  have hleast : (leastNormal : ℚ) = 4503599627370496 := by
    norm_num [leastNormal]
  have hsome : 0 < (Binary.ofBits bits).significand := significand_pos hbits
  have hfrom : (1 : ℚ) ≤ (Binary.ofBits bits).significand := Nat.one_le_cast.2 hsome
  have hto : ((Binary.ofBits bits).significand : ℚ) < 2 * leastNormal := by
    exact_mod_cast significand_lt bits
  rw [hleast] at hto
  rw [hlow, hvalue, hhigh]
  split
  case isTrue h =>
    have hsignificand : ((Binary.ofBits bits).significand : ℚ) = 4503599627370496 := by
      rw [h.1, hleast]
    rw [Nat.cast_sub (by omega)]
    push_cast
    rw [hsignificand]
    refine ⟨?_, ?_, ?_, ?_⟩
    all_goals linarith
  case isFalse =>
    rw [Nat.cast_sub (by omega)]
    push_cast
    refine ⟨mul_pos (by linarith) hpos, mul_lt_mul_of_pos_right (by linarith) hpos,
      mul_lt_mul_of_pos_right (by linarith) hpos, ?_⟩
    have hmany : 4 * ((Binary.ofBits bits).significand : ℚ) < 4 * 10 ^ 16 := by linarith
    linarith [mul_lt_mul_of_pos_right hmany hpos]

/-- Seventeen digits are enough: a decimal of so many places is in the interval of a double. -/
theorem exists_holds {bits : Nat} (hbits : bits ≠ 0) :
    let i := (Binary.ofBits bits).interval
    ∃ k : Nat, 0 < k ∧ i.Holds (k * 10 ^ (decimalPoint i.value i.unit - 17)) := by
  intro i
  obtain ⟨hpos, hlow, -, hwide⟩ := interval_wide hbits
  have hunit : 0 < i.unit := interval_unit_pos _
  have hvalue : 0 < i.value := Nat.cast_pos.1 (hpos.trans hlow)
  have hunitCast : (0 : ℚ) < i.unit := Nat.cast_pos.2 hunit
  -- a step of the grid, over the unit of the interval
  obtain ⟨step, hstep⟩ : ∃ step : ℚ, step = 10 ^ (decimalPoint i.value i.unit - 17) * i.unit :=
    ⟨_, rfl⟩
  have hstepPos : 0 < step := hstep ▸ mul_pos (ten_zpow_pos _) hunitCast
  have hsmall : step * 10 ^ 16 ≤ i.value := by
    have hpoint := (le_div_iff₀ hunitCast).1 (pow_decimalPoint_le hvalue hunit)
    have hexponent : decimalPoint i.value i.unit - 1 =
        decimalPoint i.value i.unit - 17 + (16 : Nat) := by
      push_cast
      ring
    rw [hexponent, zpow_add₀ (by norm_num), zpow_natCast] at hpoint
    rw [hstep]
    linarith
  have hnarrow : step < i.high - i.low := by linarith
  refine ⟨⌊i.low / step⌋₊ + 1, Nat.succ_pos _, ?_⟩
  have hbelow : (⌊i.low / step⌋₊ : ℚ) * step ≤ i.low :=
    (le_div_iff₀ hstepPos).1 (Nat.floor_le (div_pos hpos hstepPos).le)
  have habove : (i.low : ℚ) < (⌊i.low / step⌋₊ + 1) * step :=
    (div_lt_iff₀ hstepPos).1 (Nat.lt_floor_add_one _)
  have hinside : (i.low : ℚ) < ((⌊i.low / step⌋₊ + 1 : Nat) : ℚ) *
        10 ^ (decimalPoint i.value i.unit - 17) * i.unit ∧
      ((⌊i.low / step⌋₊ + 1 : Nat) : ℚ) * 10 ^ (decimalPoint i.value i.unit - 17) * i.unit <
        i.high := by
    rw [mul_assoc, ← hstep]
    push_cast
    exact ⟨habove, by linarith⟩
  exact ⟨⟨hinside.1.le, hinside.2.le⟩, .inr hinside⟩

/-! ## The shortest digits -/

/-- A zero moved into the exponent changes no value. -/
theorem value_normalize (d : Digits) (fuel : Nat) : (d.normalize fuel).value = d.value := by
  induction fuel generalizing d with
  | zero => rfl
  | succ fuel ih =>
    rw [Digits.normalize]
    split
    · next h =>
      have hdigits : (d.digits : ℚ) = 10 * (d.digits / 10 : Nat) := by
        exact_mod_cast (Nat.mul_div_cancel' (Nat.dvd_of_mod_eq_zero h.2)).symm
      rw [ih, Digits.value, Digits.value, hdigits, zpow_add_one₀ (by norm_num)]
      ring
    · rfl

/-- A zero moved into the exponent makes no number zero. -/
theorem digits_normalize_pos {d : Digits} (h : 0 < d.digits) (fuel : Nat) :
    0 < (d.normalize fuel).digits := by
  induction fuel generalizing d with
  | zero => exact h
  | succ fuel ih =>
    rw [Digits.normalize]
    split
    · next hzero =>
      have hten : 0 < d.digits / 10 := by omega
      exact ih hten
    · exact h

/-- **The shortest digits of a double make a positive decimal that rounds to the double.** -/
theorem shortest_roundsTo {bits : Nat} (hbits : bits ≠ 0) :
    0 < (shortest bits).digits ∧ RoundsTo (shortest bits).value bits := by
  obtain ⟨hpos, hlow, hhigh, -⟩ := interval_wide hbits
  obtain ⟨k, hk, hholds⟩ := exists_holds hbits
  unfold shortest
  extract_lets i p found
  have hunit : 0 < i.unit := interval_unit_pos _
  have hvalue : i.Holds (i.value / i.unit) := by
    have hcancel : (i.value / i.unit : ℚ) * i.unit = i.value :=
      div_mul_cancel₀ _ (Nat.cast_ne_zero.2 hunit.ne')
    rw [Interval.Holds, hcancel]
    exact ⟨⟨hlow.le, hhigh.le⟩, .inr ⟨hlow, hhigh⟩⟩
  have hfound : found.isSome = true := by
    refine List.findSome?_isSome_iff.2 ⟨16, List.mem_range.2 (by decide), ?_⟩
    rw [Option.isSome_map]
    exact onGrid?_isSome hunit hvalue hk hholds
  obtain ⟨d, hd⟩ := Option.isSome_iff_exists.1 hfound
  obtain ⟨place, -, hplace⟩ := List.exists_of_findSome?_eq_some hd
  obtain ⟨c, hc, rfl⟩ := Option.map_eq_some_iff.1 hplace
  obtain ⟨hcpos, hcholds⟩ := holds_of_onGrid? hc
  rw [hd]
  refine ⟨digits_normalize_pos hcpos 17, ?_⟩
  rw [value_normalize]
  exact roundsTo_of_holds hbits hcholds

/-- The double nearest to a tenth. -/
example : shortest 0x3fb999999999999a = ⟨1, -1⟩ := by
  decide +kernel

/-- Zero rounds to zero. -/
theorem zero_roundsTo : RoundsTo 0 0 := by
  intro other _ hne
  have hzero : (Binary.ofBits 0).value = 0 := by
    norm_num [Binary.value, Binary.ofBits]
  have hmore : 0 < (Binary.ofBits other).value := by
    rw [← hzero]
    exact value_strictMono (Nat.pos_of_ne_zero hne)
  left
  rw [hzero, zero_sub, zero_sub, neg_zero, abs_zero, abs_neg, abs_of_pos hmore]
  exact hmore

end LinkWatch.Decimal

namespace LinkWatch.Json

open LinkWatch.Decimal

/-! ## Doubles in documents -/

/-- The value of an exponent. -/
def Exponent.value (e : Exponent) : Int :=
  if e.sign = some '-' then -(digitsValue e.digits : Int) else digitsValue e.digits

/-- The value of a number without its sign. -/
def Numeral.value (n : Numeral) : ℚ :=
  digitsValue (n.whole ++ n.fraction.getD []) *
    10 ^ (n.exponent.elim 0 Exponent.value - (n.fraction.getD []).length)

/-- Digits behind others move these to the left. -/
theorem digitsValue_append (cs ds : List Char) :
    digitsValue (cs ++ ds) = digitsValue cs * 10 ^ ds.length + digitsValue ds := by
  induction ds using List.reverseRecOn with
  | nil => simp [digitsValue]
  | append_singleton ds d ih =>
    have hlast (es : List Char) : digitsValue (es ++ [d]) = digitsValue es * 10 + digitValue d := by
      simp [digitsValue]
    rw [← List.append_assoc, hlast, hlast, ih, List.length_append, List.length_singleton, pow_succ]
    ring

theorem digitsValue_zeros (n : Nat) : digitsValue (List.replicate n '0') = 0 := by
  induction n with
  | zero => rfl
  | succ n ih =>
    rw [List.replicate_succ', digitsValue_append, ih]
    rfl

/-- Zeros behind a number are powers of ten. -/
theorem digitsValue_append_zeros (cs : List Char) (n : Nat) :
    digitsValue (cs ++ List.replicate n '0') = digitsValue cs * 10 ^ n := by
  rw [digitsValue_append, digitsValue_zeros, List.length_replicate, Nat.add_zero]

/-- Zeros before a number change nothing. -/
theorem digitsValue_zeros_append (n : Nat) (cs : List Char) :
    digitsValue (List.replicate n '0' ++ cs) = digitsValue cs := by
  rw [digitsValue_append, digitsValue_zeros, Nat.zero_mul, Nat.zero_add]

/-! ## How a decimal is written -/

/-- The ways in which digits with an exponent are written. -/
inductive Writes (negative : Bool) (digits : List Char) : Int → Numeral → Prop where
  /-- All digits and some zeros before the point. -/
  | whole (zeros : Nat) :
      Writes negative digits zeros
        ⟨negative, digits ++ List.replicate zeros '0', some ['0'], none⟩
  /-- The point among the digits. -/
  | pointed {before after : List Char} :
      before ++ after = digits → before ≠ [] → after ≠ [] →
        Writes negative digits (-(after.length : Int)) ⟨negative, before, some after, none⟩
  /-- All digits and some zeros behind the point. -/
  | fraction (zeros : Nat) :
      Writes negative digits (-(zeros + digits.length : Nat))
        ⟨negative, ['0'], some (List.replicate zeros '0' ++ digits), none⟩
  /-- One digit before the point, and a signed exponent. -/
  | scaled {first : Char} {rest : List Char} {fraction : Option (List Char)} (e : Int) :
      digits = first :: rest → fraction.getD [] = rest → fraction ≠ some [] →
        Writes negative digits (e - rest.length)
          ⟨negative, [first], fraction,
            some ⟨'e', some (if e < 0 then '-' else '+'), Nat.toDigits 10 e.natAbs⟩⟩

/-- A decimal is written in one of the ways. -/
theorem writes_ofDecimal (negative : Bool) (d : Digits) :
    Writes negative (Nat.toDigits 10 d.digits) d.exponent (Numeral.ofDecimal negative d) := by
  unfold Numeral.ofDecimal
  extract_lets written point exponent taken whole dropped tail sign
  have hpoint : point = d.exponent + written.length := rfl
  obtain ⟨first, rest, hwritten⟩ : ∃ first rest, written = first :: rest :=
    List.exists_cons_of_ne_nil Nat.toDigits_ne_nil
  split
  case isTrue =>
    split
    case isTrue hpos =>
      by_cases hlong : written.length ≤ point.toNat
      · have hdropped : dropped = [] := List.drop_eq_nil_of_le hlong
        have htaken : taken = written := List.take_of_length_le hlong
        have hzeros : d.exponent = (point.toNat - written.length : Nat) := by omega
        simp only [whole, htaken]
        rw [if_pos hdropped, hzeros]
        exact .whole _
      · have hnone : point.toNat - written.length = 0 := by omega
        have hwhole : whole = taken := by
          simp only [whole, hnone, List.replicate_zero, List.append_nil]
        have hbefore : taken ≠ [] := by
          have hlength : taken.length = min point.toNat written.length := List.length_take
          rw [← List.length_pos_iff]
          omega
        have hafter : dropped ≠ [] := by
          have hlength : dropped.length = written.length - point.toNat := List.length_drop
          rw [← List.length_pos_iff]
          omega
        have hplaces : d.exponent = -(dropped.length : Int) := by
          rw [List.length_drop]
          omega
        rw [if_neg hafter, hwhole, hplaces]
        exact .pointed (List.take_append_drop _ _) hbefore hafter
    case isFalse =>
      have hplaces : d.exponent = -((-point).toNat + written.length : Nat) := by omega
      rw [hplaces]
      exact .fraction _
  case isFalse =>
    have hplaces : d.exponent = exponent - (rest.length : Int) := by
      have hlength : written.length = rest.length + 1 := congrArg List.length hwritten
      omega
    have htail : tail = rest := congrArg List.tail hwritten
    have htake : written.take 1 = [first] := congrArg (List.take 1) hwritten
    rw [hplaces, htail, htake]
    refine .scaled exponent hwritten ?_ ?_
    all_goals
      by_cases hrest : rest = []
      · simp [hrest]
      · simp [hrest]

/-- An exponent is written with its sign. -/
theorem value_signed (e : Int) :
    (Exponent.mk 'e' (some (if e < 0 then '-' else '+')) (Nat.toDigits 10 e.natAbs)).value = e := by
  rw [Exponent.value]
  by_cases he : e < 0
  · rw [if_pos he, if_pos rfl, digitsValue_toDigits]
    omega
  · have hplus : ¬some '+' = some '-' := by decide
    rw [if_neg he, if_neg hplus, digitsValue_toDigits]
    omega

/-- Digits are written with the sign that is asked for. -/
theorem negative_of_writes {negative : Bool} {digits : List Char} {exponent : Int} {n : Numeral}
    (h : Writes negative digits exponent n) : n.negative = negative := by
  cases h
  all_goals rfl

/-- What is written of digits has their value. -/
theorem value_of_writes {negative : Bool} {digits : List Char} {exponent : Int} {n : Numeral}
    (h : Writes negative digits exponent n) : n.value = digitsValue digits * 10 ^ exponent := by
  have hzero : ['0'] = List.replicate 1 '0' := rfl
  cases h
  case whole zeros =>
    rw [Numeral.value, Option.getD_some, hzero, digitsValue_append_zeros, digitsValue_append_zeros,
      Option.elim_none, zero_sub, List.length_replicate, zpow_natCast]
    push_cast
    rw [zpow_neg_one]
    field_simp
  case pointed before after hdigits _ _ =>
    rw [Numeral.value, Option.getD_some, hdigits, Option.elim_none, zero_sub]
  case fraction zeros =>
    rw [Numeral.value, Option.getD_some, hzero, digitsValue_zeros_append, digitsValue_zeros_append,
      Option.elim_none, zero_sub, List.length_append, List.length_replicate]
  case scaled first rest fraction e hdigits hfraction _ =>
    rw [Numeral.value, hfraction, List.singleton_append, ← hdigits, Option.elim_some, value_signed]

/-- What is written of digits that do not begin with a zero follows the grammar of numbers. -/
theorem isProper_of_writes {negative : Bool} {digits : List Char} {exponent : Int} {n : Numeral}
    (hdigits : isDigits digits = true) (hhead : digits.head? ≠ some '0')
    (h : Writes negative digits exponent n) : n.isProper = true := by
  obtain ⟨hne, hall⟩ := isDigits_iff.1 hdigits
  have hzeros (k : Nat) : ∀ c ∈ List.replicate k '0', c.isDigit = true := by
    intro c hc
    rw [List.eq_of_mem_replicate hc]
    rfl
  cases h
  case whole zeros =>
    have hwhole : isDigits (digits ++ List.replicate zeros '0') = true :=
      isDigits_iff.2 ⟨by simp [hne], List.forall_mem_append.2 ⟨hall, hzeros zeros⟩⟩
    have hlast : isDigits ['0'] = true := rfl
    obtain ⟨first, rest, rfl⟩ := List.exists_cons_of_ne_nil hne
    have hfirst : first ≠ '0' := fun heq => hhead (congrArg some heq)
    rw [List.cons_append] at hwhole
    simp [Numeral.isProper, hwhole, hfirst, hlast]
  case pointed before after hsplit hbefore hafter =>
    subst hsplit
    obtain ⟨hbeforeAll, hafterAll⟩ := List.forall_mem_append.1 hall
    rw [List.head?_append_of_ne_nil _ hbefore] at hhead
    have hwhole : isDigits before = true := isDigits_iff.2 ⟨hbefore, hbeforeAll⟩
    have hfraction : isDigits after = true := isDigits_iff.2 ⟨hafter, hafterAll⟩
    simp [Numeral.isProper, hwhole, hhead, hfraction]
  case fraction zeros =>
    have hfraction : isDigits (List.replicate zeros '0' ++ digits) = true :=
      isDigits_iff.2 ⟨by simp [hne], List.forall_mem_append.2 ⟨hzeros zeros, hall⟩⟩
    have hwhole : isDigits ['0'] = true := rfl
    simp [Numeral.isProper, hwhole, hfraction]
  case scaled first rest fraction e hsplit hrest hsome =>
    rw [hsplit] at hall
    obtain ⟨hfirst, hrestAll⟩ := List.forall_mem_cons.1 hall
    have hwhole : isDigits [first] = true :=
      isDigits_iff.2 ⟨List.cons_ne_nil _ _, List.forall_mem_singleton.2 hfirst⟩
    have hfraction : fraction.all isDigits = true := by
      cases fraction with
      | none => rfl
      | some after =>
        obtain rfl : after = rest := hrest
        exact isDigits_iff.2 ⟨fun hnone => hsome (congrArg some hnone), hrestAll⟩
    have hexponent : isDigits (Nat.toDigits 10 e.natAbs) = true :=
      isDigits_iff.2 ⟨Nat.toDigits_ne_nil, fun c hc => isDigit_of_mem_digits hc⟩
    have hsign : ((if e < 0 then '-' else '+') == '+' || (if e < 0 then '-' else '+') == '-') =
        true := by
      split
      all_goals rfl
    simp [Numeral.isProper, hwhole, hfraction, hexponent, hsign]

/-- A positive decimal is written by the grammar of numbers and with its value. -/
theorem ofDecimal_spec (negative : Bool) {d : Digits} (h : 0 < d.digits) :
    (Numeral.ofDecimal negative d).isProper = true ∧
      (Numeral.ofDecimal negative d).negative = negative ∧
      (Numeral.ofDecimal negative d).value = d.value := by
  have hwrites := writes_ofDecimal negative d
  have hdigits : isDigits (Nat.toDigits 10 d.digits) = true :=
    isDigits_iff.2 ⟨Nat.toDigits_ne_nil, fun c hc => isDigit_of_mem_digits hc⟩
  refine ⟨isProper_of_writes hdigits (head?_toDigits_ne_zero (Nat.pos_iff_ne_zero.1 h)) hwrites,
    negative_of_writes hwrites, ?_⟩
  rw [value_of_writes hwrites, digitsValue_toDigits, Digits.value]

/-- **A finite double is written as a number of its sign that rounds to it.** -/
theorem exists_ofFloat? {x : Float} (h : x.toBits.toNat % 2 ^ 63 < 0x7ff0000000000000) :
    ∃ n, Numeral.ofFloat? x = some n ∧ n.isProper = true ∧
      (n.negative = true ↔ 2 ^ 63 ≤ x.toBits.toNat) ∧
      RoundsTo n.value (x.toBits.toNat % 2 ^ 63) := by
  have hlt : x.toBits.toNat < 2 ^ 64 := x.toBits.toNat_lt
  have hsign : signBit = 2 ^ 63 := rfl
  have hinfinity : infinityBits = 0x7ff0000000000000 := rfl
  have hnegative : (x.toBits.toNat / 2 ^ 63 == 1) = true ↔ 2 ^ 63 ≤ x.toBits.toNat := by
    rw [beq_iff_eq]
    omega
  simp only [Numeral.ofFloat?, hsign, hinfinity]
  rw [if_neg (Nat.not_le_of_lt h)]
  by_cases hzero : x.toBits.toNat % 2 ^ 63 = 0
  · rw [if_pos hzero]
    refine ⟨_, rfl, ?_, hnegative, ?_⟩
    · cases x.toBits.toNat / 2 ^ 63 == 1 <;> rfl
    · have hvalue :
          (Numeral.mk (x.toBits.toNat / 2 ^ 63 == 1) ['0'] (some ['0']) none).value = 0 := by
        norm_num [Numeral.value, digitsValue, digitValue]
      rw [hvalue, hzero]
      exact zero_roundsTo
  · rw [if_neg hzero]
    obtain ⟨hpos, hrounds⟩ := shortest_roundsTo hzero
    obtain ⟨hproper, hsame, hvalue⟩ := ofDecimal_spec (x.toBits.toNat / 2 ^ 63 == 1) hpos
    refine ⟨_, rfl, hproper, ?_, ?_⟩
    · rw [hsame, hnegative]
    · rwa [hvalue]

/-- What is not finite is not written as a number. -/
theorem ofFloat?_eq_none {x : Float} (h : 0x7ff0000000000000 ≤ x.toBits.toNat % 2 ^ 63) :
    Numeral.ofFloat? x = none := by
  have hsign : signBit = 2 ^ 63 := rfl
  have hinfinity : infinityBits = 0x7ff0000000000000 := rfl
  simp only [Numeral.ofFloat?, hsign, hinfinity]
  rw [if_pos h]

end LinkWatch.Json
