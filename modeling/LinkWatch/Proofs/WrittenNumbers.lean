import LinkWatch.Json.Numeral
import LinkWatch.Toml.Document
import Mathlib.Data.Nat.Basic
import Mathlib.Data.Option.Basic

/-!
# Written numbers

A natural number is written with its decimal digits, of which only the zero itself begins with a
zero. A configuration text ends it with its line, so that it is taken for no date and for no number
with a fraction.
-/

namespace LinkWatch

/-! ## Digits -/

/-- A character for which a test holds is none for which it does not. -/
theorem ne_of_holds {test : Char → Bool} {c d : Char} (hc : test c = true) (hd : test d = false) :
    c ≠ d := by
  rintro rfl
  rw [hc] at hd
  cases hd

/-- Only the number zero begins with the digit zero. -/
theorem head?_toDigits_ne_zero {n : Nat} (h : n ≠ 0) :
    (Nat.toDigits 10 n).head? ≠ some '0' := by
  induction n using Nat.strong_induction_on with
  | _ n ih =>
    by_cases hsmall : n < 10
    · rw [Nat.toDigits_of_lt_base hsmall]
      simp [h]
    · have hfirst := ih (n / 10) (Nat.div_lt_self (by omega) (by decide)) (by omega)
      have hne : Nat.toDigits 10 (n / 10) ≠ [] := Nat.toDigits_ne_nil
      obtain ⟨d, ds, hdigits⟩ := List.exists_cons_of_ne_nil hne
      rw [hdigits] at hfirst
      rw [Nat.toDigits_of_base_le (by decide) (Nat.le_of_not_lt hsmall), hdigits]
      exact hfirst

theorem isDigit_of_mem_digits {n : Nat} {c : Char} (h : c ∈ Nat.toDigits 10 n) :
    c.isDigit = true :=
  Nat.isDigit_of_mem_toDigits (by decide) (by decide) h

theorem toNat_of_isDigit {c : Char} (h : c.isDigit = true) : 48 ≤ c.toNat ∧ c.toNat ≤ 57 := by
  simpa [Char.isDigit, UInt32.le_iff_toNat_le] using h

end LinkWatch

namespace LinkWatch.Toml

/-! ## Whole numbers in configuration texts -/

theorem digitValue?_of_isDigit {c : Char} (h : c.isDigit = true) :
    digitValue? c = some (c.toNat - '0'.toNat) := by
  rw [digitValue?, if_pos h]

/-- A digit is one of base ten. -/
theorem isDigitOf_ten {c : Char} (h : c.isDigit = true) : isDigitOf 10 c = true := by
  obtain ⟨-, hle⟩ := toNat_of_isDigit h
  have hzero : '0'.toNat = 48 := rfl
  rw [isDigitOf, digitValue?_of_isDigit h, Option.any_some, decide_eq_true_eq]
  omega

/-- Digits are read as the number that they write. -/
theorem numberOf_toDigits (n : Nat) : numberOf 10 (Nat.toDigits 10 n) = n := by
  have hfold : ∀ (cs : List Char) (init : Nat), (∀ c ∈ cs, c.isDigit = true) →
      cs.foldl (fun n c => n * 10 + (digitValue? c).getD 0) init = Nat.ofDigitChars 10 cs init := by
    intro cs
    induction cs with
    | nil => exact fun _ _ => rfl
    | cons c cs ih =>
      intro init hcs
      rw [List.foldl_cons, ih _ fun d hd => hcs d (List.mem_cons_of_mem c hd),
        digitValue?_of_isDigit (hcs c List.mem_cons_self), Nat.ofDigitChars_cons, Option.getD_some,
        Nat.mul_comm]
  rw [numberOf, hfold _ _ fun c hc => isDigit_of_mem_digits hc, Nat.ofDigitChars_ten_toDigits]

/-- Digits are read up to the end of their line. -/
theorem readDigits?_append {cs : List Char} (hne : cs ≠ []) (hcs : ∀ c ∈ cs, c.isDigit = true)
    (rest : List Char) : readDigits? 10 (cs ++ '\n' :: rest) = some (cs, '\n' :: rest) := by
  induction cs with
  | nil => exact absurd rfl hne
  | cons c cs ih =>
    have hc := isDigitOf_ten (hcs c List.mem_cons_self)
    cases cs with
    | nil =>
      rw [List.singleton_append, readDigits?, if_pos hc]
      · rfl
      · intro _ _ heq
        cases heq
    | cons d cs =>
      have hd := hcs d (by simp)
      have hrest := ih (List.cons_ne_nil d cs) fun x hx => hcs x (List.mem_cons_of_mem c hx)
      rw [List.cons_append] at hrest
      rw [List.cons_append, List.cons_append, readDigits?, if_pos hc, if_pos (isDigitOf_ten hd),
        hrest]
      · rfl
      · exact fun _ _ heq _ => ne_of_holds hd (by decide) heq

/-- The first digit of a number, and that it is zero in zero only. -/
theorem toDigits_cases (n : Nat) :
    Nat.toDigits 10 n = ['0'] ∨
      ∃ d ds, Nat.toDigits 10 n = d :: ds ∧ d ≠ '0' ∧ d.isDigit = true := by
  by_cases hn : n = 0
  · rw [hn]
    exact Or.inl rfl
  · have hhead := head?_toDigits_ne_zero hn
    cases hdigits : Nat.toDigits 10 n with
    | nil => exact absurd hdigits Nat.toDigits_ne_nil
    | cons d ds =>
      rw [hdigits, List.head?_cons] at hhead
      exact Or.inr ⟨d, ds, rfl, fun h => hhead (congrArg some h),
        isDigit_of_mem_digits (n := n) (hdigits ▸ List.mem_cons_self)⟩

/-- A number has a first digit. -/
theorem toDigits_eq_cons (n : Nat) :
    ∃ d ds, Nat.toDigits 10 n = d :: ds ∧ d.isDigit = true := by
  rcases toDigits_cases n with h | ⟨d, ds, h, -, hd⟩
  · exact ⟨'0', [], h, rfl⟩
  · exact ⟨d, ds, h, hd⟩

/-- The digits of a number are read up to the end of their line. -/
theorem readWhole?_toDigits (n : Nat) (rest : List Char) :
    readWhole? (Nat.toDigits 10 n ++ '\n' :: rest) = some (Nat.toDigits 10 n, '\n' :: rest) := by
  have hread := readDigits?_append (Nat.toDigits_ne_nil (b := 10) (n := n))
    (fun c hc => isDigit_of_mem_digits hc) rest
  rcases toDigits_cases n with h | ⟨d, ds, h, hzero, -⟩
  · rw [h]
    rfl
  · rw [h] at hread ⊢
    rw [List.cons_append, readWhole?, ← List.cons_append, hread]
    exact fun _ heq => hzero (List.cons.inj heq).1

/-- A digit is no sign. -/
theorem readSign_of_isDigit {c : Char} (h : c.isDigit = true) (cs : List Char) :
    readSign (c :: cs) = (false, c :: cs) := by
  rw [readSign]
  · exact fun _ heq => ne_of_holds h (by decide) (List.cons.inj heq).1
  · exact fun _ heq => ne_of_holds h (by decide) (List.cons.inj heq).1

theorem readSign_toDigits (n : Nat) (rest : List Char) :
    readSign (Nat.toDigits 10 n ++ rest) = (false, Nat.toDigits 10 n ++ rest) := by
  obtain ⟨d, ds, h, hd⟩ := toDigits_eq_cons n
  rw [h]
  exact readSign_of_isDigit hd _

/-- What follows so many digits of a number on its line is a digit or the end of the line. -/
theorem readFixed?_digits {cs : List Char} (hcs : ∀ c ∈ cs, c.isDigit = true) {count value : Nat}
    {rest after : List Char} (h : readFixed? count (cs ++ '\n' :: rest) = some (value, after)) :
    ∃ c more, after = c :: more ∧ (c.isDigit = true ∨ c = '\n') := by
  simp only [readFixed?, Bool.and_eq_true, decide_eq_true_eq] at h
  split at h
  · next hdigits =>
    obtain ⟨-, rfl⟩ := Prod.mk.inj (Option.some.inj h)
    by_cases hshort : count < cs.length
    · rw [List.drop_append_of_le_length (Nat.le_of_lt hshort), List.drop_eq_getElem_cons hshort]
      exact ⟨_, _, rfl, Or.inl (hcs _ (List.getElem_mem hshort))⟩
    · by_cases hexact : count = cs.length
      · rw [hexact, List.drop_left]
        exact ⟨_, _, rfl, Or.inr rfl⟩
      · -- the line feed would be one of the digits
        have hmem : '\n' ∈ (cs ++ '\n' :: rest).take count := by
          rw [List.take_append, List.mem_append]
          obtain ⟨k, hk⟩ : ∃ k, count - cs.length = k + 1 := ⟨count - cs.length - 1, by omega⟩
          rw [hk, List.take_succ_cons]
          exact Or.inr List.mem_cons_self
        exact absurd (List.all_eq_true.1 hdigits.2 _ hmem) (by decide)
  · cases h

/-- A mark that is neither a digit nor a line end does not follow digits on their line. -/
theorem readChar?_digits {cs : List Char} (hcs : ∀ c ∈ cs, c.isDigit = true) {count value : Nat}
    {rest after : List Char} (h : readFixed? count (cs ++ '\n' :: rest) = some (value, after))
    (mark : Char) (hdigit : mark.isDigit = false) (hline : mark ≠ '\n') :
    readChar? mark after = none := by
  obtain ⟨c, more, rfl, hc⟩ := readFixed?_digits hcs h
  have hne : c ≠ mark := by
    rintro rfl
    rcases hc with hc | rfl
    · rw [hc] at hdigit
      cases hdigit
    · exact hline rfl
  rw [readChar?, if_neg hne]

/-- A number on its line is taken for no date and no time. -/
theorem readMoment?_digits {cs : List Char} (hcs : ∀ c ∈ cs, c.isDigit = true)
    (rest : List Char) : readMoment? (cs ++ '\n' :: rest) = none := by
  have hdate : readDate? (cs ++ '\n' :: rest) = none := by
    rw [readDate?]
    cases hyear : readFixed? 4 (cs ++ '\n' :: rest) with
    | none => rfl
    | some p =>
      have hmark := readChar?_digits hcs hyear '-' (by decide) (by decide)
      simp [hmark]
  have htime : readTime? (cs ++ '\n' :: rest) = none := by
    rw [readTime?, readPair?]
    cases hhour : readFixed? 2 (cs ++ '\n' :: rest) with
    | none => rfl
    | some p =>
      have hmark := readChar?_digits hcs hhour ':' (by decide) (by decide)
      simp only []
      split
      · simp [hmark]
      · rfl
  rw [readMoment?, hdate]
  exact htime

/-- A whole number on its line is taken for no floating number. -/
theorem readFloating?_toDigits (n : Nat) (rest : List Char) :
    readFloating? (Nat.toDigits 10 n ++ '\n' :: rest) = none := by
  have hfinite : readFinite? (Nat.toDigits 10 n ++ '\n' :: rest) = none := by
    rw [readFinite?, readSign_toDigits]
    simp only [readWhole?_toDigits]
    rfl
  have hspecial : readSpecial? (Nat.toDigits 10 n ++ '\n' :: rest) = none := by
    obtain ⟨d, ds, h, hd⟩ := toDigits_eq_cons n
    rw [readSpecial?, readSign_toDigits, h]
    split
    · next heq => exact absurd (List.cons.inj heq).1 (ne_of_holds hd (by decide))
    · next heq => exact absurd (List.cons.inj heq).1 (ne_of_holds hd (by decide))
    · rfl
  rw [readFloating?, hfinite, hspecial]
  rfl

/-- A number that fits is read back at the end of its line. -/
theorem readInteger?_toDigits {n : Nat} (h : n ≤ 9223372036854775807) (rest : List Char) :
    readInteger? (Nat.toDigits 10 n ++ '\n' :: rest) = some ((n : Int), '\n' :: rest) := by
  have hrange : inRange? (n : Int) = some (n : Int) := by
    rw [inRange?, if_pos]
    omega
  rw [readInteger?]
  · rw [readSign_toDigits]
    simp only [readWhole?_toDigits, numberOf_toDigits, Option.bind_eq_bind, Option.bind_some,
      Bool.false_eq_true, if_false, hrange]
    rfl
  -- there is no mark of a base: only zero begins with a zero, and its line ends behind it
  all_goals
    intro tail heq
    rcases toDigits_cases n with hdigits | ⟨d, ds, hdigits, hzero, -⟩
    · rw [hdigits] at heq
      cases heq
    · rw [hdigits] at heq
      exact hzero (List.cons.inj heq).1

/-- A number that fits is read back as a value at the end of its line. -/
theorem readScalar?_toDigits {n : Nat} (h : n ≤ 9223372036854775807) (rest : List Char) :
    readScalar? (Nat.toDigits 10 n ++ '\n' :: rest) = some (.integer n, '\n' :: rest) := by
  have hdigits : ∀ c ∈ Nat.toDigits 10 n, c.isDigit = true :=
    fun c hc => isDigit_of_mem_digits hc
  have hmoment := readMoment?_digits hdigits rest
  have hfloating := readFloating?_toDigits n rest
  have hinteger := readInteger?_toDigits h rest
  obtain ⟨d, ds, htext, hdigit⟩ := toDigits_eq_cons n
  rw [htext, List.cons_append] at hmoment hfloating hinteger ⊢
  rw [readScalar?, hmoment, hfloating, hinteger]
  · rfl
  all_goals
    intro _ heq
    exact ne_of_holds hdigit (by decide) (List.cons.inj heq).1

end LinkWatch.Toml

namespace LinkWatch.Json

/-! ## Natural numbers in documents -/

theorem digitsValue_toDigits (n : Nat) : digitsValue (Nat.toDigits 10 n) = n := by
  have hfold : (fun n c => n * 10 + digitValue c) =
      fun (n : Nat) (c : Char) => 10 * n + (c.toNat - '0'.toNat) := by
    funext n c
    rw [digitValue, Nat.mul_comm]
  rw [digitsValue, hfold]
  exact Nat.ofDigitChars_ten_toDigits

/-- A natural number follows the grammar of numbers. -/
theorem isProper_ofNat (n : Nat) : (Numeral.ofNat n).isProper = true := by
  have hdigits : isDigits (Nat.toDigits 10 n) = true := by
    simp only [isDigits, Bool.and_eq_true, decide_eq_true_eq, List.all_eq_true]
    exact ⟨Nat.toDigits_ne_nil, fun c hc => isDigit_of_mem_digits hc⟩
  have hzero : (Nat.toDigits 10 n).length = 1 ∨ (Nat.toDigits 10 n).head? ≠ some '0' := by
    by_cases hn : n = 0
    · rw [hn]
      exact Or.inl rfl
    · exact Or.inr (head?_toDigits_ne_zero hn)
  rcases hzero with hone | hhead
  · simp [Numeral.isProper, Numeral.ofNat, hdigits, hone]
  · simp [Numeral.isProper, Numeral.ofNat, hdigits, hhead]

theorem isDigits_iff {cs : List Char} :
    isDigits cs = true ↔ cs ≠ [] ∧ ∀ c ∈ cs, c.isDigit = true := by
  simp [isDigits]

end LinkWatch.Json
