import LinkWatch.Proofs.TextCuts
import LinkWatch.Traffic.Noise
import Mathlib.Data.List.Basic

/-!
# Configured starts of noise

The lower-case form of a text begins with that of its start, with one exception: a sigma at the end
of the start counts as final there, but not if a letter follows in the text. Every configured start
that is not blank therefore takes effect on all names that begin with it, in whatever letter case,
unless it is written with such a sigma and a letter follows. More starts never make fewer names
noise, and blank ones count for nothing.
-/

namespace LinkWatch.Text

/-! ## Letters next to a sigma -/

/-- The search for a letter passes over a character that does not count, and ends at any other. -/
theorem meetsLetter_cons (c : Char) (cs : List Char) :
    meetsLetter (c :: cs) = if isCaseIgnorable c then meetsLetter cs else isCased c := by
  rw [meetsLetter, List.dropWhile_cons]
  cases isCaseIgnorable c <;> rfl

/-- The search for a letter goes beyond a text only if nothing in it counts. -/
theorem meetsLetter_append (a b : List Char) :
    meetsLetter (a ++ b) = if a.all isCaseIgnorable then meetsLetter b else meetsLetter a := by
  induction a with
  | nil => rfl
  | cons c a ih =>
    rw [List.cons_append, List.all_cons, meetsLetter_cons, meetsLetter_cons, ih]
    cases isCaseIgnorable c <;> rfl

theorem meetsLetter_of_ignorable {a : List Char} (h : ∀ c ∈ a, isCaseIgnorable c = true) :
    meetsLetter a = false := by
  rw [meetsLetter, List.dropWhile_eq_nil_iff.2 h]

/-- What follows a text changes the letter that is met only if the whole text is passed over. -/
theorem meetsLetter_eq_append_iff (a b : List Char) :
    meetsLetter a = meetsLetter (a ++ b) ↔
      ¬ ((∀ c ∈ a, isCaseIgnorable c = true) ∧ meetsLetter b = true) := by
  rw [meetsLetter_append, ← List.all_eq_true]
  by_cases h : a.all isCaseIgnorable = true
  · rw [if_pos h, meetsLetter_of_ignorable (List.all_eq_true.1 h), and_iff_right h,
      Bool.not_eq_true, eq_comm]
  · rw [if_neg h, eq_self, true_iff]
    exact fun hall => h hall.1

/-- The form of a sigma depends on what follows only if a letter is before it. -/
theorem sigmaBetween_eq_iff (before a b : List Char) :
    sigmaBetween before a = sigmaBetween before b ↔
      (meetsLetter before = true → meetsLetter a = meetsLetter b) := by
  unfold sigmaBetween
  cases meetsLetter before <;> cases meetsLetter a <;> cases meetsLetter b <;> decide

/-! ## Starts of lower-case forms -/

/-- A text that follows `before` has a sigma at its end, apart from characters that are passed over,
and a letter stands before that sigma. -/
def EndsInSigma (before cs : List Char) : Prop :=
  ∃ a b, cs = a ++ 'Σ' :: b ∧ meetsLetter (a.reverse ++ before) = true ∧
    ∀ c ∈ b, isCaseIgnorable c = true

theorem not_endsInSigma_nil (before : List Char) : ¬ EndsInSigma before [] := by
  rintro ⟨a, b, h, -⟩
  simp at h

/-- A text ends in a final sigma if it is one with nothing that counts behind it, or if its rest
does. -/
theorem endsInSigma_cons (before : List Char) (c : Char) (cs : List Char) :
    EndsInSigma before (c :: cs) ↔
      (c = 'Σ' ∧ meetsLetter before = true ∧ ∀ d ∈ cs, isCaseIgnorable d = true) ∨
        EndsInSigma (c :: before) cs := by
  constructor
  · rintro ⟨a, b, heq, hletter, hpassed⟩
    cases a with
    | nil =>
      obtain ⟨rfl, rfl⟩ := List.cons.inj heq
      exact .inl ⟨rfl, hletter, hpassed⟩
    | cons d a =>
      obtain ⟨rfl, rfl⟩ := List.cons.inj heq
      exact .inr ⟨a, b, rfl, by simpa using hletter, hpassed⟩
  · rintro (⟨rfl, hletter, hpassed⟩ | ⟨a, b, rfl, hletter, hpassed⟩)
    · exact ⟨[], cs, rfl, hletter, hpassed⟩
    · exact ⟨c :: a, b, rfl, by simpa using hletter, hpassed⟩

/-- The lower-case form of a start is one of the whole text, unless a sigma that is final in the
start is followed by a letter in the text. -/
theorem lowerAfter_prefix_iff (before start rest : List Char) :
    lowerAfter before start <+: lowerAfter before (start ++ rest) ↔
      ¬ (EndsInSigma before start ∧ meetsLetter rest = true) := by
  induction start generalizing before with
  | nil =>
    have hnil : lowerAfter before [] <+: lowerAfter before ([] ++ rest) := List.nil_prefix
    exact iff_of_true hnil fun h => not_endsInSigma_nil before h.1
  | cons c start ih =>
    rw [endsInSigma_cons, List.cons_append, lowerAfter, lowerAfter]
    by_cases hc : c = 'Σ'
    · -- the one character whose lower-case form depends on what follows
      subst hc
      simp only [if_true, List.singleton_append, List.cons_prefix_cons]
      rw [ih, sigmaBetween_eq_iff, meetsLetter_eq_append_iff]
      tauto
    · simp only [if_neg hc, List.prefix_append_right_inj]
      rw [ih]
      tauto

theorem lowerCase_eq_nil_iff {cs : List Char} : lowerCase cs = [] ↔ cs = [] := by
  constructor
  · intro h
    cases cs with
    | nil => rfl
    | cons c cs =>
      rw [lowerCase, lowerAfter, List.append_eq_nil_iff] at h
      have hform := h.1
      split_ifs at hform
  · rintro rfl
    rfl

end LinkWatch.Text

namespace LinkWatch.Traffic

open LinkWatch.Text

/-! ## Noise by configured starts -/

/-- A name is noise if it is built in, or if it begins with an entry that is not blank, both in
lower case. -/
theorem isNoise_ofList_iff (extra : List String) (name : String) :
    (NoiseFilter.ofList extra).isNoise name = true ↔
      isNoise name = true ∨ ∃ p ∈ extra, trim p.toList ≠ [] ∧
        lowerCase (trim p.toList) <+: lowerCase name.toList := by
  simp only [NoiseFilter.isNoise, NoiseFilter.ofList, lowerStartsWith, Bool.or_eq_true,
    List.any_eq_true, List.mem_filter, List.mem_map, decide_eq_true_eq, List.isPrefixOf_iff_prefix]
  refine or_congr_right ⟨?_, ?_⟩
  · rintro ⟨_, ⟨⟨p, hp, rfl⟩, hne⟩, hstart⟩
    exact ⟨p, hp, fun hblank => hne (lowerCase_eq_nil_iff.2 hblank), hstart⟩
  · rintro ⟨p, hp, hne, hstart⟩
    exact ⟨_, ⟨⟨p, hp, rfl⟩, fun hnil => hne (lowerCase_eq_nil_iff.1 hnil)⟩, hstart⟩

/-- More starts make at least the same names noise. -/
theorem isNoise_ofList_mono {some extra : List String} (h : ∀ p ∈ some, p ∈ extra) {name : String}
    (hname : (NoiseFilter.ofList some).isNoise name = true) :
    (NoiseFilter.ofList extra).isNoise name = true := by
  rw [isNoise_ofList_iff] at hname ⊢
  refine hname.imp_right ?_
  rintro ⟨p, hp, hstart⟩
  exact ⟨p, h p hp, hstart⟩

/-- Starts that are blank count for nothing. -/
theorem isNoise_ofList_of_blank {extra : List String}
    (h : ∀ p ∈ extra, ∀ c ∈ p.toList, isBlank c = true) (name : String) :
    (NoiseFilter.ofList extra).isNoise name = isNoise name := by
  rw [Bool.eq_iff_iff, isNoise_ofList_iff, or_iff_left_iff_imp]
  rintro ⟨p, hp, hne, -⟩
  exact absurd (trim_of_blank (h p hp)) hne

/-- `start` is what a configured start says, in some letter case. -/
structure Spells (p start : String) : Prop where
  visible : trim p.toList ≠ []
  same : lowerCase start.toList = lowerCase (trim p.toList)

/-- By a single configured start, a name that begins with it is noise unless the start is written
with a sigma at its end and a letter follows. -/
theorem isNoise_singleton_iff {p start : String} (h : Spells p start) (rest : String) :
    (NoiseFilter.ofList [p]).isNoise (start ++ rest) = true ↔
      isNoise (start ++ rest) = true ∨
        ¬ (EndsInSigma [] start.toList ∧ meetsLetter rest.toList = true) := by
  have hprefix : lowerCase (trim p.toList) <+: lowerCase (start ++ rest).toList ↔
      ¬ (EndsInSigma [] start.toList ∧ meetsLetter rest.toList = true) := by
    rw [← h.same, String.toList_append]
    exact lowerAfter_prefix_iff [] start.toList rest.toList
  simp only [isNoise_ofList_iff, List.mem_singleton, exists_eq_left, hprefix, ne_eq, h.visible,
    not_false_eq_true, true_and]

/-- **Configured starts take effect.** Every name that begins with a configured start that is not
blank, in whatever letter case, is noise, unless the start is written with a sigma at its end and a
letter follows; and then that start alone does not make it noise. Names that are noise anyway, or
for some of the starts, are noise for all of them, and blank starts count for nothing. -/
theorem configured_starts_take_effect (extra : List String) :
    (∀ p ∈ extra, ∀ start rest, Spells p start →
      ¬ (EndsInSigma [] start.toList ∧ meetsLetter rest.toList = true) →
      (NoiseFilter.ofList extra).isNoise (start ++ rest) = true) ∧
    (∀ p start rest, Spells p start →
      ((NoiseFilter.ofList [p]).isNoise (start ++ rest) = true ↔
        isNoise (start ++ rest) = true ∨
          ¬ (EndsInSigma [] start.toList ∧ meetsLetter rest.toList = true))) ∧
    (∀ name, isNoise name = true → (NoiseFilter.ofList extra).isNoise name = true) ∧
    (∀ some, (∀ p ∈ some, p ∈ extra) → ∀ name, (NoiseFilter.ofList some).isNoise name = true →
      (NoiseFilter.ofList extra).isNoise name = true) ∧
    ((∀ p ∈ extra, ∀ c ∈ p.toList, isBlank c = true) →
      ∀ name, (NoiseFilter.ofList extra).isNoise name = isNoise name) := by
  refine ⟨fun p hp start rest hspells hsigma => ?_, fun p start rest hspells =>
    isNoise_singleton_iff hspells rest, fun name => isNoise_of_builtin _,
    fun some hsome name => isNoise_ofList_mono hsome, isNoise_ofList_of_blank⟩
  have hsingle : ∀ q ∈ [p], q ∈ extra := by simpa using hp
  exact isNoise_ofList_mono hsingle ((isNoise_singleton_iff hspells rest).2 (.inr hsigma))

/-- A start between blanks and one that ends in a sigma, written in other letter cases before a
digit, a mark and a letter, and a list of blank starts. -/
theorem starts_in_other_cases :
    let extra := [" \tDoc\u212aer\n", "ΑΣ", " "]
    (NoiseFilter.ofList extra).isNoise "DOCKER0" = true ∧
      (NoiseFilter.ofList extra).isNoise "ας0" = true ∧
      (NoiseFilter.ofList extra).isNoise "ΑΣ-α" = true ∧
      (NoiseFilter.ofList ["", " \u3000"]).isNoise "eth0" = isNoise "eth0" := by
  intro extra
  obtain ⟨hstarts, -⟩ := configured_starts_take_effect extra
  obtain ⟨-, -, -, -, hblank⟩ := configured_starts_take_effect ["", " \u3000"]
  have hdigit : meetsLetter "0".toList ≠ true := by decide +kernel
  have hmark : meetsLetter "-α".toList ≠ true := by decide +kernel
  have hblanks : ["", " \u3000"].all (fun p => p.toList.all isBlank) = true := by decide +kernel
  exact ⟨hstarts " \tDoc\u212aer\n" (by simp [extra]) "DOCKER" "0"
      ⟨by decide, by decide +kernel⟩ fun h => hdigit h.2,
    hstarts "ΑΣ" (by simp [extra]) "ας" "0" ⟨by decide, by decide +kernel⟩ fun h => hdigit h.2,
    hstarts "ΑΣ" (by simp [extra]) "ΑΣ" "-α" ⟨by decide, by decide +kernel⟩ fun h => hmark h.2,
    hblank (fun p hp => List.all_eq_true.1 (List.all_eq_true.1 hblanks p hp)) "eth0"⟩

/-- A sigma that is final in a configured start is not the same in a name that goes on with a
letter. -/
theorem sigma_start_misses_longer_name :
    Spells "ΑΣ" "ΑΣ" ∧ (NoiseFilter.ofList ["ΑΣ"]).isNoise ("ΑΣ" ++ "α") = false :=
  ⟨⟨by decide, by decide +kernel⟩, by decide +kernel⟩

end LinkWatch.Traffic
