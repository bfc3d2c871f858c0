import LinkWatch.Text.Split
import Mathlib.Data.List.DropRight
import Mathlib.Data.List.Infix
import Mathlib.Data.List.TakeWhile

/-!
# What trimming and cutting find

Trimming takes the blank characters at the two ends of a text and nothing else, so a character that
is not blank is where it stops. A cut finds the first place of its mark or the last place of its
character, and leaves no mark on the side that it has passed. A text is cut into pieces at every
line feed, and where only trimmed lines matter the pieces are as good as the lines.
-/

namespace LinkWatch.Text

/-! ## Trimming -/

/-- Blanks at the start are trimmed away. -/
theorem trimStart_append_of_blank {a : List Char} (ha : ∀ c ∈ a, isBlank c = true)
    (b : List Char) : trimStart (a ++ b) = trimStart b :=
  List.dropWhile_append_of_pos ha

/-- Trimming the start goes no further than to a character that is not blank. -/
theorem trimStart_append_cons {c : Char} (hc : isBlank c = false) (a b : List Char) :
    trimStart (a ++ c :: b) = trimStart a ++ c :: b := by
  unfold trimStart
  induction a with
  | nil => simp [hc]
  | cons x a ih =>
    rw [List.cons_append, List.dropWhile_cons, List.dropWhile_cons, ih]
    split <;> rfl

theorem trimEnd_append_of_blank (a : List Char) {b : List Char}
    (hb : ∀ c ∈ b, isBlank c = true) : trimEnd (a ++ b) = trimEnd a := by
  have hreverse : ∀ c ∈ b.reverse, isBlank c = true := fun c hc => hb c (List.mem_reverse.1 hc)
  rw [trimEnd, List.reverse_append, List.dropWhile_append_of_pos hreverse, trimEnd]

/-- Trimming the end goes no further than to a character that is not blank. -/
theorem trimEnd_append_cons {c : Char} (hc : isBlank c = false) (a b : List Char) :
    trimEnd (a ++ c :: b) = a ++ c :: trimEnd b := by
  have hstart := trimStart_append_cons hc b.reverse a.reverse
  unfold trimStart at hstart
  unfold trimEnd
  rw [List.reverse_append, List.reverse_cons, List.append_assoc, List.singleton_append, hstart]
  simp

/-- Trimming the end stops at the last character of a text without blank ones. -/
theorem trimEnd_append_visible {cs : List Char} (hne : cs ≠ [])
    (hvisible : ∀ c ∈ cs, isBlank c = false) (a b : List Char) :
    trimEnd (a ++ cs ++ b) = a ++ cs ++ trimEnd b := by
  have hlast := hvisible _ (List.getLast_mem hne)
  have hcs : cs = cs.dropLast ++ [cs.getLast hne] := (List.dropLast_concat_getLast hne).symm
  rw [hcs, ← List.append_assoc, List.append_assoc, List.singleton_append,
    trimEnd_append_cons hlast, ← List.singleton_append, ← List.append_assoc]

/-- A visible character cuts a text into two parts that are trimmed on their outer sides. -/
theorem trim_append_cons {c : Char} (hc : isBlank c = false) (a b : List Char) :
    trim (a ++ c :: b) = trimStart a ++ c :: trimEnd b := by
  rw [trim, trimStart_append_cons hc, trimEnd_append_cons hc]

/-- What is trimmed from the end is blank. -/
theorem exists_trimEnd_append (cs : List Char) :
    ∃ b, (∀ c ∈ b, isBlank c = true) ∧ trimEnd cs ++ b = cs := by
  refine ⟨(cs.reverse.takeWhile isBlank).reverse, fun c hc => ?_, ?_⟩
  · exact List.mem_takeWhile_imp (List.mem_reverse.1 hc)
  · rw [trimEnd, ← List.reverse_append, List.takeWhile_append_dropWhile, List.reverse_reverse]

theorem trimEnd_trimEnd (cs : List Char) : trimEnd (trimEnd cs) = trimEnd cs := by
  obtain ⟨b, hb, hcs⟩ := exists_trimEnd_append cs
  calc trimEnd (trimEnd cs) = trimEnd (trimEnd cs ++ b) := (trimEnd_append_of_blank _ hb).symm
    _ = trimEnd cs := by rw [hcs]

theorem trimEnd_trim (cs : List Char) : trimEnd (trim cs) = trim cs := by
  rw [trim, trimEnd_trimEnd]

/-- Nothing is left of a blank text. -/
theorem trim_of_blank {cs : List Char} (h : ∀ c ∈ cs, isBlank c = true) : trim cs = [] := by
  have hstart : trimStart cs = [] := List.dropWhile_eq_nil_iff.2 h
  rw [trim, hstart]
  rfl

theorem trim_of_blank_append {a : List Char} (ha : ∀ c ∈ a, isBlank c = true) (b : List Char) :
    trim (a ++ b) = trim b := by
  rw [trim, trimStart_append_of_blank ha, trim]

theorem trim_append_of_blank (a : List Char) {b : List Char} (hb : ∀ c ∈ b, isBlank c = true) :
    trim (a ++ b) = trim a := by
  by_cases ha : ∀ c ∈ a, isBlank c = true
  · rw [trim_of_blank_append ha, trim_of_blank ha, trim_of_blank hb]
  · -- some character of `a` stops the trimming on both sides
    push Not at ha
    obtain ⟨c, hc, hvisible⟩ := ha
    obtain ⟨before, after, rfl⟩ := List.append_of_mem hc
    have hstop : isBlank c = false := by simpa using hvisible
    rw [List.append_assoc, List.cons_append, trim_append_cons hstop, trim_append_cons hstop,
      trimEnd_append_of_blank after hb]

theorem trim_trimEnd (cs : List Char) : trim (trimEnd cs) = trim cs := by
  obtain ⟨b, hb, hcs⟩ := exists_trimEnd_append cs
  calc trim (trimEnd cs) = trim (trimEnd cs ++ b) := (trim_append_of_blank _ hb).symm
    _ = trim cs := by rw [hcs]

theorem trim_trim (cs : List Char) : trim (trim cs) = trim cs := by
  calc trim (trim cs) = trim (trimStart cs) := trim_trimEnd (trimStart cs)
    _ = trim cs := by rw [trim, trimStart, trimStart, List.dropWhile_idempotent, ← trimStart, trim]

/-- A text without blank characters is its own trimmed form. -/
theorem trim_of_visible {cs : List Char} (h : ∀ c ∈ cs, isBlank c = false) : trim cs = cs :=
  trim_eq_self (fun c hc => h c (List.mem_of_mem_head? hc))
    fun c hc => h c (List.mem_of_getLast? hc)

/-! ## Cuts -/

/-- No mark is found in a text that does not contain it. -/
theorem cut?_eq_none_iff {mark : List Char} (hmark : mark ≠ []) {cs : List Char} :
    cut? mark cs = none ↔ ¬ mark <:+: cs := by
  induction cs with
  | nil => simp [cut?, hmark]
  | cons c cs ih =>
    have hhead : mark <+: c :: cs ↔ ∃ rest, stripPrefix? mark (c :: cs) = some rest :=
      exists_congr fun rest => by rw [stripPrefix?_eq_some_iff, eq_comm]
    rw [List.infix_cons_iff, not_or, ← ih, hhead, cut?]
    cases hstrip : stripPrefix? mark (c :: cs) with
    | none => simp
    | some rest => simp

/-- A mark whose first character does not come again cannot overlap itself, so behind a text
without the mark it is found where it stands. -/
theorem cut?_append_mark {m : Char} {mark : List Char} (hm : m ∉ mark) {s : List Char}
    (hs : ¬ m :: mark <:+: s) (t : List Char) :
    cut? (m :: mark) (s ++ (m :: mark) ++ t) = some (s, t) := by
  induction s with
  | nil =>
    have hstrip : stripPrefix? (m :: mark) (m :: mark ++ t) = some t :=
      stripPrefix?_eq_some_iff.2 rfl
    rw [List.nil_append, List.cons_append, cut?, ← List.cons_append, hstrip]
  | cons c s ih =>
    rw [List.infix_cons_iff, not_or] at hs
    have hstrip : stripPrefix? (m :: mark) (c :: s ++ (m :: mark) ++ t) = none := by
      rw [Option.eq_none_iff_forall_ne_some]
      intro rest hrest
      rw [stripPrefix?_eq_some_iff, List.append_assoc] at hrest
      -- either the mark lies within `c :: s`, or it ends behind it and begins again there
      rcases List.append_eq_append_iff.1 hrest with ⟨extra, hextra, hrest⟩ | ⟨inner, hinner, -⟩
      · cases extra with
        | nil => exact hs.1 ⟨[], by simpa using hextra⟩
        | cons x extra =>
          simp only [List.cons_append, List.cons.injEq] at hrest hextra
          exact hm (hextra.2 ▸ by simp [hrest.1])
      · exact hs.1 ⟨inner, hinner.symm⟩
    rw [List.cons_append, List.cons_append] at hstrip ⊢
    rw [cut?, hstrip, ih hs.2]
    rfl

/-- Text that is added behind a place of the mark does not move the first one. -/
theorem cut?_append_of_some {mark cs a b : List Char} (h : cut? mark cs = some (a, b))
    (more : List Char) : cut? mark (cs ++ more) = some (a, b ++ more) := by
  induction cs generalizing a with
  | nil =>
    obtain ⟨rfl, ⟨⟩⟩ := Option.ite_none_right_eq_some.1 h
    cases more <;> rfl
  | cons c cs ih =>
    rw [cut?] at h
    rw [List.cons_append, cut?]
    cases hstrip : stripPrefix? mark (c :: cs) with
    | some rest =>
      rw [hstrip] at h
      cases h
      have hmore : stripPrefix? mark (c :: (cs ++ more)) = some (b ++ more) := by
        rw [stripPrefix?_eq_some_iff, ← List.append_assoc, ← stripPrefix?_eq_some_iff.1 hstrip]
        rfl
      rw [hmore]
    | none =>
      rw [hstrip] at h
      obtain ⟨⟨before, after⟩, hcut, hsplit⟩ := Option.map_eq_some_iff.1 h
      cases hsplit
      have hmore : stripPrefix? mark (c :: (cs ++ more)) = none := by
        rw [Option.eq_none_iff_forall_ne_some]
        intro rest hrest
        -- the mark fits into `cs`, so it cannot reach into what was added
        have hlength : mark.length ≤ (c :: cs).length := by
          simp only [cut?_eq_append hcut, List.length_append, List.length_cons]
          omega
        obtain ⟨rest, hprefix⟩ := List.prefix_of_prefix_length_le
          ⟨rest, (stripPrefix?_eq_some_iff.1 hrest).symm⟩ ⟨more, rfl⟩ hlength
        rw [stripPrefix?_eq_some_iff.2 hprefix.symm] at hstrip
        cases hstrip
      rw [hmore, ih hcut]
      rfl

/-- No mark stands before the first one. -/
theorem unmarked_of_cut? {mark cs a b : List Char} (hmark : mark ≠ [])
    (h : cut? mark cs = some (a, b)) : ¬ mark <:+: a := by
  intro hearlier
  have hfound : cut? mark a ≠ none := fun hnone => (cut?_eq_none_iff hmark).1 hnone hearlier
  obtain ⟨⟨before, after⟩, hcut⟩ := Option.ne_none_iff_exists'.1 hfound
  have hfirst := cut?_append_of_some hcut (mark ++ b)
  rw [← List.append_assoc, ← cut?_eq_append h, h, Option.some.injEq, Prod.mk.injEq] at hfirst
  -- the earlier mark would end behind the text in which it stands
  have hlength := congrArg List.length (cut?_eq_append hcut)
  rw [← hfirst.1, List.length_append, List.length_append] at hlength
  exact hmark (List.length_eq_zero_iff.1 (by omega))

/-- The last place of a character, seen from an earlier one. -/
theorem afterLast?_append_mark (mark : Char) (a b : List Char) :
    afterLast? mark (a ++ mark :: b) = some ((afterLast? mark b).getD b) := by
  induction a with
  | nil =>
    rw [List.nil_append, afterLast?]
    cases afterLast? mark b <;> simp
  | cons c a ih => rw [List.cons_append, afterLast?, ih]

theorem afterLast?_eq_none_iff {mark : Char} {cs : List Char} :
    afterLast? mark cs = none ↔ mark ∉ cs := by
  constructor
  · intro h hmem
    obtain ⟨a, b, rfl⟩ := List.append_of_mem hmem
    rw [afterLast?_append_mark] at h
    cases h
  · intro h
    induction cs with
    | nil => rfl
    | cons c cs ih =>
      rw [List.mem_cons, not_or] at h
      rw [afterLast?, ih h.2]
      exact if_neg (Ne.symm h.1)

/-- What follows the last mark is the rest that has no mark. -/
theorem afterLast?_eq_some_iff {mark : Char} {cs rest : List Char} :
    afterLast? mark cs = some rest ↔ ∃ a, cs = a ++ mark :: rest ∧ mark ∉ rest := by
  constructor
  · intro h
    induction cs with
    | nil => cases h
    | cons c cs ih =>
      rw [afterLast?] at h
      cases hlater : afterLast? mark cs with
      | some later =>
        rw [hlater] at h
        obtain ⟨a, rfl, hfree⟩ := ih (hlater.trans h)
        exact ⟨c :: a, rfl, hfree⟩
      | none =>
        rw [hlater] at h
        simp only [Option.ite_none_right_eq_some, Option.some.injEq] at h
        obtain ⟨rfl, rfl⟩ := h
        exact ⟨[], rfl, afterLast?_eq_none_iff.1 hlater⟩
  · rintro ⟨a, rfl, hfree⟩
    rw [afterLast?_append_mark, afterLast?_eq_none_iff.2 hfree]
    rfl

/-- The longest start of a text whose characters have a property ends where the text ends or at a
character without it. -/
theorem takeWhile_eq_iff {p : Char → Bool} {cs a : List Char} :
    cs.takeWhile p = a ↔ ∃ rest, cs = a ++ rest ∧ (∀ c ∈ a, p c = true) ∧
      ∀ c, rest.head? = some c → p c = false := by
  constructor
  · rintro rfl
    refine ⟨cs.dropWhile p, List.takeWhile_append_dropWhile.symm, ?_, ?_⟩
    · exact fun c hc => List.mem_takeWhile_imp hc
    · intro c hc
      have hstop := List.head?_dropWhile_not p cs
      rw [hc] at hstop
      exact hstop
  · rintro ⟨rest, rfl, hall, hstop⟩
    rw [List.takeWhile_append_of_pos hall]
    cases rest with
    | nil => simp
    | cons c rest => simp [hstop c rfl]

/-- What stands behind a character without the property has no part in it. -/
theorem takeWhile_append_stop {p : Char → Bool} {c : Char} (hc : p c = false) (a b : List Char) :
    (a ++ c :: b).takeWhile p = a.takeWhile p := by
  induction a with
  | nil => simp [hc]
  | cons x a ih => rw [List.cons_append, List.takeWhile_cons, List.takeWhile_cons, ih]

/-! ## Pieces and lines -/

theorem pieces_ne_nil (mark : Char) (cs : List Char) : pieces mark cs ≠ [] := by
  cases cs with
  | nil => simp [pieces]
  | cons c cs =>
    rw [pieces]
    split
    · simp
    · split
      · simp
      · simp

theorem pieces_of_not_mem {mark : Char} {cs : List Char} (h : mark ∉ cs) :
    pieces mark cs = [cs] := by
  induction cs with
  | nil => rfl
  | cons c cs ih =>
    rw [List.mem_cons, not_or] at h
    rw [pieces, if_neg (Ne.symm h.1), ih h.2]

/-- A text with a mark is cut into the pieces before and the pieces after that mark. -/
theorem pieces_append (mark : Char) (a b : List Char) :
    pieces mark (a ++ mark :: b) = pieces mark a ++ pieces mark b := by
  induction a with
  | nil => simp [pieces]
  | cons c a ih =>
    rw [List.cons_append, pieces, pieces, ih]
    split
    · rfl
    · cases hpieces : pieces mark a with
      | nil => exact absurd hpieces (pieces_ne_nil mark a)
      | cons p ps => rfl

/-- Whatever stands in a piece stands in the text. -/
theorem mem_of_mem_pieces {mark c : Char} {cs piece : List Char} (h : piece ∈ pieces mark cs)
    (hc : c ∈ piece) : c ∈ cs := by
  induction cs generalizing piece with
  | nil => simp_all [pieces]
  | cons x cs ih =>
    rw [pieces] at h
    split at h
    · rcases List.mem_cons.1 h with rfl | h
      · cases hc
      · exact List.mem_cons_of_mem x (ih h hc)
    · cases hpieces : pieces mark cs with
      | nil => exact absurd hpieces (pieces_ne_nil mark cs)
      | cons first others =>
        rw [hpieces] at h ih
        rcases List.mem_cons.1 h with rfl | h
        · rcases List.mem_cons.1 hc with rfl | hc
          · exact List.mem_cons_self
          · exact List.mem_cons_of_mem x (ih List.mem_cons_self hc)
        · exact List.mem_cons_of_mem x (ih (List.mem_cons_of_mem first h) hc)

/-- A carriage return is blank, so dropping it does not change the trimmed line. -/
theorem trim_dropReturn (line : List Char) : trim (dropReturn line) = trim line := by
  rw [dropReturn]
  split
  case isFalse => rfl
  case isTrue hlast =>
    obtain ⟨start, rfl⟩ := List.getLast?_eq_some_iff.1 hlast
    have hreturn : ∀ c ∈ ['\r'], isBlank c = true := List.forall_mem_singleton.2 (by decide)
    rw [List.dropLast_concat, trim_append_of_blank start hreturn]

/-- A search in the trimmed lines, in which an empty line gives nothing, is a search in the
trimmed pieces. -/
theorem findSome?_lines {α : Type} {f : List Char → Option α} (hnil : f [] = none)
    (text : List Char) :
    (lines text).findSome? (fun line => f (trim line)) =
      (pieces '\n' text).findSome? fun piece => f (trim piece) := by
  rw [lines]
  cases hpieces : (pieces '\n' text).reverse with
  | nil => exact absurd (List.reverse_eq_nil_iff.1 hpieces) (pieces_ne_nil _ _)
  | cons last ended =>
    have htext : pieces '\n' text = ended.reverse ++ [last] := by
      rw [← List.reverse_reverse (pieces '\n' text), hpieces, List.reverse_cons]
    have hended : (ended.map dropReturn).reverse.findSome? (fun line => f (trim line)) =
        ended.reverse.findSome? fun piece => f (trim piece) := by
      rw [← List.map_reverse, List.findSome?_map]
      simp only [Function.comp_def, trim_dropReturn]
    have hlast : (if last = [] then [] else [last]).findSome? (fun line => f (trim line)) =
        [last].findSome? fun piece => f (trim piece) := by
      split
      case isTrue h => simp [h, trim_nil, hnil]
      case isFalse => rfl
    rw [htext, List.findSome?_append, List.findSome?_append, hended, hlast]

end LinkWatch.Text
