import LinkWatch.Toml.Quoted
import Mathlib.Data.List.Basic

/-!
# Quoted texts are read back

Whatever style a text is written in, reading it gives the text again and stops behind its closing
marks. The short styles end at their first bare mark. In the long styles up to two marks may stand
in a row, and the last of them run into the closing ones; so what is read is told together with the
marks that have been passed and not yet read.
-/

namespace LinkWatch.Toml

/-! ## Characters -/

/-- On one line, a character that needs no escape can stand for itself. -/
theorem isPlain_of_not_needsEscape {c : Char} (h : needsEscape c = false) (hline : c ≠ '\n') :
    isPlain c = true := by
  simp only [needsEscape, isPlain, Bool.or_eq_false_iff, Bool.and_eq_false_iff, Bool.or_eq_true,
    Bool.and_eq_true, decide_eq_false_iff_not, decide_eq_true_eq, beq_iff_eq, beq_eq_false_iff_ne,
    not_not, hline] at h ⊢
  by_cases htab : c = '\t'
  · exact Or.inl htab
  · simp only [htab, or_false] at h
    exact Or.inr ⟨by omega, h.2⟩

/-- The ways in which one character can stand between double quotes. -/
inductive WritesChar (long : Bool) (c : Char) : List Char → Prop where
  | plain (hplain : isPlain c = true) (hescape : c ≠ '\\') (hquote : c ≠ '"') :
      WritesChar long c [c]
  | lineFeed (hlong : long = true) (hc : c = '\n') : WritesChar long c [c]
  | letter {e : Char} (he : letterEscape? e = some c) : WritesChar long c ['\\', e]
  | numbered {d₁ d₂ d₃ d₄ : Char} (hd : numberedChar? [d₁, d₂, d₃, d₄] = some c) :
      WritesChar long c ['\\', 'u', d₁, d₂, d₃, d₄]

/-- The two digits that are written for a control character are read as its number. -/
theorem numberedChar?_written {c : Char} (h : c.toNat < 128) :
    numberedChar? ['0', '0', upperHexDigit (c.toNat / 16), upperHexDigit c.toNat] = some c := by
  have hall : ∀ n < 128, numberedChar? ['0', '0', upperHexDigit (n / 16), upperHexDigit n] =
      some (Char.ofNat n) := by decide
  rw [hall c.toNat h, Char.ofNat_toNat]

/-- What is written for a character stands for it. -/
theorem writesChar_writeChar (long : Bool) {c : Char} (hquote : c ≠ '"') :
    WritesChar long c (writeChar long c) := by
  -- one case for each way of writing, in the order of the definition
  by_cases hbackspace : c = '\x08'
  · subst hbackspace
    exact .letter rfl
  by_cases htab : c = '\t'
  · subst htab
    exact .letter rfl
  by_cases hline : c = '\n'
  · subst hline
    cases long with
    | true => exact .lineFeed rfl rfl
    | false => exact .letter rfl
  by_cases hform : c = '\x0c'
  · subst hform
    exact .letter rfl
  by_cases hreturn : c = '\r'
  · subst hreturn
    exact .letter rfl
  by_cases hescape : c = '\\'
  · subst hescape
    exact .letter rfl
  by_cases hcontrol : c.toNat < 0x20 ∨ c.toNat = 0x7f
  · have hw : writeChar long c =
        ['\\', 'u', '0', '0', upperHexDigit (c.toNat / 16), upperHexDigit c.toNat] := by
      simp [writeChar, hbackspace, htab, hline, hform, hreturn, hescape, hcontrol]
    rw [hw]
    exact .numbered (numberedChar?_written (by omega))
  · have hw : writeChar long c = [c] := by
      simp [writeChar, hbackspace, htab, hline, hform, hreturn, hescape, hcontrol]
    rw [hw]
    exact .plain (by simp [isPlain]; omega) hescape hquote

/-! ## Between double quotes -/

theorem letterEscape?_u : letterEscape? 'u' = none := rfl

theorem letterEscape?_U : letterEscape? 'U' = none := rfl

/-- A written character is read back before whatever is read after it. -/
theorem readBasic?_writesChar {c : Char} {w : List Char} (hw : WritesChar false c w)
    {cs text rest : List Char} (h : readBasic? cs = some (text, rest)) :
    readBasic? (w ++ cs) = some (c :: text, rest) := by
  cases hw with
  | plain hplain hescape hquote =>
    rw [List.singleton_append, readBasic?, h]
    · simp [hplain, hescape]
    all_goals simp_all
  | lineFeed hlong => cases hlong
  | @letter e he =>
    have hu : e ≠ 'u' := fun heq => by simp [heq, letterEscape?_u] at he
    have hU : e ≠ 'U' := fun heq => by simp [heq, letterEscape?_U] at he
    rw [List.cons_append, List.singleton_append, readBasic?, he, h]
    · rfl
    all_goals simp_all
  | numbered hd =>
    simp only [List.cons_append, List.nil_append]
    rw [readBasic?, hd, h]
    rfl

/-- A text is read back from between double quotes, whatever follows the closing one. -/
theorem readBasic?_writeBasic (quotes : Nat) (cs rest : List Char) :
    readBasic? (writeBasic false quotes cs ++ '"' :: rest) = some (cs, rest) := by
  induction cs generalizing quotes with
  | nil => rfl
  | cons c cs ih =>
    rw [writeBasic]
    by_cases hquote : c = '"'
    · subst hquote
      exact readBasic?_writesChar (.letter rfl) (ih 0)
    · rw [if_neg hquote, List.append_assoc]
      exact readBasic?_writesChar (writesChar_writeChar false hquote) (ih 0)

/-- The writing of a character that is no double quote does not begin with one. -/
theorem head?_ne_quote_of_writesChar {long : Bool} {c : Char} {w : List Char} (hquote : c ≠ '"')
    (hw : WritesChar long c w) (cs : List Char) : (w ++ cs).head? ≠ some '"' := by
  cases hw <;> simp [hquote]

/-! ## Closing marks -/

/-- Marks that run into the closing ones belong to the text. -/
theorem closing?_replicate {mark : Char} {k : Nat} (hk : k ≤ 2) {rest : List Char}
    (hrest : rest.head? ≠ some mark) :
    closing? mark (List.replicate k mark ++ rest) = some (List.replicate k mark, rest) := by
  have hlast : ∀ x ∈ rest.head?, x ≠ mark := by
    rintro x hx rfl
    exact hrest hx
  obtain rfl | rfl | rfl : k = 0 ∨ k = 1 ∨ k = 2 := by omega
  · rcases rest with - | ⟨a, - | ⟨b, - | ⟨c, r⟩⟩⟩ <;> simp_all [closing?]
  · rcases rest with - | ⟨a, - | ⟨b, r⟩⟩ <;> simp_all [closing?, List.replicate]
  · rcases rest with - | ⟨a, r⟩ <;> simp_all [closing?, List.replicate]

/-! ## Between three double quotes -/

/-- What stands for a character is read as it, before all that follows. -/
theorem readLongBasic?_writesChar {c : Char} {w : List Char} (hw : WritesChar true c w)
    {cs text rest : List Char} (h : readLongBasic? false cs = some (text, rest)) :
    readLongBasic? false (w ++ cs) = some (c :: text, rest) := by
  cases hw with
  | plain hplain hescape hquote =>
    have hreturn : c ≠ '\r' := fun heq => by simp [heq, isPlain] at hplain
    rw [List.singleton_append, readLongBasic?, h]
    · simp [hplain, hescape]
    all_goals simp_all
  | lineFeed hlong hc =>
    subst hc
    rw [List.singleton_append, readLongBasic?, h]
    · rfl
    all_goals simp
  | @letter e he =>
    have hu : e ≠ 'u' := fun heq => by simp [heq, letterEscape?_u] at he
    have hU : e ≠ 'U' := fun heq => by simp [heq, letterEscape?_U] at he
    rw [List.cons_append, List.singleton_append, readLongBasic?, he, h]
    · rfl
    all_goals simp_all
  | numbered hd =>
    simp only [List.cons_append, List.nil_append]
    rw [readLongBasic?, hd, h]
    rfl

/-- One or two double quotes that no further one follows are read as they are. -/
theorem readLongBasic?_replicate {k : Nat} (hk : k ≤ 2) {cs text rest : List Char}
    (hhead : cs.head? ≠ some '"') (h : readLongBasic? false cs = some (text, rest)) :
    readLongBasic? false (List.replicate k '"' ++ cs) =
      some (List.replicate k '"' ++ text, rest) := by
  have hone : readLongBasic? false ('"' :: cs) = some ('"' :: text, rest) := by
    rw [readLongBasic?, h]
    · rfl
    all_goals simp
    rintro r rfl
    simp at hhead
  obtain rfl | rfl | rfl : k = 0 ∨ k = 1 ∨ k = 2 := by omega
  · exact h
  · exact hone
  · show readLongBasic? false ('"' :: '"' :: cs) = _
    rw [readLongBasic?, hone]
    · rfl
    all_goals simp
    rintro r rfl
    simp at hhead

/-- A text is read back from between three double quotes, together with the double quotes that have
been passed before it. -/
theorem readLongBasic?_writeBasic {passed : Nat} (hpassed : passed ≤ 2) (cs : List Char)
    {rest : List Char} (hrest : rest.head? ≠ some '"') :
    readLongBasic? false
        (List.replicate passed '"' ++ (writeBasic true passed cs ++ '"' :: '"' :: '"' :: rest)) =
      some (List.replicate passed '"' ++ cs, rest) := by
  -- every double quote that is written bare joins the passed ones, any other character ends them
  induction cs generalizing passed with
  | nil =>
    have hrun : List.replicate passed '"' ++ '"' :: '"' :: '"' :: rest =
        '"' :: '"' :: '"' :: (List.replicate passed '"' ++ rest) := by
      obtain rfl | rfl | rfl : passed = 0 ∨ passed = 1 ∨ passed = 2 := by omega
      all_goals rfl
    rw [writeBasic, List.nil_append, hrun, readLongBasic?, closing?_replicate hpassed hrest,
      List.append_nil]
  | cons c cs ih =>
    rw [writeBasic]
    by_cases hquote : c = '"'
    · subst hquote
      by_cases hbare : passed < 2
      · have hnext := @ih (passed + 1) hbare
        rw [List.replicate_succ', List.append_assoc, List.append_assoc] at hnext
        simpa [hbare] using hnext
      · simp only [hbare, decide_false, Bool.and_false, Bool.false_eq_true, if_false, if_true]
        exact readLongBasic?_replicate hpassed (by simp)
          (readLongBasic?_writesChar (.letter rfl) (@ih 0 (Nat.zero_le 2)))
    · have hw := writesChar_writeChar true hquote
      rw [if_neg hquote, List.append_assoc]
      exact readLongBasic?_replicate hpassed (head?_ne_quote_of_writesChar hquote hw _)
        (readLongBasic?_writesChar hw (@ih 0 (Nat.zero_le 2)))

/-! ## Between single quotes -/

/-- A text of plain characters is read back from between single quotes if it holds none of them. -/
theorem readLiteral?_append {cs : List Char} (hplain : ∀ c ∈ cs, isPlain c = true)
    (hquote : '\'' ∉ cs) (rest : List Char) :
    readLiteral? (cs ++ '\'' :: rest) = some (cs, rest) := by
  induction cs with
  | nil => rfl
  | cons c cs ih =>
    rw [List.mem_cons, not_or] at hquote
    have hc := hplain c List.mem_cons_self
    have hcs := ih (fun d hd => hplain d (List.mem_cons_of_mem c hd)) hquote.2
    rw [List.cons_append, readLiteral?, hcs]
    · simp [hc]
    · exact fun heq => hquote.1 heq.symm

/-! ## Between three single quotes -/

/-- A character may stand between three single quotes, other than their own. -/
def isLongPlain (c : Char) : Bool :=
  c == '\n' || isPlain c

theorem isLongPlain_of_not_needsEscape {c : Char} (h : needsEscape c = false) :
    isLongPlain c = true := by
  by_cases hline : c = '\n'
  · rw [hline]
    rfl
  · simp [isLongPlain, isPlain_of_not_needsEscape h hline]

/-- The longest run only grows while a text is passed. -/
theorem le_longestRunFrom (x : Char) (current longest : Nat) (cs : List Char) :
    longest ≤ longestRunFrom x current longest cs := by
  induction cs generalizing current longest with
  | nil => exact Nat.le_refl longest
  | cons c cs ih =>
    rw [longestRunFrom]
    split
    · exact Nat.le_trans (Nat.le_max_left _ _) (ih _ _)
    · exact ih _ _

/-- A character is read as it is, unless three quotes begin with it. -/
theorem readLongLiteral?_cons {c : Char} (hc : isLongPlain c = true) {cs text rest : List Char}
    (hmarks : ∀ r, c = '\'' → cs ≠ '\'' :: '\'' :: r)
    (h : readLongLiteral? cs = some (text, rest)) :
    readLongLiteral? (c :: cs) = some (c :: text, rest) := by
  have hreturn : c ≠ '\r' := by
    rintro rfl
    revert hc
    decide
  rw [readLongLiteral?, h]
  · rw [if_pos (by simpa [isLongPlain] using hc)]
    rfl
  · exact hmarks
  · exact fun _ heq => absurd heq hreturn

/-- One or two single quotes that no further one follows are read as they are. -/
theorem readLongLiteral?_replicate {k : Nat} (hk : k ≤ 2) {cs text rest : List Char}
    (hhead : cs.head? ≠ some '\'') (h : readLongLiteral? cs = some (text, rest)) :
    readLongLiteral? (List.replicate k '\'' ++ cs) =
      some (List.replicate k '\'' ++ text, rest) := by
  have hone : readLongLiteral? ('\'' :: cs) = some ('\'' :: text, rest) := by
    refine readLongLiteral?_cons (by decide) ?_ h
    rintro r - rfl
    simp at hhead
  obtain rfl | rfl | rfl : k = 0 ∨ k = 1 ∨ k = 2 := by omega
  · exact h
  · exact hone
  · show readLongLiteral? ('\'' :: '\'' :: cs) = _
    refine readLongLiteral?_cons (by decide) ?_ hone
    rintro r - heq
    rw [(List.cons.inj heq).2] at hhead
    exact hhead rfl

/-- A text is read back from between three single quotes if it holds no more than two of them in a
row, together with the single quotes that have been passed before it. -/
theorem readLongLiteral?_append {passed longest : Nat} {cs : List Char} (hpassed : passed ≤ 2)
    (hrun : longestRunFrom '\'' passed longest cs ≤ 2) (hplain : ∀ c ∈ cs, isLongPlain c = true)
    {rest : List Char} (hrest : rest.head? ≠ some '\'') :
    readLongLiteral?
        (List.replicate passed '\'' ++ (cs ++ '\'' :: '\'' :: '\'' :: rest)) =
      some (List.replicate passed '\'' ++ cs, rest) := by
  induction cs generalizing passed longest with
  | nil =>
    have hmarks : List.replicate passed '\'' ++ '\'' :: '\'' :: '\'' :: rest =
        '\'' :: '\'' :: '\'' :: (List.replicate passed '\'' ++ rest) := by
      obtain rfl | rfl | rfl : passed = 0 ∨ passed = 1 ∨ passed = 2 := by omega
      all_goals rfl
    rw [List.nil_append, hmarks, readLongLiteral?, closing?_replicate hpassed hrest,
      List.append_nil]
  | cons c cs ih =>
    have hcs : ∀ d ∈ cs, isLongPlain d = true := fun d hd => hplain d (List.mem_cons_of_mem c hd)
    rw [longestRunFrom] at hrun
    by_cases hquote : c = '\''
    · subst hquote
      rw [if_pos rfl] at hrun
      have hgrown : passed + 1 ≤ 2 :=
        Nat.le_trans (Nat.le_max_right _ _) (Nat.le_trans (le_longestRunFrom _ _ _ _) hrun)
      have hnext := ih hgrown hrun hcs
      rw [List.replicate_succ', List.append_assoc, List.append_assoc] at hnext
      exact hnext
    · rw [if_neg hquote] at hrun
      have hrest' := ih (Nat.zero_le 2) hrun hcs
      refine readLongLiteral?_replicate hpassed (by simp [hquote]) ?_
      exact readLongLiteral?_cons (hplain c List.mem_cons_self)
        (fun _ heq => absurd heq hquote) hrest'

/-! ## The style of a text -/

/-- A text is put between single quotes only if they show it as it is. -/
theorem shows_of_style {cs : List Char} {style : Style} (h : Style.of cs = style)
    (hbasic : style ≠ .basic) (hlong : style ≠ .longBasic) : style.shows cs = true := by
  unfold Style.of at h
  split at h
  · next found hfound =>
    subst h
    have hfits := List.find?_some hfound
    exact hfits
  · split at h
    · exact absurd h.symm hlong
    · exact absurd h.symm hbasic

/-- The line end that opens a long text over several lines is dropped; a text without one has
nothing there that could be taken for it. -/
theorem dropFirstLineEnd_body {cs body : List Char}
    (hbody : '\n' ∉ cs → body.head? ≠ some '\n' ∧ body.head? ≠ some '\r') :
    dropFirstLineEnd ((if cs.contains '\n' then ['\n'] else []) ++ body) = body := by
  by_cases hline : cs.contains '\n' = true
  · rw [if_pos hline]
    rfl
  · rw [if_neg hline, List.nil_append]
    obtain ⟨hfeed, hreturn⟩ := hbody (by simpa using hline)
    cases body with
    | nil => rfl
    | cons c body =>
      have hnone : lineEnd? (c :: body) = none := by
        rw [lineEnd?] <;> simp_all
      rw [dropFirstLineEnd, hnone, Option.getD_none]

/-- The writing of a character that is no line feed begins no line end. -/
theorem head?_of_writesChar {c : Char} {w : List Char} (hw : WritesChar true c w) (hline : c ≠ '\n')
    (cs : List Char) : (w ++ cs).head? ≠ some '\n' ∧ (w ++ cs).head? ≠ some '\r' := by
  cases hw with
  | plain hplain =>
    have hreturn : c ≠ '\r' := fun heq => by simp [heq, isPlain] at hplain
    simp [hline, hreturn]
  | lineFeed _ hc => exact absurd hc hline
  | letter => simp
  | numbered => simp

/-- One double quote opens a text on one line. -/
theorem readText?_double {body : List Char} (h : ∀ r, body ≠ '"' :: '"' :: r) :
    readText? ('"' :: body) = readBasic? body := by
  rw [readText?]
  exact h

theorem readText?_single {body : List Char} (h : ∀ r, body ≠ '\'' :: '\'' :: r) :
    readText? ('\'' :: body) = readLiteral? body := by
  rw [readText?]
  exact h

/-- A text on one line, with escapes. A text that is not empty does not begin with a bare mark, so
the opening mark is not the first of three. -/
theorem readText?_basic (cs : List Char) {rest : List Char} (hrest : rest.head? ≠ some '"') :
    readText? ('"' :: (writeBasic false 0 cs ++ '"' :: rest)) = some (cs, rest) := by
  rw [readText?_double, readBasic?_writeBasic]
  intro r heq
  cases cs with
  | nil =>
    rw [writeBasic, List.nil_append, List.cons.injEq] at heq
    simp [heq.2] at hrest
  | cons c cs =>
    rw [writeBasic] at heq
    by_cases hquote : c = '"'
    · simp [hquote] at heq
    · rw [if_neg hquote, List.append_assoc] at heq
      apply head?_ne_quote_of_writesChar hquote (writesChar_writeChar false hquote)
      rw [heq, List.head?_cons]

/-- A text on one line, as it is. -/
theorem readText?_literal {cs : List Char} (hstyle : Style.of cs = .literal) (rest : List Char) :
    readText? ('\'' :: (cs ++ '\'' :: rest)) = some (cs, rest) := by
  have hshows := shows_of_style hstyle (by decide) (by decide)
  simp only [Style.shows, Bool.and_eq_true, Bool.not_eq_true', List.any_eq_false,
    List.contains_eq_mem, decide_eq_false_iff_not] at hshows
  obtain ⟨hescape, hquote, hline⟩ := hshows
  have hplain : ∀ c ∈ cs, isPlain c = true := fun c hc =>
    isPlain_of_not_needsEscape (by simpa using hescape c hc) fun heq => hline (heq ▸ hc)
  rw [readText?_single, readLiteral?_append hplain hquote]
  intro r heq
  cases cs with
  | nil => cases hstyle
  | cons c cs =>
    rw [List.cons_append, List.cons.injEq] at heq
    exact hquote (heq.1 ▸ List.mem_cons_self)

/-- A text over several lines, with escapes. -/
theorem readText?_longBasic (cs : List Char) {rest : List Char} (hrest : rest.head? ≠ some '"') :
    readText? ('"' :: '"' :: '"' :: ((if cs.contains '\n' then ['\n'] else []) ++
      (writeBasic true 0 cs ++ '"' :: '"' :: '"' :: rest))) = some (cs, rest) := by
  rw [readText?, dropFirstLineEnd_body]
  · exact readLongBasic?_writeBasic (Nat.zero_le 2) cs hrest
  · intro hline
    cases cs with
    | nil => simp [writeBasic]
    | cons c cs =>
      rw [List.mem_cons, not_or] at hline
      rw [writeBasic]
      by_cases hquote : c = '"'
      · simp [hquote]
      · rw [if_neg hquote, List.append_assoc]
        exact head?_of_writesChar (writesChar_writeChar true hquote) (Ne.symm hline.1) _

/-- A text over several lines, as it is. -/
theorem readText?_longLiteral {cs : List Char} (hstyle : Style.of cs = .longLiteral)
    {rest : List Char} (hrest : rest.head? ≠ some '\'') :
    readText? ('\'' :: '\'' :: '\'' :: ((if cs.contains '\n' then ['\n'] else []) ++
      (cs ++ '\'' :: '\'' :: '\'' :: rest))) = some (cs, rest) := by
  have hshows := shows_of_style hstyle (by decide) (by decide)
  simp only [Style.shows, Bool.and_eq_true, Bool.not_eq_true', List.any_eq_false,
    decide_eq_true_eq] at hshows
  obtain ⟨hescape, hrun⟩ := hshows
  have hplain : ∀ c ∈ cs, isLongPlain c = true := fun c hc =>
    isLongPlain_of_not_needsEscape (by simpa using hescape c hc)
  rw [readText?, dropFirstLineEnd_body]
  · exact readLongLiteral?_append (Nat.zero_le 2) hrun hplain hrest
  · intro hline
    cases cs with
    | nil => simp
    | cons c cs =>
      have hc := hplain c List.mem_cons_self
      rw [List.mem_cons, not_or] at hline
      have hreturn : c ≠ '\r' := by
        rintro rfl
        revert hc
        decide
      simp [Ne.symm hline.1, hreturn]

/-- **Every quoted text is read back.** Reading it gives the text and what follows its closing
marks, as long as no further mark follows them. -/
theorem readText?_quoted (cs : List Char) {rest : List Char}
    (hdouble : rest.head? ≠ some '"') (hsingle : rest.head? ≠ some '\'') :
    readText? (quoted cs ++ rest) = some (cs, rest) := by
  unfold quoted
  cases hstyle : Style.of cs with
  | basic => simpa [Style.marks, Style.body] using readText?_basic cs hdouble
  | literal => simpa [Style.marks, Style.body] using readText?_literal hstyle rest
  | longBasic =>
    simp only [Style.marks, Style.body, List.append_assoc, List.cons_append, List.nil_append]
    exact readText?_longBasic cs hdouble
  | longLiteral =>
    simp only [Style.marks, Style.body, List.append_assoc, List.cons_append, List.nil_append]
    exact readText?_longLiteral hstyle hsingle

end LinkWatch.Toml
