import LinkWatch.Json.Node
import LinkWatch.Proofs.WrittenNumbers

/-!
# Every spelling of a document is read

The grammar of documents says how a document can be spelled: with any space between its parts. What
it allows is read as that document, whatever follows, as long as that does not go on with a number.
The compact text of a document is one of its spellings, if its numbers and strings follow the
grammar.
-/

namespace LinkWatch.Json

/-! ## The grammar -/

/-- Space between the parts of a document. -/
def IsBlank (cs : List Char) : Prop :=
  ∀ c ∈ cs, isSpace c = true

/-- What may stand between the quotes of a string. -/
inductive IsBody : List Char → Prop
  | nil : IsBody []
  | plain {c : Char} {cs : List Char} (hquote : c ≠ '"') (hescape : c ≠ '\\')
      (hcontrol : 0x20 ≤ c.toNat) (h : IsBody cs) : IsBody (c :: cs)
  | short {e : Char} {cs : List Char} (he : (shortEscape? e).isSome = true) (h : IsBody cs) :
      IsBody ('\\' :: e :: cs)
  | unit {a b c d : Char} {cs : List Char} (hunit : (hexUnit? a b c d).isSome = true)
      (h : IsBody cs) : IsBody ('\\' :: 'u' :: a :: b :: c :: d :: cs)

mutual

/-- The texts of a document, without space at their ends. -/
inductive Spells : Node → List Char → Prop
  | null : Spells .null "null".toList
  | yes : Spells (.bool true) "true".toList
  | no : Spells (.bool false) "false".toList
  | number {n : Numeral} (h : n.isProper = true) : Spells (.number n) n.text
  | string {body : List Char} (h : IsBody body) : Spells (.string body) (quote body)
  | emptyArray {space : List Char} (h : IsBlank space) :
      Spells (.array []) ('[' :: (space ++ [']']))
  | array {items : List Node} {inner : List Char} (h : SpellsItems items inner) :
      Spells (.array items) ('[' :: (inner ++ [']']))
  | emptyObject {space : List Char} (h : IsBlank space) :
      Spells (.object []) ('{' :: (space ++ ['}']))
  | object {members : List (List Char × Node)} {inner : List Char}
      (h : SpellsMembers members inner) : Spells (.object members) ('{' :: (inner ++ ['}']))

/-- The texts of items with commas between them. -/
inductive SpellsItems : List Node → List Char → Prop
  | last {item : Node} {before cs after : List Char} (hbefore : IsBlank before)
      (h : Spells item cs) (hafter : IsBlank after) : SpellsItems [item] (before ++ (cs ++ after))
  | next {item : Node} {items : List Node} {before cs after more : List Char}
      (hbefore : IsBlank before) (h : Spells item cs) (hafter : IsBlank after)
      (hmore : SpellsItems items more) :
      SpellsItems (item :: items) (before ++ (cs ++ (after ++ ',' :: more)))

/-- The texts of members with commas between them. -/
inductive SpellsMembers : List (List Char × Node) → List Char → Prop
  | last {key : List Char} {value : Node} {before between space cs after : List Char}
      (hbefore : IsBlank before) (hkey : IsBody key) (hbetween : IsBlank between)
      (hspace : IsBlank space) (h : Spells value cs) (hafter : IsBlank after) :
      SpellsMembers [(key, value)]
        (before ++ (quote key ++ (between ++ ':' :: (space ++ (cs ++ after)))))
  | next {key : List Char} {value : Node} {members : List (List Char × Node)}
      {before between space cs after more : List Char}
      (hbefore : IsBlank before) (hkey : IsBody key) (hbetween : IsBlank between)
      (hspace : IsBlank space) (h : Spells value cs) (hafter : IsBlank after)
      (hmore : SpellsMembers members more) :
      SpellsMembers ((key, value) :: members)
        (before ++ (quote key ++ (between ++ ':' :: (space ++ (cs ++ (after ++ ',' :: more))))))

end

/-- A text is one of a document, with any space at its ends. -/
def IsTextOf (text : String) (n : Node) : Prop :=
  ∃ before cs after, IsBlank before ∧ Spells n cs ∧ IsBlank after ∧
    text.toList = before ++ (cs ++ after)

/-! ## Space -/

/-- Blanks before a text are skipped. -/
theorem skipSpace_append {space : List Char} (h : IsBlank space) (cs : List Char) :
    skipSpace (space ++ cs) = skipSpace cs :=
  List.dropWhile_append_of_pos h

theorem skipSpace_cons {c : Char} (h : isSpace c = false) (cs : List Char) :
    skipSpace (c :: cs) = c :: cs := by
  rw [skipSpace, List.dropWhile_cons_of_neg (by simp [h])]

/-! ## Strings -/

/-- A string is read up to its closing quote. -/
theorem readBody?_append {body : List Char} (h : IsBody body) (rest : List Char) :
    readBody? (body ++ '"' :: rest) = some (body, rest) := by
  induction h with
  | nil => rfl
  | plain hquote hescape hcontrol _ ih =>
    rw [List.cons_append, readBody?, ih]
    · simp [hescape, Nat.not_lt.2 hcontrol]
    all_goals simp_all
  | @short e cs he _ ih =>
    have hu : e ≠ 'u' := by
      rintro rfl
      cases he
    rw [List.cons_append, List.cons_append, readBody?, if_pos he, ih]
    · rfl
    all_goals simp_all
  | unit hunit _ ih =>
    simp only [List.cons_append]
    rw [readBody?, if_pos hunit, ih]
    rfl

/-! ## Numbers -/

/-- What follows a number does not go on with it. -/
def EndsNumber (rest : List Char) : Prop :=
  ∀ c ∈ rest.head?, c.isDigit = false ∧ c ≠ '.' ∧ c ≠ 'e' ∧ c ≠ 'E'

/-- Digits are taken up to what is no digit. -/
theorem takeWhile_digits {digits rest : List Char} (hdigits : ∀ c ∈ digits, c.isDigit = true)
    (hrest : ∀ c ∈ rest.head?, c.isDigit = false) :
    (digits ++ rest).takeWhile Char.isDigit = digits ∧
      (digits ++ rest).dropWhile Char.isDigit = rest := by
  rw [List.takeWhile_append_of_pos hdigits, List.dropWhile_append_of_pos hdigits]
  cases rest with
  | nil => simp
  | cons c rest =>
    have hc : ¬ c.isDigit = true := by simp [hrest c rfl]
    rw [List.takeWhile_cons_of_neg hc, List.dropWhile_cons_of_neg hc, List.append_nil]
    exact ⟨rfl, rfl⟩

/-- An exponent follows the grammar. -/
def Exponent.isProper (e : Exponent) : Bool :=
  (e.mark == 'e' || e.mark == 'E') && e.sign.all (fun s => s == '+' || s == '-')
    && isDigits e.digits

theorem readExponent?_none {rest : List Char} (hrest : EndsNumber rest) :
    readExponent? rest = some (none, rest) := by
  cases rest with
  | nil => rfl
  | cons c rest =>
    obtain ⟨-, -, hlower, hupper⟩ := hrest c rfl
    simp [readExponent?, hlower, hupper]

theorem readExponent?_text {e : Exponent} (h : e.isProper = true) {rest : List Char}
    (hrest : ∀ c ∈ rest.head?, c.isDigit = false) :
    readExponent? (e.text ++ rest) = some (some e, rest) := by
  obtain ⟨mark, sign, digits⟩ := e
  simp only [Exponent.isProper, Bool.and_eq_true] at h
  obtain ⟨⟨hmark, hsign⟩, hdigits⟩ := h
  obtain ⟨hne, hall⟩ := isDigits_iff.1 hdigits
  obtain ⟨htake, hdrop⟩ := takeWhile_digits hall hrest
  have htext : (⟨mark, sign, digits⟩ : Exponent).text ++ rest =
      mark :: (sign.toList ++ (digits ++ rest)) := by
    simp [Exponent.text]
  rw [htext]
  cases sign with
  | none =>
    -- a digit is no sign
    have hhead : ∀ s more, s.isDigit = false → digits ++ rest ≠ s :: more := by
      intro s more hs heq
      obtain ⟨d, ds, rfl⟩ := List.exists_cons_of_ne_nil hne
      exact ne_of_holds (hall d List.mem_cons_self) hs (List.cons.inj heq).1
    rw [Option.toList_none, List.nil_append, readExponent?, if_pos hmark]
    · simp only [htake, hdrop, hne, if_false]
    · exact fun more heq => hhead '+' more (by decide) heq
    · exact fun more heq => hhead '-' more (by decide) heq
  | some s =>
    simp only [Option.all_some, Bool.or_eq_true, beq_iff_eq] at hsign
    rcases hsign with rfl | rfl
    all_goals
      rw [Option.toList_some, List.singleton_append, readExponent?, if_pos hmark]
      simp only [htake, hdrop, hne, if_false]

theorem readFraction?_none {rest : List Char} (hrest : rest.head? ≠ some '.') :
    readFraction? rest = some (none, rest) := by
  rw [readFraction?]
  rintro more rfl
  exact hrest rfl

theorem readFraction?_text {f : List Char} (h : isDigits f = true) {rest : List Char}
    (hrest : ∀ c ∈ rest.head?, c.isDigit = false) :
    readFraction? ('.' :: (f ++ rest)) = some (some f, rest) := by
  obtain ⟨hne, hall⟩ := isDigits_iff.1 h
  obtain ⟨htake, hdrop⟩ := takeWhile_digits hall hrest
  simp only [readFraction?, htake, hdrop, hne, if_false]

/-- What is written behind the whole part of a number ends its digits, and is read as the fraction
and the exponent that it has. -/
theorem readTail_text {fraction : Option (List Char)} {exponent : Option Exponent}
    (hfraction : fraction.all isDigits = true) (hexponent : exponent.all Exponent.isProper = true)
    {rest : List Char} (hrest : EndsNumber rest) :
    ∃ middle tail, middle = (fraction.elim [] fun f => '.' :: f) ++ tail ∧
      tail = exponent.elim [] Exponent.text ++ rest ∧
      (∀ c ∈ middle.head?, c.isDigit = false) ∧
      readFraction? middle = some (fraction, tail) ∧
      readExponent? tail = some (exponent, rest) := by
  refine ⟨_, _, rfl, rfl, ?_⟩
  have htail : (∀ c ∈ (exponent.elim [] Exponent.text ++ rest).head?,
      c.isDigit = false ∧ c ≠ '.') ∧
      readExponent? (exponent.elim [] Exponent.text ++ rest) = some (exponent, rest) := by
    cases exponent with
    | none => exact ⟨fun c hc => ⟨(hrest c hc).1, (hrest c hc).2.1⟩, readExponent?_none hrest⟩
    | some e =>
      refine ⟨fun c hc => ?_, readExponent?_text hexponent fun c hc => (hrest c hc).1⟩
      simp only [Option.all_some, Exponent.isProper, Bool.and_eq_true, Bool.or_eq_true,
        beq_iff_eq] at hexponent
      obtain rfl : e.mark = c := Option.some.inj hc
      rcases hexponent.1.1 with hmark | hmark
      · rw [hmark]
        decide
      · rw [hmark]
        decide
  refine ⟨?_, ?_, htail.2⟩
  · cases fraction with
    | none => exact fun c hc => (htail.1 c hc).1
    | some f =>
      intro c hc
      obtain rfl : '.' = c := Option.some.inj hc
      decide
  · cases fraction with
    | none => exact readFraction?_none fun hpoint => (htail.1 '.' hpoint).2 rfl
    | some f => exact readFraction?_text hfraction fun c hc => (htail.1 c hc).1

/-- A number that follows the grammar is read, whatever follows that does not go on with it. -/
theorem readNumeral?_text {n : Numeral} (h : n.isProper = true) {rest : List Char}
    (hrest : EndsNumber rest) : readNumeral? (n.text ++ rest) = some (n, rest) := by
  obtain ⟨negative, whole, fraction, exponent⟩ := n
  simp only [Numeral.isProper, Bool.and_eq_true] at h
  obtain ⟨⟨⟨hwhole, hzero⟩, hfraction⟩, hexponent⟩ := h
  obtain ⟨hne, hall⟩ := isDigits_iff.1 hwhole
  obtain ⟨middle, tail, hmiddle, htail, hdigit, hreadFraction, hreadExponent⟩ :=
    readTail_text hfraction hexponent hrest
  obtain ⟨htake, hdrop⟩ := takeWhile_digits hall hdigit
  obtain ⟨cs, hcs⟩ : ∃ cs, cs = (if negative then ['-'] else []) ++ (whole ++ middle) := ⟨_, rfl⟩
  have htext : (⟨negative, whole, fraction, exponent⟩ : Numeral).text ++ rest = cs := by
    simp [Numeral.text, hcs, hmiddle, htail]
  have hhead : (cs.head? == some '-') = negative := by
    cases negative with
    | true => rw [hcs]; rfl
    | false =>
      obtain ⟨d, ds, rfl⟩ := List.exists_cons_of_ne_nil hne
      have hd : d ≠ '-' := ne_of_holds (hall d List.mem_cons_self) (by decide)
      simp [hcs, hd]
  have hunsigned : (if negative then cs.tail else cs) = whole ++ middle := by
    cases negative with
    | true => rw [hcs]; rfl
    | false => rw [hcs]; rfl
  have hguard : (whole ≠ [] && (whole.length = 1 || whole.head? ≠ some '0')) = true := by
    simpa [hne] using hzero
  rw [htext, readNumeral?]
  simp only [hhead, hunsigned, htake, hdrop, hguard, guard, if_true, hreadFraction,
    Option.bind_eq_bind, Option.pure_def, Option.bind_some, hreadExponent]

/-! ## Documents -/

/-- A number begins with its sign or with a digit. -/
theorem head_of_isProper {n : Numeral} (h : n.isProper = true) :
    ∃ c tail, n.text = c :: tail ∧ (c = '-' ∨ c.isDigit = true) := by
  simp only [Numeral.isProper, Bool.and_eq_true] at h
  obtain ⟨hne, hall⟩ := isDigits_iff.1 h.1.1.1
  obtain ⟨d, ds, hwhole⟩ := List.exists_cons_of_ne_nil hne
  cases hnegative : n.negative with
  | true => exact ⟨'-', _, by rw [Numeral.text, hnegative]; rfl, Or.inl rfl⟩
  | false =>
    have hd : d.isDigit = true := hall d (hwhole ▸ List.mem_cons_self)
    exact ⟨d, _, by rw [Numeral.text, hnegative, hwhole]; rfl, Or.inr hd⟩

/-- A document does not begin with space, nor like the end of an array. -/
theorem head_of_spells {n : Node} {cs : List Char} (h : Spells n cs) :
    ∃ c tail, cs = c :: tail ∧ isSpace c = false ∧ c ≠ ']' := by
  cases h with
  | null => exact ⟨'n', _, rfl, by decide, by decide⟩
  | yes => exact ⟨'t', _, rfl, by decide, by decide⟩
  | no => exact ⟨'f', _, rfl, by decide, by decide⟩
  | string => exact ⟨'"', _, rfl, by decide, by decide⟩
  | emptyArray => exact ⟨'[', _, rfl, by decide, by decide⟩
  | array => exact ⟨'[', _, rfl, by decide, by decide⟩
  | emptyObject => exact ⟨'\x7b', _, rfl, by decide, by decide⟩
  | object => exact ⟨'\x7b', _, rfl, by decide, by decide⟩
  | number h =>
    obtain ⟨c, tail, htext, rfl | hdigit⟩ := head_of_isProper h
    · exact ⟨'-', tail, htext, by decide, by decide⟩
    · have hne : ∀ d : Char, d.isDigit = false → c ≠ d := fun _ hd => ne_of_holds hdigit hd
      refine ⟨c, tail, htext, ?_, hne ']' (by decide)⟩
      simp [isSpace, hne ' ' (by decide), hne '\t' (by decide), hne '\n' (by decide),
        hne '\r' (by decide)]

/-- Space in front of a value is passed over. -/
theorem readValue?_blank {space : List Char} (h : IsBlank space) (fuel : Nat) (cs : List Char) :
    readValue? fuel (space ++ cs) = readValue? fuel cs := by
  cases fuel with
  | zero => rfl
  | succ fuel => rw [readValue?, readValue?, skipSpace_append h]

theorem endsNumber_cons {c : Char} (h : c.isDigit = false ∧ c ≠ '.' ∧ c ≠ 'e' ∧ c ≠ 'E')
    (rest : List Char) : EndsNumber (c :: rest) := by
  rintro d hd
  obtain rfl : c = d := Option.some.inj hd
  exact h

/-- What stands behind space ends a number if it does so without the space. -/
theorem endsNumber_blank {space : List Char} (h : IsBlank space) {rest : List Char}
    (hrest : EndsNumber rest) : EndsNumber (space ++ rest) := by
  cases space with
  | nil => exact hrest
  | cons c space =>
    have hc := h c List.mem_cons_self
    apply endsNumber_cons
    simp only [isSpace, Bool.or_eq_true, beq_iff_eq] at hc
    rcases hc with ((rfl | rfl) | rfl) | rfl
    all_goals decide

/-- A number is read up to where it ends. -/
theorem readValue?_number {n : Numeral} (h : n.isProper = true) {rest : List Char}
    (hrest : EndsNumber rest) (fuel : Nat) :
    readValue? (fuel + 1) (n.text ++ rest) = some (.number n, rest) := by
  obtain ⟨c, tail, htext, hspace, -⟩ := head_of_spells (.number h)
  have hread := readNumeral?_text h hrest
  obtain ⟨c', tail', htext', hc⟩ := head_of_isProper h
  obtain ⟨rfl, rfl⟩ : c' = c ∧ tail' = tail := by simpa [htext'] using htext
  have hne : ∀ d : Char, d ≠ '-' → d.isDigit = false → c' ≠ d := by
    rintro d hsign hd rfl
    rcases hc with rfl | hdigit
    · exact hsign rfl
    · rw [hd] at hdigit
      cases hdigit
  rw [htext, List.cons_append] at hread ⊢
  rw [readValue?, skipSpace_cons hspace]
  split
  case h_7 => rw [hread]; rfl
  all_goals
    next heq => exact absurd (List.cons.inj heq).1 (hne _ (by decide) (by decide))

/-- Where items are spelled the array does not end at once. -/
theorem head?_of_spellsItems {items : List Node} {cs : List Char} (h : SpellsItems items cs)
    (rest : List Char) : (skipSpace (cs ++ rest)).head? ≠ some ']' := by
  have hhead : ∃ before c tail, IsBlank before ∧ cs = before ++ c :: tail ∧
      isSpace c = false ∧ c ≠ ']' := by
    cases h with
    | last hbefore h hafter =>
      obtain ⟨c, tail, rfl, hspace, hne⟩ := head_of_spells h
      exact ⟨_, c, _, hbefore, rfl, hspace, hne⟩
    | next hbefore h hafter hmore =>
      obtain ⟨c, tail, rfl, hspace, hne⟩ := head_of_spells h
      exact ⟨_, c, _, hbefore, rfl, hspace, hne⟩
  obtain ⟨before, c, tail, hbefore, rfl, hspace, hne⟩ := hhead
  rw [List.append_assoc, skipSpace_append hbefore, List.cons_append, skipSpace_cons hspace]
  simpa using hne

/-- Where members are spelled the object does not end at once. -/
theorem head?_of_spellsMembers {members : List (List Char × Node)} {cs : List Char}
    (h : SpellsMembers members cs) (rest : List Char) :
    (skipSpace (cs ++ rest)).head? ≠ some '\x7d' := by
  have hhead : ∃ before tail, IsBlank before ∧ cs = before ++ '"' :: tail := by
    cases h with
    | last hbefore => exact ⟨_, _, hbefore, rfl⟩
    | next hbefore => exact ⟨_, _, hbefore, rfl⟩
  obtain ⟨before, tail, hbefore, rfl⟩ := hhead
  rw [List.append_assoc, skipSpace_append hbefore, List.cons_append, skipSpace_cons rfl]
  simp

/-- An array is read from its bracket, if its items are read. -/
theorem readValue?_array {fuel : Nat} {cs rest : List Char} {items : List Node}
    (hhead : (skipSpace cs).head? ≠ some ']') (h : readItems? fuel cs = some (items, rest)) :
    readValue? (fuel + 1) ('[' :: cs) = some (.array items, rest) := by
  rw [readValue?, skipSpace_cons rfl]
  simp only []
  split
  · next heq =>
    rw [heq] at hhead
    simp at hhead
  · rw [h]
    rfl

theorem readValue?_object {fuel : Nat} {cs rest : List Char} {members : List (List Char × Node)}
    (hhead : (skipSpace cs).head? ≠ some '\x7d') (h : readMembers? fuel cs = some (members, rest)) :
    readValue? (fuel + 1) ('\x7b' :: cs) = some (.object members, rest) := by
  rw [readValue?, skipSpace_cons rfl]
  simp only []
  split
  · next heq =>
    rw [heq] at hhead
    simp at hhead
  · rw [h]
    rfl

/-- A member is read where its value is, from behind its name. -/
theorem readMembers?_value {fuel : Nat} {before key between cs : List Char}
    (hbefore : IsBlank before) (hkey : IsBody key) (hbetween : IsBlank between) :
    readMembers? (fuel + 1) (before ++ (quote key ++ (between ++ ':' :: cs))) =
      match readValue? fuel cs with
      | none => none
      | some (value, rest) =>
        match skipSpace rest with
        | '\x7d' :: rest => some ([(key, value)], rest)
        | ',' :: rest => (readMembers? fuel rest).map fun p => ((key, value) :: p.1, p.2)
        | _ => none := by
  have hquote : quote key ++ (between ++ ':' :: cs) =
      '"' :: (key ++ '"' :: (between ++ ':' :: cs)) := by
    simp [quote]
  rw [readMembers?, skipSpace_append hbefore, hquote, skipSpace_cons rfl]
  simp only [readBody?_append hkey, skipSpace_append hbetween]
  rw [skipSpace_cons rfl]
  rfl

mutual

/-- A spelled document is read as that document, up to its end. -/
theorem readValue?_spells {n : Node} {cs : List Char} (h : Spells n cs) {rest : List Char}
    (hrest : EndsNumber rest) {fuel : Nat} (hfuel : 2 * cs.length ≤ fuel) :
    readValue? fuel (cs ++ rest) = some (n, rest) := by
  obtain ⟨c, tail, hcs, -, -⟩ := head_of_spells h
  obtain ⟨fuel, rfl⟩ : ∃ k, fuel = k + 1 :=
    ⟨fuel - 1, by rw [hcs, List.length_cons] at hfuel; omega⟩
  cases h with
  | null => rfl
  | yes => rfl
  | no => rfl
  | number h => exact readValue?_number h hrest fuel
  | @string body h =>
    have hquote : quote body ++ rest = '"' :: (body ++ '"' :: rest) := by simp [quote]
    rw [hquote, readValue?, skipSpace_cons rfl]
    simp only [readBody?_append h]
    rfl
  | @emptyArray space h =>
    rw [List.cons_append, List.append_assoc, readValue?, skipSpace_cons rfl]
    simp only [skipSpace_append h]
    rfl
  | @array items inner h =>
    rw [List.cons_append, List.append_assoc]
    exact readValue?_array (head?_of_spellsItems h _)
      (readItems?_spells h rest (by simp at hfuel; omega))
  | @emptyObject space h =>
    rw [List.cons_append, List.append_assoc, readValue?, skipSpace_cons rfl]
    simp only [skipSpace_append h]
    rfl
  | @object members inner h =>
    rw [List.cons_append, List.append_assoc]
    exact readValue?_object (head?_of_spellsMembers h _)
      (readMembers?_spells h rest (by simp at hfuel; omega))

/-- Spelled items are read up to the end of their array. -/
theorem readItems?_spells {items : List Node} {cs : List Char} (h : SpellsItems items cs)
    (rest : List Char) {fuel : Nat} (hfuel : 2 * cs.length + 1 ≤ fuel) :
    readItems? fuel (cs ++ ']' :: rest) = some (items, rest) := by
  obtain ⟨fuel, rfl⟩ : ∃ k, fuel = k + 1 := ⟨fuel - 1, by omega⟩
  cases h with
  | @last item before cs after hbefore h hafter =>
    have hread : readValue? fuel (cs ++ (after ++ ']' :: rest)) =
        some (item, after ++ ']' :: rest) :=
      readValue?_spells h (endsNumber_blank hafter (endsNumber_cons (by decide) rest))
        (by simp at hfuel; omega)
    rw [List.append_assoc, List.append_assoc, readItems?, readValue?_blank hbefore, hread]
    simp only [skipSpace_append hafter]
    rfl
  | @next item items before cs after more hbefore h hafter hmore =>
    have hread : readValue? fuel (cs ++ (after ++ ',' :: (more ++ ']' :: rest))) =
        some (item, after ++ ',' :: (more ++ ']' :: rest)) :=
      readValue?_spells h (endsNumber_blank hafter (endsNumber_cons (by decide) _))
        (by simp at hfuel; omega)
    have hitems : readItems? fuel (more ++ ']' :: rest) = some (items, rest) :=
      readItems?_spells hmore rest (by simp at hfuel; omega)
    rw [List.append_assoc, List.append_assoc, List.append_assoc, List.cons_append, readItems?,
      readValue?_blank hbefore, hread]
    simp only [skipSpace_append hafter, skipSpace_cons (c := ',') rfl]
    rw [hitems]
    rfl

/-- Spelled members are read up to the end of their object. -/
theorem readMembers?_spells {members : List (List Char × Node)} {cs : List Char}
    (h : SpellsMembers members cs) (rest : List Char) {fuel : Nat}
    (hfuel : 2 * cs.length + 1 ≤ fuel) :
    readMembers? fuel (cs ++ '\x7d' :: rest) = some (members, rest) := by
  obtain ⟨fuel, rfl⟩ : ∃ k, fuel = k + 1 := ⟨fuel - 1, by omega⟩
  cases h with
  | @last key value before between space cs after hbefore hkey hbetween hspace h hafter =>
    have hread : readValue? fuel (cs ++ (after ++ '\x7d' :: rest)) =
        some (value, after ++ '\x7d' :: rest) :=
      readValue?_spells h (endsNumber_blank hafter (endsNumber_cons (by decide) rest))
        (by simp at hfuel; omega)
    simp only [List.append_assoc, List.cons_append]
    rw [readMembers?_value hbefore hkey hbetween, readValue?_blank hspace, hread]
    simp only [skipSpace_append hafter]
    rfl
  | @next key value members before between space cs after more hbefore hkey hbetween hspace h
      hafter hmore =>
    have hread : readValue? fuel (cs ++ (after ++ ',' :: (more ++ '\x7d' :: rest))) =
        some (value, after ++ ',' :: (more ++ '\x7d' :: rest)) :=
      readValue?_spells h (endsNumber_blank hafter (endsNumber_cons (by decide) _))
        (by simp at hfuel; omega)
    have hmembers : readMembers? fuel (more ++ '\x7d' :: rest) = some (members, rest) :=
      readMembers?_spells hmore rest (by simp at hfuel; omega)
    simp only [List.append_assoc, List.cons_append]
    rw [readMembers?_value hbefore hkey hbetween, readValue?_blank hspace, hread]
    simp only [skipSpace_append hafter, skipSpace_cons (c := ',') rfl]
    rw [hmembers]
    rfl

end

/-- **Every text of a document is read as that document.** -/
theorem parse?_of_isTextOf {text : String} {n : Node} (h : IsTextOf text n) :
    Node.parse? text.toList = some n := by
  obtain ⟨before, cs, after, hbefore, hspells, hafter, htext⟩ := h
  have hends : EndsNumber (after ++ []) := endsNumber_blank hafter (by intro c hc; cases hc)
  rw [List.append_nil] at hends
  have hread : readValue? (2 * text.toList.length + 2) (cs ++ after) = some (n, after) :=
    readValue?_spells hspells hends (by rw [htext]; simp; omega)
  have hend : skipSpace after = [] := by
    have hskip := skipSpace_append hafter []
    rw [List.append_nil] at hskip
    rw [hskip]
    rfl
  rw [Node.parse?, htext, readValue?_blank hbefore, ← htext, hread]
  simp only [hend, if_true]

/-! ## Compact texts -/

theorem isBlank_nil : IsBlank [] := by
  intro c hc
  cases hc

/-- Items that are spelled compactly are so with commas between them. -/
theorem spellsItems_compact (item : Node) (items : List Node)
    (h : ∀ n ∈ item :: items, Spells n n.compact) :
    SpellsItems (item :: items) (joinWith [','] (compactItems (item :: items))) := by
  induction items generalizing item with
  | nil =>
    have hlast := SpellsItems.last isBlank_nil (h item List.mem_cons_self) isBlank_nil
    rw [List.nil_append, List.append_nil] at hlast
    simpa [compactItems, joinWith] using hlast
  | cons next items ih =>
    have hmore := ih next fun n hn => h n (List.mem_cons_of_mem item hn)
    have hnext := SpellsItems.next isBlank_nil (h item List.mem_cons_self) isBlank_nil hmore
    rw [List.nil_append, List.nil_append] at hnext
    simpa [compactItems, joinWith] using hnext

/-- The compact text of an array spells it, if those of its items do. -/
theorem spells_compact_array {items : List Node} (h : ∀ n ∈ items, Spells n n.compact) :
    Spells (.array items) (Node.array items).compact := by
  cases items with
  | nil => exact Spells.emptyArray isBlank_nil
  | cons item items =>
    rw [Node.compact]
    exact Spells.array (spellsItems_compact item items h)

/-- The compact texts of some members, with commas between them, spell the members. -/
theorem spellsMembers_compact (first : List Char × Node) (members : List (List Char × Node))
    (h : ∀ m ∈ first :: members, IsBody m.1 ∧ Spells m.2 m.2.compact) :
    SpellsMembers (first :: members) (joinWith [','] (compactMembers (first :: members))) := by
  obtain ⟨hkey, hvalue⟩ := h first List.mem_cons_self
  induction members generalizing first with
  | nil =>
    have hlast := SpellsMembers.last isBlank_nil hkey isBlank_nil isBlank_nil hvalue isBlank_nil
    simpa [compactMembers, joinWith] using hlast
  | cons next members ih =>
    have hrest : ∀ m ∈ next :: members, IsBody m.1 ∧ Spells m.2 m.2.compact :=
      fun m hm => h m (List.mem_cons_of_mem first hm)
    obtain ⟨hnextKey, hnextValue⟩ := hrest next List.mem_cons_self
    have hmore := ih next hrest hnextKey hnextValue
    have hnext :=
      SpellsMembers.next isBlank_nil hkey isBlank_nil isBlank_nil hvalue isBlank_nil hmore
    simpa [compactMembers, joinWith] using hnext

theorem spells_compact_object {members : List (List Char × Node)}
    (h : ∀ m ∈ members, IsBody m.1 ∧ Spells m.2 m.2.compact) :
    Spells (.object members) (Node.object members).compact := by
  cases members with
  | nil => exact Spells.emptyObject isBlank_nil
  | cons first members =>
    rw [Node.compact]
    exact Spells.object (spellsMembers_compact first members h)

/-! ## Escaped texts -/

/-- The ways in which one character can stand in a string: as itself, by a letter, by its number, or
by the numbers of a surrogate pair. -/
inductive EscapesChar (c : Char) : List Char → Prop where
  | plain (hquote : c ≠ '"') (hescape : c ≠ '\\') (hcontrol : 0x20 ≤ c.toNat) : EscapesChar c [c]
  | short {e : Char} (he : shortEscape? e = some c) : EscapesChar c ['\\', e]
  | unit {d₁ d₂ d₃ d₄ : Char} (hd : hexUnit? d₁ d₂ d₃ d₄ = some c.toNat) :
      EscapesChar c ['\\', 'u', d₁, d₂, d₃, d₄]
  | pair {d₁ d₂ d₃ d₄ e₁ e₂ e₃ e₄ : Char} {high low : Nat} (hd : hexUnit? d₁ d₂ d₃ d₄ = some high)
      (he : hexUnit? e₁ e₂ e₃ e₄ = some low) (hhigh : 0xd800 ≤ high ∧ high < 0xdc00)
      (hlow : 0xdc00 ≤ low ∧ low < 0xe000)
      (hc : c.toNat = 0x10000 + (high - 0xd800) * 0x400 + (low - 0xdc00)) :
      EscapesChar c ['\\', 'u', d₁, d₂, d₃, d₄, '\\', 'u', e₁, e₂, e₃, e₄]

/-- A text stands in a string, each of its characters in one of these ways. -/
inductive Escapes : List Char → List Char → Prop
  | nil : Escapes [] []
  | cons {c : Char} {text w cs : List Char} (hw : EscapesChar c w) (h : Escapes text cs) :
      Escapes (c :: text) (w ++ cs)

/-- The two digits that are written for a control character are read as its number. -/
theorem hexUnit?_written {n : Nat} (h : n < 0x20) :
    hexUnit? '0' '0' (hexDigit (n / 16)) (hexDigit n) = some n := by
  have hall : ∀ n < 0x20, hexUnit? '0' '0' (hexDigit (n / 16)) (hexDigit n) = some n := by decide
  exact hall n h

/-- What is written for a character stands for it. -/
theorem escapesChar_escapeChar (c : Char) : EscapesChar c (escapeChar c) := by
  -- one case for each way of writing, in the order of the definition
  by_cases hquote : c = '"'
  · subst hquote
    exact .short rfl
  by_cases hescape : c = '\\'
  · subst hescape
    exact .short rfl
  by_cases hbackspace : c = '\x08'
  · subst hbackspace
    exact .short rfl
  by_cases hform : c = '\x0c'
  · subst hform
    exact .short rfl
  by_cases hline : c = '\n'
  · subst hline
    exact .short rfl
  by_cases hreturn : c = '\r'
  · subst hreturn
    exact .short rfl
  by_cases htab : c = '\t'
  · subst htab
    exact .short rfl
  by_cases hcontrol : c.toNat < 0x20
  · have hw : escapeChar c =
        ['\\', 'u', '0', '0', hexDigit (c.toNat / 16), hexDigit c.toNat] := by
      simp [escapeChar, hquote, hescape, hbackspace, hform, hline, hreturn, htab, hcontrol]
    rw [hw]
    exact .unit (hexUnit?_written hcontrol)
  · have hw : escapeChar c = [c] := by
      simp [escapeChar, hquote, hescape, hbackspace, hform, hline, hreturn, htab, hcontrol]
    rw [hw]
    exact .plain hquote hescape (by omega)

/-- A text stands in its escaped form. -/
theorem escapes_escape (cs : List Char) : Escapes cs (escape cs) := by
  induction cs with
  | nil => exact Escapes.nil
  | cons c cs ih =>
    rw [escape, List.flatMap_cons]
    exact Escapes.cons (escapesChar_escapeChar c) ih

/-- A character that is escaped can be put before what stands in a string. -/
theorem isBody_append {c : Char} {w cs : List Char} (hw : EscapesChar c w) (hcs : IsBody cs) :
    IsBody (w ++ cs) := by
  cases hw with
  | plain hquote hescape hcontrol => exact IsBody.plain hquote hescape hcontrol hcs
  | short he => exact IsBody.short (by rw [he]; rfl) hcs
  | unit hd => exact IsBody.unit (by rw [hd]; rfl) hcs
  | pair hd he => exact IsBody.unit (by rw [hd]; rfl) (IsBody.unit (by rw [he]; rfl) hcs)

/-- What stands for a text can stand in a string. -/
theorem isBody_of_escapes {text cs : List Char} (h : Escapes text cs) : IsBody cs := by
  induction h with
  | nil => exact IsBody.nil
  | cons hw _ ih => exact isBody_append hw ih

/-- No character is half of a surrogate pair. -/
theorem isSurrogate_toNat (c : Char) : isSurrogate c.toNat = false := by
  have hvalid : c.toNat < 0xd800 ∨ 0xdfff < c.toNat ∧ c.toNat < 0x110000 := c.valid
  simp only [isSurrogate, Bool.and_eq_false_iff, decide_eq_false_iff_not]
  omega

/-- What stands for a character is read as it, before all that follows. -/
theorem unescape?_append {c : Char} {w cs text : List Char} (hw : EscapesChar c w)
    (hcs : unescape? cs = some text) : unescape? (w ++ cs) = some (c :: text) := by
  cases hw with
  | plain hquote hescape hcontrol =>
    rw [List.singleton_append, unescape?, hcs]
    · simp [hescape]
    all_goals simp_all
  | @short e he =>
    have hu : e ≠ 'u' := by
      rintro rfl
      cases he
    rw [List.cons_append, List.singleton_append, unescape?, he, hcs]
    · rfl
    all_goals simp_all
  | unit hd =>
    simp only [List.cons_append, List.nil_append]
    rw [unescape?, hd]
    simp only [Option.bind_eq_bind, Option.bind_some, isSurrogate_toNat, Bool.false_eq_true,
      if_false, hcs, Char.ofNat_toNat]
    rfl
  | @pair _ _ _ _ _ _ _ _ high low hd he hhigh hlow hc =>
    have hhalf : isSurrogate high = true := by
      simp only [isSurrogate, Bool.and_eq_true, decide_eq_true_eq]
      omega
    have hpair : pairChar? high low = some c := by
      rw [pairChar?, if_pos (by simp [hhigh, hlow]), ← hc, Char.ofNat_toNat]
    simp only [List.cons_append, List.nil_append]
    rw [unescape?, hd]
    simp only [Option.bind_eq_bind, Option.bind_some, hhalf, if_true, he, hpair, hcs]
    rfl

/-- What a text stands in is unescaped to it. -/
theorem unescape?_of_escapes {text cs : List Char} (h : Escapes text cs) :
    unescape? cs = some text := by
  induction h with
  | nil => rfl
  | cons hw _ ih => exact unescape?_append hw ih

/-- The compact text of a string spells it. -/
theorem spells_ofText (s : String) : Spells (.ofText s) (Node.ofText s).compact := by
  rw [Node.ofText, Node.compact]
  exact Spells.string (isBody_of_escapes (escapes_escape s.toList))

theorem spells_ofNat (n : Nat) : Spells (.ofNat n) (Node.ofNat n).compact := by
  rw [Node.ofNat, Node.compact]
  exact Spells.number (isProper_ofNat n)

theorem spells_bool (b : Bool) : Spells (.bool b) (Node.bool b).compact := by
  cases b with
  | false =>
    rw [Node.compact]
    exact Spells.no
  | true =>
    rw [Node.compact]
    exact Spells.yes

/-- An object with named members is spelled compactly if its members are. -/
theorem spells_ofMembers {members : List (String × Node)}
    (h : ∀ m ∈ members, Spells m.2 m.2.compact) :
    Spells (.ofMembers members) (Node.ofMembers members).compact := by
  apply spells_compact_object
  intro m hm
  obtain ⟨named, hnamed, rfl⟩ := List.mem_map.1 hm
  exact ⟨isBody_of_escapes (escapes_escape _), h named hnamed⟩

/-- A node is written as a text of it. -/
theorem isTextOf_text {n : Node} (h : Spells n n.compact) : IsTextOf n.text n :=
  ⟨[], n.compact, [], isBlank_nil, h, isBlank_nil, by simp [Node.text]⟩

end LinkWatch.Json
