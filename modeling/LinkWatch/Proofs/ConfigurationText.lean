import LinkWatch.Document.Configuration
import LinkWatch.Proofs.QuotedStyles
import LinkWatch.Proofs.WrittenNumbers

/-!
# Written settings are read back

The text of the settings is a sequence of lines: headers, fields and one empty line. What reading
such a text gives is told line by line from its end, whatever lines were read before; the values of
the fields are numbers, truth values and arrays of quoted texts, each of which ends where its line
does.
-/

namespace LinkWatch.Toml

/-! ## Between the items of an array -/

/-- A text begins with a part of a value: not with space, a comment or a line end. -/
def BeginsValue (cs : List Char) : Prop :=
  ∃ c tail, cs = c :: tail ∧ isSpace c = false ∧ c ≠ '#' ∧ c ≠ '\n' ∧ c ≠ '\r'

theorem skipSpace_of_begins {cs : List Char} (h : BeginsValue cs) : skipSpace cs = cs := by
  obtain ⟨c, tail, rfl, hspace, -⟩ := h
  rw [skipSpace, List.dropWhile_cons_of_neg (by simp [hspace])]

/-- Before a value nothing is skipped, however many lines may be. -/
theorem skipLines_of_begins {cs : List Char} (h : BeginsValue cs) {spaces : List Char}
    (hspaces : ∀ c ∈ spaces, isSpace c = true) (fuel : Nat) :
    skipLines (fuel + 1) (spaces ++ cs) = cs := by
  have hspace : skipSpace (spaces ++ cs) = cs := by
    rw [skipSpace, List.dropWhile_append_of_pos hspaces]
    exact skipSpace_of_begins h
  obtain ⟨c, tail, rfl, -, hcomment, hline, hreturn⟩ := h
  have hskip : skipComment (c :: tail) = c :: tail := by
    rw [skipComment]
    intro rest heq
    exact hcomment (List.cons.inj heq).1
  have hend : lineEnd? (c :: tail) = none := by
    simp [lineEnd?, hline, hreturn]
  rw [skipLines]
  simp only [hspace, hskip, hend]

theorem skipBetween_of_begins {cs : List Char} (h : BeginsValue cs) : skipBetween cs = cs :=
  skipLines_of_begins h (List.forall_mem_nil _) _

/-- A line end and the space behind it are skipped. -/
theorem skipBetween_indented {cs : List Char} (h : BeginsValue cs) {spaces : List Char}
    (hspaces : ∀ c ∈ spaces, isSpace c = true) : skipBetween ('\n' :: (spaces ++ cs)) = cs :=
  skipLines_of_begins h hspaces (spaces ++ cs).length

theorem begins_bracket (rest : List Char) : BeginsValue (']' :: rest) :=
  ⟨']', rest, rfl, by decide, by decide, by decide, by decide⟩

theorem begins_comma (rest : List Char) : BeginsValue (',' :: rest) :=
  ⟨',', rest, rfl, by decide, by decide, by decide, by decide⟩

/-! ## Quoted texts as items -/

/-- A quoted text begins with one of the two quotes. -/
theorem quoted_eq_cons (cs : List Char) :
    ∃ tail, quoted cs = '"' :: tail ∨ quoted cs = '\'' :: tail := by
  rw [quoted]
  cases Style.of cs with
  | basic => exact ⟨_, Or.inl rfl⟩
  | literal => exact ⟨_, Or.inr rfl⟩
  | longBasic => exact ⟨_, Or.inl rfl⟩
  | longLiteral => exact ⟨_, Or.inr rfl⟩

theorem begins_quoted (cs rest : List Char) : BeginsValue (quoted cs ++ rest) := by
  obtain ⟨tail, h | h⟩ := quoted_eq_cons cs
  · exact ⟨'"', tail ++ rest, by rw [h]; rfl, by decide, by decide, by decide, by decide⟩
  · exact ⟨'\'', tail ++ rest, by rw [h]; rfl, by decide, by decide, by decide, by decide⟩

/-- A quoted text that no further quote follows is read as a value. -/
theorem readValue?_quoted (depth fuel : Nat) (cs : List Char) {rest : List Char}
    (hdouble : rest.head? ≠ some '"') (hsingle : rest.head? ≠ some '\'') :
    readValue? depth (fuel + 1) (quoted cs ++ rest) = some (.text (String.ofList cs), rest) := by
  have hread := readText?_quoted cs hdouble hsingle
  obtain ⟨tail, h | h⟩ := quoted_eq_cons cs
  all_goals
    rw [h, List.cons_append] at hread ⊢
    rw [readValue?, readScalar?, hread]
    · rfl
    all_goals simp

/-- A text on a line of its own with a comma after it. -/
def itemLine (s : String) : List Char :=
  "    ".toList ++ quoted s.toList ++ [',', '\n']

theorem isSpace_of_indentation : ∀ c ∈ "    ".toList, isSpace c = true :=
  List.all_eq_true.1 (by decide)

/-- The lines of some items are the line of the first one and those of the others. -/
theorem flatMap_itemLine_cons (s : String) (ss : List String) (more : List Char) :
    (s :: ss).flatMap itemLine ++ more = "    ".toList ++
      (quoted s.toList ++ ',' :: '\n' :: (ss.flatMap itemLine ++ more)) := by
  simp [itemLine]

/-- There are at least as many characters as items, so the fuel of a text is enough for them. -/
theorem length_le_flatMap_itemLine (ss : List String) :
    ss.length ≤ (ss.flatMap itemLine).length := by
  induction ss with
  | nil => rfl
  | cons s ss ih =>
    simp only [List.flatMap_cons, List.length_append, List.length_cons, itemLine]
    omega

/-- A string is not taken for the end of its array. -/
theorem head?_quoted_ne (cs rest : List Char) : (quoted cs ++ rest).head? ≠ some ']' := by
  obtain ⟨tail, h | h⟩ := quoted_eq_cons cs
  all_goals simp [h]

/-- An item whose comma is followed by the closing bracket is the last one. -/
theorem readItems?_last {depth fuel : Nat} {cs more rest : List Char} {item : Value}
    (hread : readValue? depth fuel cs = some (item, ',' :: more))
    (hmore : skipBetween more = ']' :: rest) :
    readItems? depth (fuel + 1) cs = some ([item], rest) := by
  rw [readItems?, hread]
  simp only [skipBetween_of_begins (begins_comma _), hmore]

/-- An item whose comma is followed by anything else has items after it. -/
theorem readItems?_next {depth fuel : Nat} {cs more next : List Char} {item : Value}
    (hread : readValue? depth fuel cs = some (item, ',' :: more))
    (hmore : skipBetween more = next) (hnext : next.head? ≠ some ']') :
    readItems? depth (fuel + 1) cs =
      (readItems? depth fuel next).map fun p => (item :: p.1, p.2) := by
  rw [readItems?, hread]
  simp only [skipBetween_of_begins (begins_comma _), hmore]
  split
  · simp at hnext
  · rfl

/-- Texts on lines of their own are read up to the closing bracket, from behind the first
indentation. -/
theorem readItems?_itemLines (depth : Nat) (s : String) (ss : List String) {fuel : Nat}
    (hfuel : ss.length + 1 < fuel) (rest : List Char) :
    readItems? depth fuel
        (quoted s.toList ++ ',' :: '\n' :: (ss.flatMap itemLine ++ ']' :: rest)) =
      some ((s :: ss).map Value.text, rest) := by
  induction ss generalizing s fuel with
  | nil =>
    obtain ⟨fuel, rfl⟩ : ∃ k, fuel = k + 2 := ⟨fuel - 2, by simp at hfuel; omega⟩
    have hread := readItems?_last (readValue?_quoted depth fuel s.toList (by simp) (by simp))
      (skipBetween_indented (begins_bracket rest) (List.forall_mem_nil _))
    rw [String.ofList_toList] at hread
    exact hread
  | cons next ss ih =>
    obtain ⟨fuel, rfl⟩ : ∃ k, fuel = k + 2 := ⟨fuel - 2, by simp at hfuel; omega⟩
    have hread := readItems?_next (readValue?_quoted depth fuel s.toList (by simp) (by simp))
      (skipBetween_indented
        (begins_quoted next.toList (',' :: '\n' :: (ss.flatMap itemLine ++ ']' :: rest)))
        isSpace_of_indentation) (head?_quoted_ne _ _)
    rw [flatMap_itemLine_cons, hread, @ih next (fuel + 1) (by simp at hfuel; omega),
      String.ofList_toList]
    rfl

/-! ## Values on a line -/

/-- How a value stands on a line: it begins like one, and is read up to the end of the line. -/
structure StandsFor (text : List Char) (value : Value) : Prop where
  begins : ∀ rest, BeginsValue (text ++ '\n' :: rest)
  read : ∀ fuel rest, text.length < fuel →
    readValue? 0 fuel (text ++ '\n' :: rest) = some (value, '\n' :: rest)

/-- A number that can be written stands for itself. -/
theorem standsFor_numberText {n : UInt64} (h : isWritable n = true) :
    StandsFor (numberText n) (.integer n.toNat) := by
  obtain ⟨d, ds, htext, hdigit⟩ : ∃ d ds, numberText n = d :: ds ∧ d.isDigit = true :=
    toDigits_eq_cons n.toNat
  have hne : ∀ c : Char, c.isDigit = false → d ≠ c := fun _ hc => ne_of_holds hdigit hc
  refine ⟨fun rest => ?_, fun fuel rest hfuel => ?_⟩
  · refine ⟨d, ds ++ '\n' :: rest, by rw [htext]; rfl, ?_, hne _ (by decide), hne _ (by decide),
      hne _ (by decide)⟩
    simp [isSpace, hne ' ' (by decide), hne '\t' (by decide)]
  · obtain ⟨fuel, rfl⟩ : ∃ k, fuel = k + 1 := ⟨fuel - 1, by omega⟩
    have hread : readScalar? (numberText n ++ '\n' :: rest) =
        some (.integer n.toNat, '\n' :: rest) :=
      readScalar?_toDigits (by simpa [isWritable] using h) rest
    rw [htext, List.cons_append] at hread ⊢
    rw [readValue?, hread]
    all_goals
      intro _ heq
      exact hne _ (by decide) (List.cons.inj heq).1

theorem standsFor_booleanText (b : Bool) : StandsFor (booleanText b) (.boolean b) where
  begins rest := by
    cases b with
    | false => exact ⟨'f', _, rfl, by decide, by decide, by decide, by decide⟩
    | true => exact ⟨'t', _, rfl, by decide, by decide, by decide, by decide⟩
  read fuel rest hfuel := by
    obtain ⟨fuel, rfl⟩ : ∃ k, fuel = k + 1 := ⟨fuel - 1, by omega⟩
    cases b with
    | false => rfl
    | true => rfl

/-- An array is read where its items are, from behind its opening bracket and what is skipped. -/
theorem readValue?_array {fuel : Nat} {cs next rest : List Char} {items : List Value}
    (hskip : skipBetween cs = next) (hnext : next.head? ≠ some ']')
    (hitems : readItems? 1 fuel next = some (items, rest)) :
    readValue? 0 (fuel + 1) ('[' :: cs) = some (.array items, rest) := by
  rw [readValue?, if_pos (by decide), hskip]
  split
  · simp at hnext
  · rw [hitems]
    rfl

/-- Texts that are written, on one line or on many, stand for themselves. -/
theorem standsFor_stringsText (ss : List String) :
    StandsFor (stringsText ss) (.array (ss.map .text)) where
  begins rest := by
    match ss with
    | [] => exact ⟨'[', _, rfl, by decide, by decide, by decide, by decide⟩
    | [s] => exact ⟨'[', _, rfl, by decide, by decide, by decide, by decide⟩
    | s :: t :: ss => exact ⟨'[', _, rfl, by decide, by decide, by decide, by decide⟩
  read fuel rest hfuel := by
    match ss with
    | [] =>
      obtain ⟨fuel, rfl⟩ : ∃ k, fuel = k + 1 := ⟨fuel - 1, by omega⟩
      rfl
    | [s] =>
      obtain ⟨fuel, rfl⟩ : ∃ k, fuel = k + 3 :=
        ⟨fuel - 3, by simp [stringsText] at hfuel; omega⟩
      have hread := @readValue?_quoted 1 fuel s.toList (']' :: '\n' :: rest) (by simp) (by simp)
      have hitems : readItems? 1 (fuel + 2) (quoted s.toList ++ ']' :: '\n' :: rest) =
          some ([.text s], '\n' :: rest) := by
        rw [readItems?, hread, String.ofList_toList]
        simp only [skipBetween_of_begins (begins_bracket _)]
      have harray := readValue?_array (skipBetween_of_begins (begins_quoted _ _))
        (head?_quoted_ne _ _) hitems
      simpa [stringsText] using harray
    | s :: t :: ss =>
      obtain ⟨fuel, rfl⟩ : ∃ k, fuel = k + 1 := ⟨fuel - 1, by omega⟩
      have htext : stringsText (s :: t :: ss) =
          '[' :: '\n' :: ((s :: t :: ss).flatMap itemLine ++ [']']) := rfl
      have hlength : (t :: ss).length + 1 < fuel := by
        have hitems := length_le_flatMap_itemLine (s :: t :: ss)
        rw [htext] at hfuel
        simp only [List.length_cons, List.length_append, List.length_nil] at hfuel hitems ⊢
        omega
      have harray := readValue?_array
        (skipBetween_indented (begins_quoted s.toList _) isSpace_of_indentation)
        (head?_quoted_ne _ _) (readItems?_itemLines 1 s (t :: ss) hlength ('\n' :: rest))
      rw [htext, List.cons_append, List.cons_append, List.append_assoc, flatMap_itemLine_cons]
      exact harray

/-! ## Lines -/

/-- A name that can be written without quotes. -/
def IsBareName (name : List Char) : Prop :=
  name ≠ [] ∧ ∀ c ∈ name, isBare c = true

instance (name : List Char) : Decidable (IsBareName name) :=
  decidable_of_iff (name ≠ [] ∧ name.all isBare = true) (by rw [IsBareName, List.all_eq_true])

theorem isBare_ne {c : Char} (h : isBare c = true) (other : Char) (hother : isBare other = false) :
    c ≠ other :=
  ne_of_holds h hother

theorem begins_bare {c : Char} (h : isBare c = true) (rest : List Char) :
    BeginsValue (c :: rest) := by
  refine ⟨c, rest, rfl, ?_, isBare_ne h '#' (by decide), isBare_ne h '\n' (by decide),
    isBare_ne h '\r' (by decide)⟩
  simp [isSpace, isBare_ne h ' ' (by decide), isBare_ne h '\t' (by decide)]

/-- A bare name is read up to the character that ends it, and the space behind it is skipped. -/
theorem readKey?_bare {name rest next : List Char} {c : Char} (hname : IsBareName name)
    (hstop : isBare c = false) (hskip : skipSpace (c :: rest) = next)
    (hpoint : next.head? ≠ some '.') :
    readKey? (name ++ c :: rest) = some (([], String.ofList name), next) := by
  obtain ⟨hne, hbare⟩ := hname
  have htake : (name ++ c :: rest).takeWhile isBare = name := by
    rw [List.takeWhile_append_of_pos hbare, List.takeWhile_cons_of_neg (by simp [hstop]),
      List.append_nil]
  have hdrop : (name ++ c :: rest).dropWhile isBare = c :: rest := by
    rw [List.dropWhile_append_of_pos hbare, List.dropWhile_cons_of_neg (by simp [hstop])]
  have hread : skipSpace (name ++ c :: rest) = name ++ c :: rest ∧
      readName? (name ++ c :: rest) = some (String.ofList name, c :: rest) := by
    cases name with
    | nil => exact absurd rfl hne
    | cons d name =>
      have hd := hbare d List.mem_cons_self
      rw [List.cons_append] at htake hdrop ⊢
      refine ⟨skipSpace_of_begins (begins_bare hd _), ?_⟩
      rw [readName?]
      · simp [htake, hdrop]
      all_goals
        intro _ heq
        exact isBare_ne hd _ (by decide) (List.cons.inj heq).1
  have hnames (fuel : Nat) : readNames? (fuel + 1) (name ++ c :: rest) =
      some ([String.ofList name], next) := by
    rw [readNames?, hread.1, hread.2]
    simp only [hskip]
    split
    · simp at hpoint
    · rfl
  rw [readKey?, depthLimit, hnames]
  rfl

/-- From a header and some pairs below it, the last one first, the rest of a text is read into
sections; one step for each character is enough. -/
def ReadsOn (header : Header) (pairs : List Pair) (cs : List Char) (sections : List Section) :
    Prop :=
  ∀ fuel, cs.length < fuel → readLines? header pairs fuel cs = some sections

theorem readsOn_nil (header : Header) (pairs : List Pair) :
    ReadsOn header pairs [] [⟨header, pairs.reverse⟩] := by
  intro fuel hfuel
  obtain ⟨fuel, rfl⟩ : ∃ k, fuel = k + 1 := ⟨fuel - 1, by omega⟩
  rfl

theorem readsOn_lineFeed {header : Header} {pairs : List Pair} {cs : List Char}
    {sections : List Section} (h : ReadsOn header pairs cs sections) :
    ReadsOn header pairs ('\n' :: cs) sections := by
  intro fuel hfuel
  obtain ⟨fuel, rfl⟩ : ∃ k, fuel = k + 1 := ⟨fuel - 1, by omega⟩
  exact h fuel (by simpa using hfuel)

/-- The line of a header ends the open section and begins its own. -/
theorem readsOn_header {header : Header} {pairs : List Pair} {cs : List Char}
    {sections : List Section} {name : String} (hname : IsBareName name.toList)
    (h : ReadsOn (.table [] name) [] cs sections) :
    ReadsOn header pairs ('[' :: (name.toList ++ ']' :: '\n' :: cs))
      (⟨header, pairs.reverse⟩ :: sections) := by
  intro fuel hfuel
  obtain ⟨fuel, rfl⟩ : ∃ k, fuel = k + 1 := ⟨fuel - 1, by omega⟩
  have hkey : readKey? (name.toList ++ ']' :: '\n' :: cs) =
      some (([], name), ']' :: '\n' :: cs) := by
    rw [readKey?_bare hname (by decide) rfl (by simp [skipSpace, isSpace]), String.ofList_toList]
    rfl
  have hheader : readHeader? (name.toList ++ ']' :: '\n' :: cs) =
      some (.table [] name, '\n' :: cs) := by
    cases hchars : name.toList with
    | nil => exact absurd hchars hname.1
    | cons d ds =>
      have hd := hname.2 d (hchars ▸ List.mem_cons_self)
      rw [hchars, List.cons_append] at hkey
      rw [List.cons_append, readHeader?, hkey]
      · rfl
      · intro _ heq
        exact isBare_ne hd _ (by decide) (List.cons.inj heq).1
  have hrest := h fuel (by simp at hfuel; omega)
  have hend : endOfLine? ('\n' :: cs) = some cs := rfl
  have hspace (rest : List Char) : skipSpace ('[' :: rest) = '[' :: rest := rfl
  rw [readLines?, hspace]
  simp only [hheader, hend, hrest]
  rfl

/-- The line of a field adds a pair to the open section. -/
theorem readsOn_field {header : Header} {pairs : List Pair} {cs : List Char}
    {sections : List Section} {name : String} (hname : IsBareName name.toList) {text : List Char}
    {value : Value} (hvalue : StandsFor text value)
    (h : ReadsOn header (⟨[], name, value⟩ :: pairs) cs sections) :
    ReadsOn header pairs (fieldLine name text ++ cs) sections := by
  intro fuel hfuel
  obtain ⟨fuel, rfl⟩ : ∃ k, fuel = k + 1 := ⟨fuel - 1, by omega⟩
  have hline : fieldLine name text ++ cs =
      name.toList ++ ' ' :: '=' :: ' ' :: (text ++ '\n' :: cs) := by
    simp [fieldLine]
  have hkey : readKey? (name.toList ++ ' ' :: '=' :: ' ' :: (text ++ '\n' :: cs)) =
      some (([], name), '=' :: ' ' :: (text ++ '\n' :: cs)) := by
    rw [readKey?_bare hname (by decide) rfl (by simp [skipSpace, isSpace]), String.ofList_toList]
    rfl
  have hspace : skipSpace (' ' :: (text ++ '\n' :: cs)) = text ++ '\n' :: cs :=
    skipSpace_of_begins (hvalue.begins cs)
  have hpair : readPair (name.toList ++ ' ' :: '=' :: ' ' :: (text ++ '\n' :: cs)) =
      some (⟨[], name, value⟩, '\n' :: cs) := by
    rw [readPair, hkey]
    simp only [hspace]
    rw [hvalue.read _ cs (by simp; omega)]
    rfl
  have hrest := h fuel (by rw [hline] at hfuel; simp at hfuel; omega)
  have hend : endOfLine? ('\n' :: cs) = some cs := rfl
  rw [hline]
  cases hchars : name.toList with
  | nil => exact absurd hchars hname.1
  | cons d ds =>
    have hd := hname.2 d (hchars ▸ List.mem_cons_self)
    rw [hchars, List.cons_append] at hpair
    rw [List.cons_append, readLines?, skipSpace_of_begins (begins_bare hd _)]
    split
    case h_1 heq => cases heq
    case h_2 heq => exact absurd (List.cons.inj heq).1 (isBare_ne hd '[' (by decide))
    case h_3 heq =>
      obtain ⟨rfl, rfl⟩ := List.cons.inj heq
      rw [if_neg, hpair]
      · simp only [hend, hrest]
      · simp [isBare_ne hd '#' (by decide), isBare_ne hd '\n' (by decide),
          isBare_ne hd '\r' (by decide)]

end LinkWatch.Toml

namespace LinkWatch

open LinkWatch.Toml

/-! ## The text of the settings -/

/-- The entries of the sampling section, in the order in which they are written. -/
def Sampling.entries (s : Sampling) : List (String × Value) :=
  [("interval_ms", .integer s.interval.toNat),
    ("top_interfaces", .integer s.topInterfaces.toNat),
    ("trend_capacity", .integer s.trendCapacity.toNat),
    ("extra_noise_prefixes", .array (s.extraNoise.map .text))]

/-- The entries of the detection section, in the order in which they are written. -/
def Detection.entries (d : Detection) : List (String × Value) :=
  [("query_timeout_ms", .integer d.queryTimeout.toNat),
    ("poll_interval_ms", .integer d.pollInterval.toNat),
    ("system_query", .boolean d.systemQuery)]

/-- Settings as a document. -/
def Settings.entries (s : Settings) : List (String × Value) :=
  [("sampling", .table s.sampling.entries), ("proxy", .table s.detection.entries)]

/-- A section of plain entries. -/
def plainSection (name : String) (entries : List (String × Value)) : Section :=
  ⟨.table [] name, entries.map fun e => ⟨[], e.1, e.2⟩⟩

/-- Settings as the sections of a text. -/
def Settings.sections (s : Settings) : List Section :=
  [⟨.start, []⟩, plainSection "sampling" s.sampling.entries,
    plainSection "proxy" s.detection.entries]

/-- The text of some settings, line by line. -/
theorem configurationChars_eq (s : Settings) :
    s.configurationChars =
      '[' :: ("sampling".toList ++ ']' :: '\n' ::
        (fieldLine "interval_ms" (numberText s.sampling.interval) ++
        (fieldLine "top_interfaces" (numberText s.sampling.topInterfaces) ++
        (fieldLine "trend_capacity" (numberText s.sampling.trendCapacity) ++
        (fieldLine "extra_noise_prefixes" (stringsText s.sampling.extraNoise) ++
        '\n' :: '[' :: ("proxy".toList ++ ']' :: '\n' ::
          (fieldLine "query_timeout_ms" (numberText s.detection.queryTimeout) ++
          (fieldLine "poll_interval_ms" (numberText s.detection.pollInterval) ++
          (fieldLine "system_query" (booleanText s.detection.systemQuery) ++ []))))))))) := by
  have hsampling : "[sampling]\n".toList = '[' :: ("sampling".toList ++ [']', '\n']) := by
    decide
  have hproxy : "\n[proxy]\n".toList = '\n' :: '[' :: ("proxy".toList ++ [']', '\n']) := by
    decide
  delta Settings.configurationChars
  simp only [hsampling, hproxy, List.append_assoc, List.append_nil, List.cons_append,
    List.nil_append]

/-- The text of settings that can be written is read into their sections. -/
theorem readsOn_configurationChars {s : Settings} (h : s.isWritable = true) :
    ReadsOn .start [] s.configurationChars s.sections := by
  simp only [Settings.isWritable, Settings.numbers, List.all_cons, List.all_nil, Bool.and_true,
    Bool.and_eq_true] at h
  obtain ⟨hinterval, htop, hcapacity, htimeout, hpoll⟩ := h
  rw [configurationChars_eq]
  exact readsOn_header (by decide) <|
    readsOn_field (by decide) (standsFor_numberText hinterval) <|
    readsOn_field (by decide) (standsFor_numberText htop) <|
    readsOn_field (by decide) (standsFor_numberText hcapacity) <|
    readsOn_field (by decide) (standsFor_stringsText s.sampling.extraNoise) <|
    readsOn_lineFeed <| readsOn_header (by decide) <|
    readsOn_field (by decide) (standsFor_numberText htimeout) <|
    readsOn_field (by decide) (standsFor_numberText hpoll) <|
    readsOn_field (by decide) (standsFor_booleanText s.detection.systemQuery) <|
    readsOn_nil _ _

/-- The sections of some settings make their two tables. -/
theorem build_sections (s : Settings) : (build s.sections).map finishEntries = some s.entries := by
  simp [build, addSection, Settings.sections, plainSection, Sampling.entries, Detection.entries,
    Settings.entries, within, openTable, addPairs, addPair, List.lookup_cons, List.lookup_nil,
    finishEntries, Item.finish]

/-- A number that was written is read as itself. -/
theorem readNatural?_toNat (n : UInt64) : readNatural? (.integer n.toNat) = some n := by
  simp [readNatural?]

theorem readString?_iff {v : Value} {s : String} : readString? v = some s ↔ .text s = v := by
  cases v with
  | text t => simp [readString?, eq_comm]
  | _ => simp [readString?]

theorem mapM_readString?_iff {items : List Value} {ss : List String} :
    items.mapM readString? = some ss ↔ ss.map .text = items := by
  induction items generalizing ss with
  | nil => simp [eq_comm]
  | cons v items ih =>
    simp only [List.mapM_cons, Option.bind_eq_bind, Option.bind_eq_some_iff, readString?_iff, ih,
      List.map_eq_cons_iff]
    constructor
    · rintro ⟨s, hs, rest, hrest, heq⟩
      cases heq
      exact ⟨s, rest, rfl, hs, hrest⟩
    · rintro ⟨s, rest, rfl, hs, hrest⟩
      exact ⟨s, hs, rest, hrest, rfl⟩

theorem readStrings?_map_text (ss : List String) :
    readStrings? (.array (ss.map .text)) = some ss := by
  rw [readStrings?, mapM_readString?_iff]

/-- The tables of some settings are read as the settings. -/
theorem ofEntries?_entries (s : Settings) : Settings.ofEntries? s.entries = some s := by
  have hsampling : Sampling.ofValue? (.table s.sampling.entries) = some s.sampling := by
    simp [Sampling.ofValue?, Sampling.entries, sectionFields?, List.lookup_cons, orUsual?,
      readNatural?_toNat, readStrings?_map_text]
  have hdetection : Detection.ofValue? (.table s.detection.entries) = some s.detection := by
    simp [Detection.ofValue?, Detection.entries, sectionFields?, List.lookup_cons, orUsual?,
      readNatural?_toNat, readBoolean?]
  simp [Settings.ofEntries?, Settings.entries, List.lookup_cons, orUsual?, hsampling, hdetection]

/-- Settings that can be written are read back from their text. -/
theorem ofToml_configurationChars {s : Settings} (h : s.isWritable = true) (wording : Wording) :
    Settings.ofToml wording (String.ofList s.configurationChars) = .ok s := by
  have hread := readsOn_configurationChars h (s.configurationChars.length + 1) (by omega)
  have hmark : dropByteOrderMark s.configurationChars = s.configurationChars := by
    rw [configurationChars_eq]
    rfl
  have hparse : Toml.parse? s.configurationChars = some s.entries := by
    rw [Toml.parse?, hmark, hread]
    exact build_sections s
  rw [Settings.ofToml, String.toList_ofList, hparse, Option.bind_some, ofEntries?_entries]

end LinkWatch
