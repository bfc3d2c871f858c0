import LinkWatch.Text.Blank

/-!
# Cutting texts

A text is cut at the first place where a mark stands, at the last place of a character, or at its
line ends. Each cut loses the mark and nothing else.
-/

namespace LinkWatch.Text

/-- What follows `mark` in a text that starts with it. -/
def stripPrefix? : List Char → List Char → Option (List Char)
  | [], cs => some cs
  | _ :: _, [] => none
  | m :: mark, c :: cs => if m = c then stripPrefix? mark cs else none

/-- The text before and the text after the first place where `mark` stands. -/
def cut? (mark : List Char) : List Char → Option (List Char × List Char)
  | [] => if mark = [] then some ([], []) else none
  | c :: cs =>
    match stripPrefix? mark (c :: cs) with
    | some rest => some ([], rest)
    | none => (cut? mark cs).map fun p => (c :: p.1, p.2)

/-- The text before and the text after the first `mark`. -/
def cutAt? (mark : Char) : List Char → Option (List Char × List Char)
  | [] => none
  | c :: cs => if c = mark then some ([], cs) else (cutAt? mark cs).map fun p => (c :: p.1, p.2)

/-- The text after the last `mark`, if there is one. -/
def afterLast? (mark : Char) : List Char → Option (List Char)
  | [] => none
  | c :: cs =>
    match afterLast? mark cs with
    | some rest => some rest
    | none => if c = mark then some cs else none

/-- The text cut at every `mark`; there is one piece more than there are marks. -/
def pieces (mark : Char) : List Char → List (List Char)
  | [] => [[]]
  | c :: cs =>
    if c = mark then [] :: pieces mark cs
    else
      match pieces mark cs with
      | [] => [[c]]
      | p :: ps => (c :: p) :: ps

/-- A line without the carriage return at its end. -/
def dropReturn (line : List Char) : List Char :=
  if line.getLast? = some '\r' then line.dropLast else line

/-- The lines of a text. A line feed, or a carriage return and a line feed, ends a line; the last
line needs no end, and an empty last line is none. -/
def lines (cs : List Char) : List (List Char) :=
  match (pieces '\n' cs).reverse with
  | [] => []
  | last :: ended =>
    (ended.map dropReturn).reverse ++ (if last = [] then [] else [last])

/-! ## Small facts -/

/-- A prefix is stripped exactly when the text is the prefix followed by the result. -/
theorem stripPrefix?_eq_some_iff {mark cs rest : List Char} :
    stripPrefix? mark cs = some rest ↔ cs = mark ++ rest := by
  induction mark generalizing cs with
  | nil => simp [stripPrefix?, eq_comm]
  | cons m mark ih =>
    cases cs with
    | nil => simp [stripPrefix?]
    | cons c cs =>
      by_cases h : m = c
      · simp [stripPrefix?, h, ih]
      · simp [stripPrefix?, h, Ne.symm h]

/-- A cut loses the mark and nothing else. -/
theorem cut?_eq_append {mark cs a b : List Char} (h : cut? mark cs = some (a, b)) :
    cs = a ++ mark ++ b := by
  induction cs generalizing a b with
  | nil =>
    simp only [cut?] at h
    split at h <;> simp_all
  | cons c cs ih =>
    simp only [cut?] at h
    split at h
    · next rest hr =>
      cases h
      simpa using stripPrefix?_eq_some_iff.1 hr
    · next hr =>
      obtain ⟨p, hp, he⟩ := Option.map_eq_some_iff.1 h
      cases he
      simp [ih hp]

/-- A cut at a character loses that character and nothing else, and the first part is free of it. -/
theorem cutAt?_eq_some_iff {mark : Char} {cs a b : List Char} :
    cutAt? mark cs = some (a, b) ↔ cs = a ++ mark :: b ∧ mark ∉ a := by
  induction cs generalizing a with
  | nil => simp [cutAt?]
  | cons c cs ih =>
    by_cases h : c = mark
    · cases a with
      | nil => simp [cutAt?, h]
      | cons x a => simp [cutAt?, h]; intro hx; simp [hx]
    · cases a with
      | nil => simp [cutAt?, h]
      | cons x a =>
        simp only [cutAt?, h, if_false, Option.map_eq_some_iff, Prod.mk.injEq, List.cons.injEq,
          List.cons_append, List.mem_cons, not_or, Prod.exists]
        constructor
        · rintro ⟨a', b', hp, ⟨rfl, rfl⟩, rfl⟩
          obtain ⟨h1, h2⟩ := ih.1 hp
          exact ⟨⟨rfl, h1⟩, fun e => h e.symm, h2⟩
        · rintro ⟨⟨rfl, h1⟩, _, h2⟩
          exact ⟨a, b, ih.2 ⟨h1, h2⟩, ⟨rfl, rfl⟩, rfl⟩

end LinkWatch.Text
