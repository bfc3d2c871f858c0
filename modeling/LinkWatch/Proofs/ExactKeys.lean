import LinkWatch.Proofs.DictionaryEntries

/-!
# Looking up any key

A key is looked up by the text that a line begins with, but the mark behind a key keeps keys apart
that begin like each other: a binding is read by its own key alone. So in a dump whose other lines
have no mark in them, every key has the value of its first binding, also the keys that no decision
looks up.
-/

namespace LinkWatch.Proxy

open LinkWatch.Text

/-! ## Plain dumps -/

/-- A line that begins with a key and its end contains such an end. -/
theorem marked_of_isPrefix {key line : List Char} (h : key ++ keyEnd <+: line) :
    keyEnd <:+: line :=
  (List.suffix_append key keyEnd).isInfix.trans h.isInfix

/-- A line without the mark of a key binds nothing. -/
def Remark.ofUnmarked (text : List Char) (oneLine : '\n' ∉ text)
    (unmarked : ¬ keyEnd <:+: trim text) : Remark where
  text := text
  oneLine := oneLine
  foreign := fun _ _ hprefix => unmarked (marked_of_isPrefix hprefix)

/-- A binding, or a line without the mark of a key. -/
def DumpLine.IsPlain : DumpLine → Prop
  | .binding _ => True
  | .remark r => ¬ keyEnd <:+: trim r.text

instance : DecidablePred DumpLine.IsPlain
  | .binding _ => instDecidableTrue
  | .remark r => inferInstanceAs (Decidable (¬ keyEnd <:+: trim r.text))

/-- A dump in which only bindings have the mark of a key. -/
def Dump.IsPlain (dump : Dump) : Prop :=
  ∀ line ∈ dump, line.1.IsPlain

instance (dump : Dump) : Decidable dump.IsPlain :=
  List.decidableBAll _ dump

/-- No line of a plain dump but a binding begins like one. -/
theorem foreign_of_isPlain {dump : Dump} (h : dump.IsPlain) (key : List Char) :
    ∀ line ∈ dump, ∀ r, line.1 = .remark r → ¬ key ++ keyEnd <+: trim r.text := by
  intro line hmem r hr hprefix
  have hunmarked : line.1.IsPlain := h line hmem
  rw [hr] at hunmarked
  exact hunmarked (marked_of_isPrefix hprefix)

/-- In a plain dump a key is found where it is bound first. -/
theorem value?_dumpText_of_isPlain {dump : Dump} (h : dump.IsPlain) {key : List Char}
    (hkey : IsKey key) : value? dump.text key = dump.bound.lookup key :=
  value?_dumpText dump hkey.unmarked (foreign_of_isPlain h key)

/-- A binding is read by its own key alone, whatever keys begin like it or go on from it. -/
theorem value?_bindingText (b : Binding) {key : List Char} (hkey : IsKey key) :
    value? b.text key = if key = b.key then some (trim b.value) else none := by
  have hline : '\n' ∉ b.text := oneLine_dumpLine (.binding b)
  rw [value?_of_line hline, lineValue?_binding b hkey.unmarked]

/-! ## Dumps with all line ends -/

/-- The text of lines, each of them ended. -/
def endLines (lines : List (List Char × LineEnd)) : List Char :=
  lines.flatMap fun line => line.1 ++ line.2.text

/-- The text of a dump whose last line is ended too. -/
def Dump.endedText (dump : Dump) : List Char :=
  endLines (dump.map fun line => (line.1.text, line.2))

/-- Lines with their ends are joined lines, of which the last one is empty. -/
theorem endLines_eq_joinLines (lines : List (List Char × LineEnd)) :
    endLines lines = joinLines (lines ++ [([], .feed)]) := by
  induction lines with
  | nil => rfl
  | cons line rest ih =>
    obtain ⟨text, lineEnd⟩ := line
    rw [endLines, List.flatMap_cons, ← endLines, ih]
    cases rest with
    | nil => rfl
    | cons next more => rfl

/-- The end of the last line does not matter to what is looked up. -/
theorem value?_endedText (dump : Dump) (key : List Char) :
    value? dump.endedText key = value? dump.text key := by
  have hlines := oneLine_dumpLines dump
  rw [Dump.endedText, endLines_eq_joinLines, value?_joinLines, Dump.text, value?_joinLines hlines,
    List.findSome?_append, findSome?_cons_eq_or, lineValue?_nil, List.findSome?_nil,
    Option.or_none, Option.or_none]
  exact List.forall_mem_append.2 ⟨hlines, List.forall_mem_singleton.2 List.not_mem_nil⟩

/-! ## Values -/

/-- **A key has the value of its first binding.** In a dump whose other lines have no mark, a key
has the trimmed value of the first binding of just that key, and the empty text if there is none.
A binding of another key, also of one that begins like it or that it begins like, has no value for
it. -/
theorem key_has_value_of_first_binding (dump : Dump) (hplain : dump.IsPlain) (key : String)
    (hkey : IsKey key.toList) :
    (∀ text ∈ [dump.text, dump.endedText],
      valueText (String.ofList text) key =
        String.ofList ((dump.bound.lookup key.toList).getD [])) ∧
      ∀ b : Binding, value? b.text key.toList =
        if key.toList = b.key then some (trim b.value) else none := by
  refine ⟨?_, fun b => value?_bindingText b hkey⟩
  have hvalue (text : List Char)
      (h : value? text key.toList = dump.bound.lookup key.toList) :
      valueText (String.ofList text) key =
        String.ofList ((dump.bound.lookup key.toList).getD []) := by
    rw [valueText, String.toList_ofList, value, h]
  have htext : value? dump.text key.toList = dump.bound.lookup key.toList :=
    value?_dumpText_of_isPlain hplain hkey
  intro text hmem
  rcases List.mem_pair.1 hmem with rfl | rfl
  · exact hvalue _ htext
  · exact hvalue _ ((value?_endedText dump key.toList).trans htext)

/-- Keys with blanks and colons in them are told apart, where one begins like the other. -/
theorem keys_that_begin_alike :
    let long : Binding :=
      ⟨"  ".toList, "HTTP Proxy: a".toList, " ".toList, "1 : 2".toList, "\t".toList,
        by decide, by decide, by decide, by decide, by decide⟩
    let short : Binding :=
      ⟨[], "HTTP".toList, [], " a :b".toList, [],
        by decide, by decide, by decide, by decide, by decide⟩
    let bracket : Remark := .ofUnmarked "<dictionary> \x7b".toList (by decide) (by decide)
    let dump : Dump :=
      [(.remark bracket, .feed), (.binding long, .returnAndFeed), (.binding short, .feed)]
    dump.IsPlain ∧ IsKey "HTTP".toList ∧
      valueText (String.ofList dump.endedText) "HTTP" = "a :b" ∧
      value? long.text "HTTP".toList = none := by
  intro long short bracket dump
  have hplain : dump.IsPlain := by decide
  have hkey : IsKey "HTTP".toList := by decide
  obtain ⟨htext, halone⟩ := key_has_value_of_first_binding dump hplain "HTTP" hkey
  refine ⟨hplain, hkey, ?_, ?_⟩
  · exact (htext dump.endedText (by simp)).trans (by decide)
  · exact (halone long).trans (by decide)

end LinkWatch.Proxy
