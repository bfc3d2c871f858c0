/-!
# Blank characters and trimming

Which characters count as blank, and what is left of a text when the blank characters at its ends
are taken away. The classes are those of the whole character set, so they are wider than the ones
`Char.isWhitespace` knows.
-/

namespace LinkWatch.Text

/-- White space: tab to carriage return, space, next line, no-break space, and the spaces and
separators of the later blocks. -/
def isBlank (c : Char) : Bool :=
  let n := c.toNat
  (0x09 ≤ n && n ≤ 0x0d) || n == 0x20 || n == 0x85 || n == 0xa0 || n == 0x1680
    || (0x2000 ≤ n && n ≤ 0x200a) || n == 0x2028 || n == 0x2029 || n == 0x202f || n == 0x205f
    || n == 0x3000

/-- Control characters: the code points below space and those from delete to `U+009F`. -/
def isControl (c : Char) : Bool :=
  let n := c.toNat
  n < 0x20 || (0x7f ≤ n && n ≤ 0x9f)

/-- The text from its first character that is not blank. -/
def trimStart (cs : List Char) : List Char :=
  cs.dropWhile isBlank

/-- The text up to its last character that is not blank. -/
def trimEnd (cs : List Char) : List Char :=
  (cs.reverse.dropWhile isBlank).reverse

/-- The text without the blank characters at its two ends. -/
def trim (cs : List Char) : List Char :=
  trimEnd (trimStart cs)

/-- Whether a text is empty or blank throughout. -/
def isBlankText (cs : List Char) : Bool :=
  cs.all isBlank

/-! ## Small facts -/

theorem trim_nil : trim [] = [] := rfl

/-- A text that neither starts nor ends with a blank character is its own trimmed form. -/
theorem trim_eq_self {cs : List Char} (hs : ∀ c, cs.head? = some c → isBlank c = false)
    (he : ∀ c, cs.getLast? = some c → isBlank c = false) : trim cs = cs := by
  have h1 : trimStart cs = cs := by
    cases cs with
    | nil => rfl
    | cons c cs => simp [trimStart, hs c (by simp)]
  have h2 : trimEnd cs = cs := by
    unfold trimEnd
    cases hr : cs.reverse with
    | nil => simp [List.reverse_eq_nil_iff.1 hr]
    | cons c r =>
      have hc : isBlank c = false := by
        apply he
        rw [← List.head?_reverse, hr, List.head?_cons]
      rw [List.dropWhile_cons, hc]
      simp [← hr]
  rw [trim, h1, h2]

end LinkWatch.Text
