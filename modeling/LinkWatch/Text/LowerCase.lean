import LinkWatch.Text.CaseTable

/-!
# Lower case

The lower-case form of a whole text. One letter becomes one letter, with two exceptions: a capital
dotted I becomes an i and a combining dot, and a capital sigma has a form of its own at the end of
a word.
-/

namespace LinkWatch.Text

/-- The lower-case form of a character that has one of a single character, else the character. -/
def lowerChar (c : Char) : Char :=
  match caseRuns.find? (·.covers c.toNat) with
  | some r => Char.ofNat (r.target + (c.toNat - r.first))
  | none => c

/-- Whether a search for a neighbouring letter passes over the character. -/
def isCaseIgnorable (c : Char) : Bool :=
  inRanges caseIgnorableRanges c.toNat

/-- Whether the character is a letter with case. -/
def isCased (c : Char) : Bool :=
  inRanges casedRanges c.toNat

/-- Whether the first character that is not passed over is a letter with case. -/
def meetsLetter (cs : List Char) : Bool :=
  match cs.dropWhile isCaseIgnorable with
  | c :: _ => isCased c
  | [] => false

/-- A capital sigma is final when a letter stands before it and none after it; `before` is the
text before it, nearest character first. -/
def sigmaBetween (before after : List Char) : Char :=
  if meetsLetter before && !meetsLetter after then 'ς' else 'σ'

/-- The lower-case form of a text that follows `before`, nearest character first. -/
def lowerAfter (before : List Char) : List Char → List Char
  | [] => []
  | c :: cs =>
    let form :=
      if c = 'Σ' then [sigmaBetween before cs]
      else if c = 'İ' then ['i', '\u0307']
      else [lowerChar c]
    form ++ lowerAfter (c :: before) cs

/-- The lower-case form of a text. -/
def lowerCase (cs : List Char) : List Char :=
  lowerAfter [] cs

/-- Whether the lower-case form of `s` starts with `start`. -/
def lowerStartsWith (s : String) (start : List Char) : Bool :=
  start.isPrefixOf (lowerCase s.toList)

end LinkWatch.Text
