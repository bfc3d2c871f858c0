import LinkWatch.Text.Bytes

/-!
# Patterns

A star matches any text, a question mark any character, and brackets one of the characters between
them. A character that is quoted, or follows a backslash, stands for itself.
-/

namespace LinkWatch.Host.Shell

open LinkWatch.Text

/-- A character of a text, and whether it stands for itself only. -/
structure Glyph where
  char : Char
  literal : Bool
  deriving DecidableEq

/-- A text in which no character stands for itself only. -/
def glyphsOf (cs : Bytes) : List Glyph :=
  cs.map (⟨·, false⟩)

/-- A class of characters. -/
inductive CharClass where
  | range (first last : Char)
  | named (name : String)
  deriving DecidableEq

/-- Whether a character is in a class of a name. -/
def isInNamed (name : String) (c : Char) : Bool :=
  let isGraph := 0x21 ≤ c.toNat && c.toNat ≤ 0x7e
  match name with
  | "alpha" => c.isAlpha
  | "digit" => c.isDigit
  | "alnum" => c.isAlphanum
  | "upper" => c.isUpper
  | "lower" => c.isLower
  | "space" => isSpaceChar c
  | "blank" => isBlankChar c
  | "cntrl" => c.toNat < 0x20 || c.toNat = 0x7f
  | "graph" => isGraph
  | "print" => isGraph || c = ' '
  | "punct" => isGraph && !c.isAlphanum
  | "xdigit" => digitValue c < 16
  | _ => false

/-- The names of the classes. -/
def classNames : List String :=
  ["alpha", "digit", "alnum", "upper", "lower", "space", "blank", "cntrl", "graph", "print",
    "punct", "xdigit"]

/-- Whether a character is in a class. -/
def CharClass.contains (k : CharClass) (c : Char) : Bool :=
  match k with
  | .range first last => first ≤ c && c ≤ last
  | .named name => isInNamed name c

/-- A part of a pattern. -/
inductive Wild where
  | char (c : Char)
  | any
  | star
  | set (negated : Bool) (classes : List CharClass)
  deriving DecidableEq

/-- The class of a name that stands between brackets and colons at the start of a text. -/
def classAt? (cs : List Char) : Option (String × Nat) :=
  match cs with
  | '[' :: ':' :: rest =>
    match Text.cut? [':', ']'] rest with
    | some (name, _) =>
      if String.ofList name ∈ classNames then some (String.ofList name, name.length + 4) else none
    | none => none
  | _ => none

/-- The classes up to the closing bracket, and what follows it. -/
def readClasses : Nat → Bool → List Glyph → Option (List CharClass × List Glyph)
  | 0, _, _ => none
  | fuel + 1, isFirst, gs =>
    match gs with
    | [] => none
    | g :: rest =>
      if g.char = ']' && !g.literal && !isFirst then some ([], rest)
      else
        match if g.literal then none else classAt? (gs.map Glyph.char) with
        | some (name, size) =>
          (readClasses fuel false (gs.drop size)).map fun p => (.named name :: p.1, p.2)
        | none =>
          let (c, rest) := match g.char, g.literal, rest with
            | '\\', false, d :: rest => (d.char, rest)
            | c, _, rest => (c, rest)
          match rest with
          | ⟨'-', false⟩ :: d :: after =>
            if d.char = ']' && !d.literal then
              (readClasses fuel false rest).map fun p => (.range c c :: p.1, p.2)
            else
              let (last, after) := match d.char, d.literal, after with
                | '\\', false, e :: after => (e.char, after)
                | c, _, after => (c, after)
              (readClasses fuel false after).map fun p => (.range c last :: p.1, p.2)
          | _ => (readClasses fuel false rest).map fun p => (.range c c :: p.1, p.2)

/-- The parts of a pattern. A bracket that is not closed stands for itself. -/
def wildsOf : Nat → List Glyph → List Wild
  | 0, _ => []
  | fuel + 1, gs =>
    match gs with
    | [] => []
    | g :: rest =>
      if g.literal then .char g.char :: wildsOf fuel rest
      else
        match g.char, rest with
        | '*', _ => .star :: wildsOf fuel rest
        | '?', _ => .any :: wildsOf fuel rest
        | '\\', d :: rest => .char d.char :: wildsOf fuel rest
        | '[', _ =>
          let (negated, inside) := match rest with
            | ⟨'!', false⟩ :: inside => (true, inside)
            | inside => (false, inside)
          match readClasses (inside.length + 1) true inside with
          | some (classes, after) => .set negated classes :: wildsOf fuel after
          | none => .char '[' :: wildsOf fuel rest
        | c, _ => .char c :: wildsOf fuel rest

/-- Whether a part other than a star matches a character. -/
def Wild.admits (w : Wild) (c : Char) : Bool :=
  match w with
  | .char d => c = d
  | .any => true
  | .star => false
  | .set negated classes => (classes.any (·.contains c)) != negated

/-- Whether the parts of a pattern match a whole text. -/
def matchesWilds : List Wild → List Char → Bool
  | [], cs => cs.isEmpty
  | .star :: ws, cs => matchesWilds ws cs || (match cs with
    | [] => false
    | _ :: rest => matchesWilds (.star :: ws) rest)
  | _ :: _, [] => false
  | w :: ws, c :: cs => w.admits c && matchesWilds ws cs
termination_by ws cs => (ws.length, cs.length)

/-- The parts of a pattern. -/
def patternOf (gs : List Glyph) : List Wild :=
  wildsOf (gs.length + 1) gs

/-- Whether a pattern matches a whole text. -/
def matchesPattern (gs : List Glyph) (cs : Bytes) : Bool :=
  matchesWilds (patternOf gs) cs

/-- Whether some character of a text makes it a pattern. -/
def isPattern (gs : List Glyph) : Bool :=
  (patternOf gs).any fun
    | .char _ => false
    | _ => true

/-- A text without a part at one of its ends that matches a pattern: the shortest such part, or the
longest. Without such a part it is the text. -/
def trimmedBy (atEnd longest : Bool) (gs : List Glyph) (cs : Bytes) : Bytes :=
  let p := patternOf gs
  let sizes := List.range (cs.length + 1)
  let sizes := if longest then sizes.reverse else sizes
  if atEnd then
    match sizes.find? fun n => matchesWilds p (cs.drop (cs.length - n)) with
    | some n => cs.take (cs.length - n)
    | none => cs
  else
    match sizes.find? fun n => matchesWilds p (cs.take n) with
    | some n => cs.drop n
    | none => cs

/-- The mark between several values that are handled as one text. -/
def valueMark : Char := '\x00'

/-- Whether trimming finds something that matches, be it empty. -/
def isTrimmed (atEnd longest : Bool) (pattern : List Glyph) (cs : Bytes) : Bool :=
  (trimmedBy atEnd longest pattern cs).length < cs.length || matchesPattern pattern []

/-- Several values, the last one first, without the shortest end of one of them that matches; values
after that one are dropped with it. -/
def trimmedBack (pattern : List Glyph) : List Bytes → Option (List Bytes)
  | [] => none
  | v :: before =>
    if isTrimmed true false pattern v then some (trimmedBy true false pattern v :: before)
    else trimmedBack pattern before

/-- Several values with marks between them, without a part that matches. The start is looked for in
the first value only, and if that one matches as a whole nothing is left; where an end is found, all
that follows is dropped. -/
def trimmedValues (atEnd longest : Bool) (pattern : List Glyph) (cs : Bytes) : Bytes :=
  let first := cs.takeWhile (· ≠ valueMark)
  let rest := cs.drop first.length
  match atEnd, longest with
  | false, false => trimmedBy false false pattern first ++ rest
  | false, true =>
    if matchesPattern pattern first then [] else trimmedBy false true pattern first ++ rest
  | true, true =>
    if isTrimmed true true pattern first then trimmedBy true true pattern first else cs
  | true, false =>
    match trimmedBack pattern (pieces valueMark cs).reverse with
    | some values => joinWith [valueMark] values.reverse
    | none => cs

end LinkWatch.Host.Shell
