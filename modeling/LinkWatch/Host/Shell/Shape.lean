import LinkWatch.Host.Shell.Pattern

/-!
# Shapes

The patterns of the rich language. Besides what other patterns have, they may have alternatives
between parentheses, with a mark for how often one of them may come. A shape is matched by the
lengths of the starts of a text that it matches.
-/

namespace LinkWatch.Host.Shell

open LinkWatch.Text

/-- A part of a pattern. -/
inductive Shape where
  | char (c : Char)
  | any
  | star
  | set (negated : Bool) (classes : List CharClass)
  /-- Alternatives, with the mark in front of them. -/
  | group (mark : Char) (alternatives : List (List Shape))

/-- How patterns are read and matched. -/
structure ShapeStyle where
  hasGroups : Bool := false
  ignoresCase : Bool := false

/-- The parts of a pattern, and what follows them: inside a group they end at a bar or a closing
parenthesis. -/
def readShapes (hasGroups : Bool) : Nat → Bool → List Glyph → List Shape × List Glyph
  | 0, _, gs => ([], gs)
  | fuel + 1, isInner, gs =>
    let next (s : Shape) (rest : List Glyph) : List Shape × List Glyph :=
      let p := readShapes hasGroups fuel isInner rest
      (s :: p.1, p.2)
    match gs with
    | [] => ([], [])
    | g :: rest =>
      if g.literal then next (.char g.char) rest
      else if isInner && (g.char = '|' || g.char = ')') then ([], gs)
      else
        let group? : Option (List (List Shape) × List Glyph) :=
          match hasGroups && g.char ∈ ['?', '*', '+', '@', '!'], rest with
          | true, ⟨'(', false⟩ :: inside => readAlternatives fuel inside
          | _, _ => none
        match group? with
        | some (alternatives, after) => next (.group g.char alternatives) after
        | none =>
          match g.char, rest with
          | '*', _ => next .star rest
          | '?', _ => next .any rest
          | '\\', d :: rest => next (.char d.char) rest
          | '[', _ =>
            let (negated, inside) := match rest with
              | ⟨'!', false⟩ :: inside => (true, inside)
              | ⟨'^', false⟩ :: inside => (true, inside)
              | inside => (false, inside)
            match readClasses (inside.length + 1) true inside with
            | some (classes, after) => next (.set negated classes) after
            | none => next (.char '[') rest
          | c, _ => next (.char c) rest
where
  /-- The alternatives up to the closing parenthesis. -/
  readAlternatives : Nat → List Glyph → Option (List (List Shape) × List Glyph)
    | 0, _ => none
    | fuel + 1, gs =>
      let (first, rest) := readShapes hasGroups fuel true gs
      match rest with
      | ⟨'|', false⟩ :: rest => (readAlternatives fuel rest).map fun p => (first :: p.1, p.2)
      | ⟨')', false⟩ :: rest => some ([first], rest)
      | _ => none

/-- The parts of a pattern. -/
def shapeOf (style : ShapeStyle) (gs : List Glyph) : List Shape :=
  (readShapes style.hasGroups (2 * gs.length + 2) false gs).1

/-- Whether two characters are the same, perhaps but for their case. -/
def sameChar (ignoresCase : Bool) (a b : Char) : Bool :=
  a = b || (ignoresCase && a.toLower = b.toLower)

/-- Whether a set of classes has a character in it. -/
def setAdmits (ignoresCase negated : Bool) (classes : List CharClass) (c : Char) : Bool :=
  let isIn (c : Char) : Bool := classes.any (·.contains c)
  (isIn c || (ignoresCase && (isIn c.toLower || isIn c.toUpper))) != negated

/-- Numbers without repetitions. -/
def distinct (ns : List Nat) : List Nat :=
  (ns.mergeSort fun a b => a ≤ b).eraseReps

mutual

/-- The lengths of the starts of a text that a shape matches. -/
def Shape.sizes (ignoresCase : Bool) : Nat → Shape → Bytes → List Nat
  | 0, _, _ => []
  | fuel + 1, shape, cs =>
    match shape, cs with
    | .char d, c :: _ => if sameChar ignoresCase c d then [1] else []
    | .any, _ :: _ => [1]
    | .star, cs => List.range (cs.length + 1)
    | .set negated classes, c :: _ => if setAdmits ignoresCase negated classes c then [1] else []
    | .group mark alternatives, cs =>
      let once := distinct (alternatives.flatMap fun a => sizesOf ignoresCase fuel a cs)
      match mark with
      | '@' => once
      | '?' => distinct (0 :: once)
      | '!' => (List.range (cs.length + 1)).filter fun n =>
          !(alternatives.any fun a => (sizesOf ignoresCase fuel a (cs.take n)).contains n)
      | mark => repeated ignoresCase fuel alternatives cs (if mark = '*' then [0] else once)
    | _, [] => []

/-- The lengths of the starts of a text that shapes match one after another. -/
def sizesOf (ignoresCase : Bool) : Nat → List Shape → Bytes → List Nat
  | 0, _, _ => []
  | _ + 1, [], _ => [0]
  | fuel + 1, shape :: rest, cs =>
    distinct ((shape.sizes ignoresCase fuel cs).flatMap fun n =>
      (sizesOf ignoresCase fuel rest (cs.drop n)).map (n + ·))

/-- The lengths that come from some by further repetitions of one of some alternatives. -/
def repeated (ignoresCase : Bool) : Nat → List (List Shape) → Bytes → List Nat → List Nat
  | 0, _, _, found => found
  | fuel + 1, alternatives, cs, found =>
    let more := found.flatMap fun n => alternatives.flatMap fun a =>
      (sizesOf ignoresCase fuel a (cs.drop n)).map (n + ·)
    let all := distinct (found ++ more)
    if all.length = (distinct found).length then all
    else repeated ignoresCase fuel alternatives cs all

end

/-- A pattern that is ready to be matched. -/
structure Matcher where
  shapes : List Shape
  style : ShapeStyle

/-- The matcher of a pattern. -/
def matcherOf (style : ShapeStyle) (gs : List Glyph) : Matcher :=
  ⟨shapeOf style gs, style⟩

/-- More than the depth of any shape and the length of any text. -/
def shapeFuel : Nat := 1000000

/-- The lengths of the starts of a text that a pattern matches. -/
def Matcher.sizes (m : Matcher) (cs : Bytes) : List Nat :=
  sizesOf m.style.ignoresCase shapeFuel m.shapes cs

/-- Whether a pattern matches a whole text. -/
def Matcher.isMatch (m : Matcher) (cs : Bytes) : Bool :=
  (m.sizes cs).contains cs.length

/-- Whether some part of a pattern is not a plain character. -/
def isShaped (style : ShapeStyle) (gs : List Glyph) : Bool :=
  (shapeOf style gs).any fun
    | .char _ => false
    | _ => true

/-- A text without the shortest or longest part at one of its ends that matches. -/
def Matcher.trim (m : Matcher) (atEnd longest : Bool) (cs : Bytes) : Bytes :=
  if atEnd then
    let starts := (List.range (cs.length + 1)).filter fun n => m.isMatch (cs.drop n)
    match if longest then starts.head? else starts.getLast? with
    | some n => cs.take n
    | none => cs
  else
    let sizes := m.sizes cs
    match if longest then sizes.max? else sizes.min? with
    | some n => cs.drop n
    | none => cs

/-- The places in a text that match, each with its length: the first one or all, and the longest at
each place. -/
def Matcher.places (m : Matcher) (every : Bool) : Nat → Nat → Bytes → List (Nat × Nat)
  | 0, _, _ => []
  | fuel + 1, offset, cs =>
    match (m.sizes cs).max?, cs with
    | some 0, [] => if offset = 0 then [(0, 0)] else []
    | some 0, _ :: rest =>
      (offset, 0) :: (if every then m.places every fuel (offset + 1) rest else [])
    | some n, _ =>
      (offset, n) :: (if every then m.places every fuel (offset + n) (cs.drop n) else [])
    | none, [] => []
    | none, _ :: rest => m.places every fuel (offset + 1) rest

/-- A text with something else at some of its places. The replacement may depend on what it stands
for. -/
def replacePlaces (word : Bytes → Bytes) : Nat → List (Nat × Nat) → Bytes → Bytes
  | _, [], cs => cs
  | offset, (start, size) :: places, cs =>
    let before := cs.take (start - offset)
    let rest := cs.drop (start - offset)
    before ++ word (rest.take size) ++ replacePlaces word (start + size) places (rest.drop size)

end LinkWatch.Host.Shell
