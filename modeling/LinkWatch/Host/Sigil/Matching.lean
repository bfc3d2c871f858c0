import LinkWatch.Host.Sigil.Memory

/-!
# Matching in programs with marked names

Expressions for matching are put together while a program runs. What has matched last is known by
the numbers and names of its groups.
-/

namespace LinkWatch.Host.Sigil

open LinkWatch.Text LinkWatch.Host.Kernel LinkWatch.Host.Utility

/-- An expression for matching with the names of its groups. -/
structure Matcher where
  trial : Trial
  groups : Nat
  names : List (Bytes × Nat)

/-- Reads an expression for matching. -/
def matcherOf (text flags : Bytes) : Act Matcher := do
  let style : TrialStyle :=
    { ignoresCase := flags.contains 'i', isByLine := flags.contains 'm',
      dotAll := flags.contains 's'
      isSpaced := flags.contains 'x' }
  match style.read text with
  | .ok (t, groups, names) => return ⟨t, groups, names⟩
  | .error words => fault (words.toList ++ " in regex m/".toList ++ text ++ ['/'])

/-- The next match in a text from a position on. Directly after an empty match another empty one
does not count. -/
def Matcher.search (r : Matcher) (text : Bytes) (position : Nat) (afterEmpty : Bool) :
    Option Match :=
  let from' (p : Nat) : Option Match :=
    if text.length < p then none
    else (r.trial.search text p).map fun (start, place) => ⟨text, start, place, r.names⟩
  match from' position with
  | some m =>
    if afterEmpty && m.place.position = position && m.start = position then from' (position + 1)
    else some m
  | none => none

/-- The text of a match. -/
def Match.whole (m : Match) : Bytes :=
  (m.text.take m.place.position).drop m.start

/-- Whether a match is empty. -/
def Match.isEmpty (m : Match) : Bool :=
  m.place.position ≤ m.start

/-- A group of a match. -/
def Match.group (m : Match) (number : Nat) : Scalar :=
  match m.place.group? number with
  | some text => .text text
  | none => .none

/-- The groups of a match. -/
def Matcher.groupsIn (r : Matcher) (m : Match) : List Scalar :=
  (List.range r.groups).map fun i => m.group (i + 1)

/-- All matches in a text from a position on. -/
def Matcher.matches (r : Matcher) (text : Bytes) : Nat → Nat → Bool → List Match
  | 0, _, _ => []
  | fuel + 1, position, afterEmpty =>
    match r.search text position afterEmpty with
    | some m => m :: r.matches text fuel m.place.position m.isEmpty
    | none => []

/-- The variables that the last match and the input give values to. -/
def Memory.special? (m : Memory) (name : Bytes) : Option Scalar :=
  let ofMatch (f : Match → Scalar) : Option Scalar := some ((m.found.map f).getD .none)
  match name with
  | ['0'] => none
  | ['&'] => ofMatch fun f => .text f.whole
  | ['\x60'] => ofMatch fun f => .text (f.text.take f.start)
  | ['\''] => ofMatch fun f => .text (f.text.drop f.place.position)
  | ['+'] => ofMatch fun f =>
    f.group ((f.place.groups.map fun g => g.1).foldl max 0)
  | ['.'] =>
    match m.lastRead.bind fun n => m.conduits[n]? with
    | some p => some (.ofNat p.lines)
    | none => none
  | name =>
    if name ≠ [] && name.all Char.isDigit then ofMatch fun f => f.group (readBased 10 name).1
    else none

/-- The pieces of a text between matches, with what groups have matched between them. An empty match
at the start of a piece does not divide. -/
def Matcher.pieces (r : Matcher) (text : Bytes) : Nat → Nat → Nat → Option Nat → List Scalar
  | 0, _, start, _ => [.text (text.drop start)]
  | fuel + 1, position, start, most =>
    let rest : List Scalar := [.text (text.drop start)]
    if most = some 1 then rest
    else
      match r.search text position false with
      | none => rest
      | some m =>
        let stop := m.place.position
        if m.isEmpty then
          if text.length ≤ m.start then rest
          else if m.start = start then r.pieces text fuel (position + 1) start most
          else
            .text ((text.take m.start).drop start) :: r.groupsIn m
              ++ r.pieces text fuel stop stop (most.map (· - 1))
        else
          .text ((text.take m.start).drop start) :: r.groupsIn m
            ++ r.pieces text fuel stop stop (most.map (· - 1))

/-- Values without the empty ones at the end. -/
def withoutTail (vs : List Scalar) : List Scalar :=
  (vs.reverse.dropWhile fun v => v.asText = []).reverse

/-- The words of a text. -/
def wordsIn (cs : Bytes) (most : Option Nat) : Nat → List Bytes
  | 0 => []
  | fuel + 1 =>
    match cs.dropWhile isSpaceChar with
    | [] => if cs = [] then [] else [[]]
    | start =>
      if most = some 1 then [start]
      else
        let word := start.takeWhile fun c => !isSpaceChar c
        let rest := start.drop word.length
        if rest = [] then [word] else word :: wordsIn rest (most.map (· - 1)) fuel

/-- Whether a text is divided where it has blanks, and otherwise by an expression; the parts of it.
-/
def divide (divider : Option Matcher) (text : Bytes) (limit : Int) : List Scalar :=
  if text = [] then []
  else
    let most : Option Nat := if 0 < limit then some limit.toNat else none
    let parts := match divider with
      | none => (wordsIn text most (text.length + 2)).map Scalar.text
      | some r => r.pieces text (2 * text.length + 4) 0 0 most
    if limit = 0 then withoutTail parts else parts

/-! ## Operators on two values -/

/-- The result of an operator that needs both of its values. -/
def operatorResult (o : String) (a b : Scalar) : Act Scalar := do
  let counted (test : Ordering → Bool) : Scalar := .ofBool ((a.count.compare b.count).any test)
  let texted (test : Ordering → Bool) : Scalar := .ofBool (test (compareTexts a.asText b.asText))
  match o with
  | "." => return .text (a.asText ++ b.asText)
  | "x" => return .text (List.replicate b.int.toNat a.asText).flatten
  | "==" => return counted (· == .eq)
  | "!=" => return .ofBool !((a.count.compare b.count).any (· == .eq))
  | "<" => return counted (· == .lt)
  | ">" => return counted (· == .gt)
  | "<=" => return counted (· != .gt)
  | ">=" => return counted (· != .lt)
  | "<=>" => return orderValue (a.count.compare b.count)
  | "eq" => return texted (· == .eq)
  | "ne" => return texted (· != .eq)
  | "lt" => return texted (· == .lt)
  | "gt" => return texted (· == .gt)
  | "le" => return texted (· != .gt)
  | "ge" => return texted (· != .lt)
  | "cmp" => return orderValue (some (compareTexts a.asText b.asText))
  | "xor" => return .ofBool (a.isTrue != b.isTrue)
  | o =>
    match a.count.result o b.count with
    | .ok n => return n.scalar
    | .error e => fault (e.words [])

/-- Values put in an order. -/
def ordered (comesAfter : Scalar → Scalar → Act Bool) : Nat → List Scalar → Act (List Scalar)
  | 0, vs => return vs
  | fuel + 1, vs => do
    if vs.length ≤ 1 then return vs
    else
      let half := vs.length / 2
      let a ← ordered comesAfter fuel (vs.take half)
      let b ← ordered comesAfter fuel (vs.drop half)
      merge (vs.length + 1) a b []
where
  /-- Puts two lists in order together. -/
  merge : Nat → List Scalar → List Scalar → List Scalar → Act (List Scalar)
    | 0, a, b, out => return out.reverse ++ a ++ b
    | _ + 1, [], b, out => return out.reverse ++ b
    | _ + 1, a, [], out => return out.reverse ++ a
    | fuel + 1, x :: a, y :: b, out => do
      if ← comesAfter x y then merge fuel (x :: a) b (y :: out)
      else merge fuel a (y :: b) (x :: out)

end LinkWatch.Host.Sigil
