import LinkWatch.Host.Utility.Exchange

/-!
# Regular expressions

Expressions in the basic and the extended notation. A match is the longest one from the first place
where there is one. Matching goes from a state to all states it can end in; of those with the same
end the first is kept, in which earlier parts have taken as much as they can.
-/

namespace LinkWatch.Host.Utility

open LinkWatch.Text

/-- Places between characters. -/
inductive Edge where
  | start
  | stop
  | lineStart
  | lineStop
  | word
  | noWord
  | wordStart
  | wordStop
  /-- Not after a character of a word. -/
  | clearBefore
  /-- Not before a character of a word. -/
  | clearAfter
  deriving DecidableEq, Repr

/-- A regular expression. -/
inductive Regex where
  | empty
  /-- One of some characters, or any other one. -/
  | one (negated : Bool) (members : Bytes)
  | edge (e : Edge)
  | group (number : Nat) (r : Regex)
  /-- What a group has matched, again. -/
  | again (number : Nat)
  | both (a b : Regex)
  | either (a b : Regex)
  | times (r : Regex) (least : Nat) (most : Option Nat)
  deriving Repr

/-! ## Reading -/

/-- How expressions are written. -/
structure RegexStyle where
  extended : Bool
  /-- Whether upper and lower case are the same. -/
  ignoresCase : Bool := false
  /-- Whether every line of a text has a start and an end of its own. -/
  byLines : Bool := false
  /-- Whether the end of a line is a character like the others. -/
  matchesEndings : Bool := false
  /-- Whether characters may be written with escapes. -/
  hasEscapes : Bool := false
  /-- Whether braces stand for themselves. -/
  hasPlainBraces : Bool := false
  deriving Repr

/-- A character in both cases if they are the same. -/
def RegexStyle.character (n : RegexStyle) (c : Char) : Regex :=
  if n.ignoresCase && c.toLower ≠ c.toUpper then .one false [c.toLower, c.toUpper]
  else .one false [c]

/-- Characters in both cases if they are the same. -/
def RegexStyle.members (n : RegexStyle) (cs : Bytes) : Bytes :=
  if n.ignoresCase then cs ++ cs.map Char.toLower ++ cs.map Char.toUpper else cs

/-- Characters that are not matched as one of many. -/
def RegexStyle.excluded (n : RegexStyle) (others : Bytes) : Bytes :=
  if n.matchesEndings && !n.byLines then others else '\n' :: others

/-- The characters of words. -/
def wordCharacters : Bytes :=
  allBytes.filter isNameChar

/-- The characters that are blanks or ends of lines. -/
def spaceCharacters : Bytes :=
  allBytes.filter isSpaceChar

/-- Reads what stands between brackets, after the opening one and a sign for negation. -/
def readBracket (hasEscapes : Bool) : Nat → Bool → Bytes → Option (Bytes × Bytes)
  | 0, _, _ => none
  | fuel + 1, isFirst, cs =>
    let more (members : Bytes) (rest : Bytes) : Option (Bytes × Bytes) :=
      (readBracket hasEscapes fuel false rest).map fun p => (members ++ p.1, p.2)
    let (escape, after) := match hasEscapes, cs with
      | true, '\\' :: rest =>
        match readScriptEscape? rest with
        | some p => (some p.1, p.2)
        | none => (none, rest)
      | _, _ => (none, [])
    if let some c := escape then more [c] after
    else
    match cs with
    | [] => none
    | '[' :: ':' :: rest =>
      match cut? [':', ']'] rest with
      | some (name, after) =>
        match classMembers? (String.ofList name) with
        | some members => more members after
        | none => none
      | none => none
    | '[' :: '.' :: c :: '.' :: ']' :: rest => more [c] rest
    | '[' :: '=' :: c :: '=' :: ']' :: rest => more [c] rest
    | c :: rest =>
      if c = ']' && !isFirst then some ([], rest)
      else
        match rest with
        | '-' :: d :: after =>
          if d = ']' then more [c] rest
          else
            more ((List.range (d.toNat + 1 - c.toNat)).map fun i => Char.ofNat (c.toNat + i)) after
        | _ => more [c] rest

/-- Reads a bracket expression after its opening bracket. -/
def RegexStyle.bracket (n : RegexStyle) (cs : Bytes) : Option (Regex × Bytes) :=
  match cs with
  | '^' :: rest =>
    (readBracket n.hasEscapes (rest.length + 1) true rest).map fun p =>
      (.one true (n.excluded (n.members p.1)), p.2)
  | _ =>
    (readBracket n.hasEscapes (cs.length + 1) true cs).map fun p =>
      (.one false (n.members p.1), p.2)

/-- Reads the bounds of a repetition after the opening brace, up to the closing one. -/
def readBounds (extended : Bool) (cs : Bytes) : Option (Nat × Option Nat × Bytes) :=
  let (least, rest) := readBased 10 cs
  let hasLeast := cs.head?.any Char.isDigit
  let (most, rest) := match rest with
    | ',' :: rest =>
      if rest.head?.any Char.isDigit then let p := readBased 10 rest; (some p.1, p.2)
      else (none, rest)
    | rest => (some least, rest)
  let isProper := (hasLeast || cs.head? = some ',') && most.all (least ≤ ·)
  match extended, rest with
  | true, '\x7d' :: rest => if isProper then some (least, most, rest) else none
  | false, '\\' :: '\x7d' :: rest => if isProper then some (least, most, rest) else none
  | _, _ => none

/-- What has been read of an expression. -/
structure ReadRegex where
  regex : Regex
  rest : Bytes
  /-- How many groups have been opened. -/
  groups : Nat

/-- Whether a text starts with a sign that ends a branch: one for alternatives or a closing
parenthesis. -/
def endsBranch (n : RegexStyle) (depth : Nat) (cs : Bytes) : Bool :=
  match cs with
  | [] => true
  | '|' :: _ => n.extended
  | ')' :: _ => n.extended && depth > 0
  | '\\' :: '|' :: _ => !n.extended
  | '\\' :: ')' :: _ => !n.extended
  | _ => false

/-- Reads a sign for repetition. -/
def repetition? (n : RegexStyle) (cs : Bytes) : Option (Except String (Nat × Option Nat × Bytes)) :=
  match n.extended && !(n.hasPlainBraces && cs.head? = some '\x7b'), cs with
  | _, '*' :: rest => some (.ok (0, none, rest))
  | true, '+' :: rest => some (.ok (1, none, rest))
  | true, '?' :: rest => some (.ok (0, some 1, rest))
  | false, '\\' :: '+' :: rest => some (.ok (1, none, rest))
  | false, '\\' :: '?' :: rest => some (.ok (0, some 1, rest))
  | true, '\x7b' :: rest =>
    (readBounds true rest).map .ok
  | false, '\\' :: '\x7b' :: rest =>
    match readBounds false rest with
    | some p => some (.ok p)
    | none => some (.error "Invalid content of \\\x7b\\\x7d")
  | _, _ => none

/-- Adds the signs for repetition that follow an expression. -/
def readRepetitions (n : RegexStyle) : Nat → Regex → Bytes → Except String (Regex × Bytes)
  | 0, r, cs => .ok (r, cs)
  | fuel + 1, r, cs =>
    match repetition? n cs with
    | none => .ok (r, cs)
    | some (.error e) => .error e
    | some (.ok (least, most, rest)) => readRepetitions n fuel (.times r least most) rest

mutual

/-- Reads alternatives. -/
def readRegex (n : RegexStyle) : Nat → Nat → Nat → Bytes → Except String ReadRegex
  | 0, _, _, _ => .error "Regular expression too big"
  | fuel + 1, depth, groups, cs =>
    (readBranch n fuel depth groups true cs).bind fun a =>
      let after? : Option Bytes := match n.extended, a.rest with
        | true, '|' :: rest => some rest
        | false, '\\' :: '|' :: rest => some rest
        | _, _ => none
      match after? with
      | some rest =>
        (readRegex n fuel depth a.groups rest).map fun b =>
          { b with regex := .either a.regex b.regex }
      | none => .ok a

/-- Reads one alternative. -/
def readBranch (n : RegexStyle) : Nat → Nat → Nat → Bool → Bytes → Except String ReadRegex
  | 0, _, _, _, _ => .error "Regular expression too big"
  | fuel + 1, depth, groups, isFirst, cs =>
    if endsBranch n depth cs then
      match n.extended, depth, cs with
      | false, 0, '\\' :: ')' :: _ => .error "Unmatched ) or \\)"
      | _, _, _ => .ok ⟨.empty, cs, groups⟩
    else
      (readAtom n fuel depth groups isFirst cs).bind fun a =>
        let isAnchor : Bool := cs.head? = some '^' && match a.regex with
          | .edge .start => !n.extended
          | .edge .lineStart => !n.extended
          | _ => false
        (if isAnchor then .ok (a.regex, a.rest)
          else readRepetitions n fuel a.regex a.rest).bind fun (r, rest) =>
          (readBranch n fuel depth a.groups isAnchor rest).map fun b =>
            { b with regex := .both r b.regex }

/-- Reads what can be repeated. -/
def readAtom (n : RegexStyle) : Nat → Nat → Nat → Bool → Bytes → Except String ReadRegex
  | 0, _, _, _, _ => .error "Regular expression too big"
  | fuel + 1, depth, groups, isFirst, cs =>
    let is (r : Regex) (rest : Bytes) : Except String ReadRegex := .ok ⟨r, rest, groups⟩
    let opened (rest : Bytes) : Except String ReadRegex :=
      (readRegex n fuel (depth + 1) (groups + 1) rest).bind fun a =>
        match n.extended, a.rest with
        | true, ')' :: rest => .ok { a with regex := .group (groups + 1) a.regex, rest := rest }
        | false, '\\' :: ')' :: rest =>
          .ok { a with regex := .group (groups + 1) a.regex, rest := rest }
        | _, _ => .error "Unmatched ( or \\("
    match cs with
    | [] => is .empty []
    | '.' :: rest => is (.one true (n.excluded (if n.matchesEndings then [] else ['\x00']))) rest
    | '[' :: rest =>
      match n.bracket rest with
      | some (r, rest) => is r rest
      | none => .error "Unmatched [, [^, [:, [., or [="
    | '^' :: rest =>
      if n.extended || isFirst then is (.edge (if n.byLines then .lineStart else .start)) rest
      else is (n.character '^') rest
    | '$' :: rest =>
      if n.extended || endsBranch n depth rest then
        is (.edge (if n.byLines then .lineStop else .stop)) rest
      else is (n.character '$') rest
    | '*' :: rest => if n.extended then is .empty rest else is (n.character '*') rest
    | '(' :: rest => if n.extended then opened rest else is (n.character '(') rest
    | '+' :: rest => if n.extended then is .empty rest else is (n.character '+') rest
    | '?' :: rest => if n.extended then is .empty rest else is (n.character '?') rest
    | ['\\'] => .error "Trailing backslash"
    | '\\' :: c :: rest =>
      match if n.hasEscapes then readScriptEscape? (c :: rest) else none with
      | some p => is (n.character p.1) p.2
      | none =>
      match c with
      | '(' => if n.extended then is (n.character c) rest else opened rest
      | 'w' => is (.one false wordCharacters) rest
      | 'W' => is (.one true wordCharacters) rest
      | 's' => is (.one false spaceCharacters) rest
      | 'S' => is (.one true spaceCharacters) rest
      | 'b' => is (.edge .word) rest
      | 'B' => is (.edge .noWord) rest
      | '<' => is (.edge .wordStart) rest
      | '>' => is (.edge .wordStop) rest
      | '\x60' => is (.edge .start) rest
      | '\'' => is (.edge .stop) rest
      | c =>
        if '1' ≤ c && c ≤ '9' then
          if groups < c.toNat - '0'.toNat then .error "Invalid back reference"
          else is (.again (c.toNat - '0'.toNat)) rest
        else is (n.character c) rest
    | c :: rest => is (n.character c) rest

end

/-- The expression that a text stands for, with the number of its groups. -/
def RegexStyle.read (n : RegexStyle) (cs : Bytes) : Except String (Regex × Nat) :=
  (readRegex n (4 * cs.length + 8) 0 0 cs).bind fun a =>
    if a.rest = [] then .ok (a.regex, a.groups) else .error "Unmatched ) or \\)"

/-! ## Matching -/

/-- A place in a text, with what the groups have matched. -/
structure Spot where
  position : Nat
  before : Option Char
  after : Bytes
  groups : List (Nat × Bytes) := []

/-- The start of a text. -/
def Spot.start (cs : Bytes) : Spot where
  position := 0
  before := none
  after := cs

/-- Of spots at the same place, the first one. -/
def firstSpots (spots : List Spot) : List Spot :=
  (spots.foldl (fun kept s =>
    if kept.any fun k => k.position = s.position then kept else s :: kept) []).reverse

/-- Spots with those further on first. -/
def farthestFirst (spots : List Spot) : List Spot :=
  spots.mergeSort fun a b => b.position ≤ a.position

/-- Whether a spot lies at a certain kind of place. -/
def Spot.isAt (s : Spot) (e : Edge) : Bool :=
  let wordBefore := s.before.any isNameChar
  let wordAfter := s.after.head?.any isNameChar
  match e with
  | .start => s.before.isNone
  | .stop => s.after = []
  | .lineStart => s.before.all (· = '\n')
  | .lineStop => s.after.head?.all (· = '\n')
  | .word => wordBefore != wordAfter
  | .noWord => wordBefore == wordAfter
  | .wordStart => !wordBefore && wordAfter
  | .wordStop => wordBefore && !wordAfter
  | .clearBefore => !wordBefore
  | .clearAfter => !wordAfter

/-- The spot after some text. -/
def Spot.advance (s : Spot) (size : Nat) : Spot :=
  if size = 0 then s
  else
    { s with
      position := s.position + size, before := s.after[size - 1]?, after := s.after.drop size }

/-- All spots that repeating leads to, those after more rounds first. -/
def repeatSpots (step : Spot → List Spot) (most : Option Nat) : Nat → Nat → List Spot → List Spot
  | 0, _, _ => []
  | fuel + 1, round, spots =>
    if spots = [] || most.any (· ≤ round) then []
    else
      let next := firstSpots (spots.flatMap fun s =>
        (step s).filter fun t => s.position < t.position)
      repeatSpots step most fuel (round + 1) next ++ next

/-- The spots at which an expression can end that starts at a spot. -/
def Regex.spots : Regex → Spot → List Spot
  | .empty, s => [s]
  | .one negated members, s =>
    match s.after with
    | c :: _ => if members.contains c != negated then [s.advance 1] else []
    | [] => []
  | .edge e, s => if s.isAt e then [s] else []
  | .group number r, s =>
    (r.spots s).map fun t =>
      { t with
        groups := (number, s.after.take (t.position - s.position))
          :: t.groups.filter fun g => g.1 ≠ number }
  | .again number, s =>
    match s.groups.lookup number with
    | some text => if text.isPrefixOf s.after then [s.advance text.length] else []
    | none => []
  | .both a b, s => firstSpots ((a.spots s).flatMap b.spots)
  | .either a b, s => firstSpots (farthestFirst (a.spots s ++ b.spots s))
  | .times r least most, s =>
    let first := (List.range least).foldl (fun spots _ => firstSpots (spots.flatMap r.spots)) [s]
    let rest := most.map (· - least)
    firstSpots (repeatSpots r.spots rest (s.after.length + 1) 0 first ++ first)

/-- What an expression has matched. -/
structure Occurrence where
  /-- The text before the match, from where the search started. -/
  before : Bytes
  text : Bytes
  groups : List (Nat × Bytes)
  /-- The end of the match. -/
  stop : Spot

/-- The first and longest match from a spot on. -/
def Regex.find? (r : Regex) : Nat → List Char → Spot → Option Occurrence
  | 0, _, _ => none
  | fuel + 1, skipped, s =>
    match farthestFirst (r.spots { s with groups := [] }) with
    | t :: _ =>
      some ⟨skipped.reverse, s.after.take (t.position - s.position), t.groups, t⟩
    | [] =>
      match s.after with
      | [] => none
      | c :: _ => r.find? fuel (c :: skipped) (s.advance 1)

/-- The first match in a text. -/
def Regex.search (r : Regex) (s : Spot) : Option Occurrence :=
  r.find? (s.after.length + 1) [] s

end LinkWatch.Host.Utility
