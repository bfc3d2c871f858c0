import LinkWatch.Host.Utility.Regex

/-!
# Expressions that are tried in order

Expressions whose alternatives are tried one after the other, so that the first way to match counts
and not the longest. They may look ahead and behind, and take as little as possible instead of as
much as possible.
-/

namespace LinkWatch.Host.Utility

open LinkWatch.Text

/-- All characters without some. -/
def othersThan (cs : Bytes) : Bytes :=
  allBytes.filter fun c => !cs.contains c

/-- Places between characters. -/
inductive TrialEdge where
  /-- The start of the text, or of a line. -/
  | start (ofLine : Bool)
  /-- The end of the text, or of a line, or before the last line end. -/
  | stop (ofLine : Bool)
  | veryEnd
  | word (isNegated : Bool)
  deriving DecidableEq, Repr

/-- How much a repetition takes. -/
inductive Greed where
  | most
  | least
  /-- As much as possible, whatever follows. -/
  | all
  deriving DecidableEq, Repr

/-- An expression whose alternatives are tried in order. -/
inductive Trial where
  | empty
  | one (members : Bytes)
  | edge (e : TrialEdge)
  | group (number : Nat) (t : Trial)
  /-- What a group has matched, again. -/
  | again (number : Nat) (ignoresCase : Bool)
  | both (a b : Trial)
  | either (a b : Trial)
  | times (t : Trial) (least : Nat) (most : Option Nat) (greed : Greed)
  | look (ahead isNegated : Bool) (t : Trial)
  /-- The first way to match only. -/
  | atomic (t : Trial)
  /-- The match starts here. -/
  | keep
  deriving Repr

/-! ## Reading -/

/-- How a part of an expression is read. -/
structure TrialStyle where
  ignoresCase : Bool := false
  /-- Whether the edges of lines count as edges of the text. -/
  isByLine : Bool := false
  /-- Whether a point matches line ends. -/
  dotAll : Bool := false
  /-- Whether blanks in the expression mean nothing. -/
  isSpaced : Bool := false

/-- What has been read of an expression. -/
structure ReadTrial where
  trial : Trial
  rest : Bytes
  groups : Nat
  /-- The groups that have names. -/
  names : List (Bytes × Nat)
  style : TrialStyle

/-- Members in both cases if they are the same. -/
def TrialStyle.members (n : TrialStyle) (cs : Bytes) : Bytes :=
  if n.ignoresCase then cs ++ cs.map Char.toLower ++ cs.map Char.toUpper else cs

/-- The members of a class that a letter after a backslash names. -/
def letterClass? (c : Char) : Option Bytes :=
  let named (isMember : Char → Bool) : Bytes := allBytes.filter isMember
  match c with
  | 'd' => some (named Char.isDigit)
  | 'D' => some (named fun c => !c.isDigit)
  | 'w' => some (named isNameChar)
  | 'W' => some (named fun c => !isNameChar c)
  | 's' => some (named isSpaceChar)
  | 'S' => some (named fun c => !isSpaceChar c)
  | 'h' => some (named fun c => isBlankChar c || c.toNat = 160)
  | 'H' => some (named fun c => !(isBlankChar c || c.toNat = 160))
  | 'v' => some (named fun c => 10 ≤ c.toNat && c.toNat ≤ 13 || c.toNat = 133)
  | 'V' => some (named fun c => !(10 ≤ c.toNat && c.toNat ≤ 13 || c.toNat = 133))
  | 'N' => some (named fun c => c ≠ '\n')
  | _ => none

/-- The character that an escape stands for, after its backslash. -/
def trialEscape (cs : Bytes) : Char × Bytes :=
  match cs with
  | [] => ('\\', [])
  | 'n' :: rest => ('\n', rest)
  | 't' :: rest => ('\t', rest)
  | 'r' :: rest => ('\r', rest)
  | 'f' :: rest => ('\x0c', rest)
  | 'e' :: rest => ('\x1b', rest)
  | 'a' :: rest => ('\x07', rest)
  | 'x' :: '\x7b' :: rest =>
    let p := readBased 16 rest
    (Char.ofNat (p.1 % 256), p.2.drop 1)
  | 'x' :: rest =>
    let digits := (rest.takeWhile fun c => digitValue c < 16).take 2
    (Char.ofNat (readBased 16 digits).1, rest.drop digits.length)
  | 'c' :: c :: rest => (Char.ofNat (c.toUpper.toNat ^^^ 64), rest)
  | '0' :: rest =>
    let digits := (rest.takeWhile isOctal).take 2
    (Char.ofNat (readBased 8 digits).1, rest.drop digits.length)
  | c :: rest => (c, rest)

/-- Reads what stands between brackets, after the opening one and a sign for negation. -/
def readTrialBracket : Nat → Bool → Bytes → Option (Bytes × Bytes)
  | 0, _, _ => none
  | fuel + 1, isFirst, cs =>
    let more (members : Bytes) (rest : Bytes) : Option (Bytes × Bytes) :=
      (readTrialBracket fuel false rest).map fun p => (members ++ p.1, p.2)
    let single (c : Char) (rest : Bytes) : Option (Bytes × Bytes) :=
      match rest with
      | '-' :: ']' :: _ => more [c] rest
      | '-' :: '\\' :: d :: after =>
        if (letterClass? d).isSome then more [c] rest
        else
          let (last, after) := trialEscape (d :: after)
          more ((List.range (last.toNat + 1 - c.toNat)).map fun i => Char.ofNat (c.toNat + i)) after
      | '-' :: last :: after =>
        more ((List.range (last.toNat + 1 - c.toNat)).map fun i => Char.ofNat (c.toNat + i)) after
      | _ => more [c] rest
    match cs with
    | [] => none
    | '[' :: ':' :: rest =>
      match cut? [':', ']'] rest with
      | some (name, after) =>
        match name with
        | '^' :: name =>
          (classMembers? (String.ofList name)).bind fun members => more (othersThan members) after
        | name => (classMembers? (String.ofList name)).bind fun members => more members after
      | none => single '[' (':' :: rest)
    | '\\' :: d :: rest =>
      match letterClass? d with
      | some members => more members rest
      | none =>
        if d = 'b' then single '\x08' rest
        else
          let (c, rest) := trialEscape (d :: rest)
          single c rest
    | c :: rest => if c = ']' && !isFirst then some ([], rest) else single c rest

/-- Reads a sign for repetition with its greed. -/
def trialRepetition? (cs : Bytes) : Option (Nat × Option Nat × Greed × Bytes) :=
  let greedy (least : Nat) (most : Option Nat) (rest : Bytes) : Nat × Option Nat × Greed × Bytes :=
    match rest with
    | '?' :: rest => (least, most, .least, rest)
    | '+' :: rest => (least, most, .all, rest)
    | rest => (least, most, .most, rest)
  match cs with
  | '*' :: rest => some (greedy 0 none rest)
  | '+' :: rest => some (greedy 1 none rest)
  | '?' :: rest => some (greedy 0 (some 1) rest)
  | '\x7b' :: rest =>
    if rest.head?.any Char.isDigit then
      (readBounds true rest).map fun (least, most, rest) => greedy least most rest
    else none
  | _ => none

/-- Changes of style by letters, of which those after a dash are taken back. -/
def TrialStyle.change (n : TrialStyle) : Bool → Bytes → TrialStyle
  | _, [] => n
  | value, c :: cs =>
    match c with
    | '-' => n.change false cs
    | '^' => TrialStyle.change {} true cs
    | 'i' => TrialStyle.change { n with ignoresCase := value } value cs
    | 'm' => TrialStyle.change { n with isByLine := value } value cs
    | 's' => TrialStyle.change { n with dotAll := value } value cs
    | 'x' => TrialStyle.change { n with isSpaced := value } value cs
    | _ => n.change value cs

mutual

/-- Reads alternatives. -/
def readTrial : Nat → TrialStyle → Nat → List (Bytes × Nat) → Bytes → Except String ReadTrial
  | 0, _, _, _, _ => .error "regular expression is too large"
  | fuel + 1, n, groups, names, cs =>
    (readTrialBranch fuel n groups names cs).bind fun a =>
      match a.rest with
      | '|' :: rest =>
        (readTrial fuel a.style a.groups a.names rest).map fun b =>
          { b with trial := .either a.trial b.trial }
      | _ => .ok a

/-- Reads one alternative. -/
def readTrialBranch : Nat → TrialStyle → Nat → List (Bytes × Nat) → Bytes → Except String ReadTrial
  | 0, _, _, _, _ => .error "regular expression is too large"
  | fuel + 1, n, groups, names, cs =>
    match cs with
    | [] => .ok ⟨.empty, cs, groups, names, n⟩
    | '|' :: _ => .ok ⟨.empty, cs, groups, names, n⟩
    | ')' :: _ => .ok ⟨.empty, cs, groups, names, n⟩
    | c :: rest =>
      if n.isSpaced && isSpaceChar c then readTrialBranch fuel n groups names rest
      else if n.isSpaced && c = '#' then
        readTrialBranch fuel n groups names (rest.dropWhile (· ≠ '\n'))
      else
        (readTrialAtom fuel n groups names cs).bind fun a =>
          let (t, rest) := match trialRepetition? a.rest with
            | some (least, most, greed, rest) => (Trial.times a.trial least most greed, rest)
            | none => (a.trial, a.rest)
          (readTrialBranch fuel a.style a.groups a.names rest).map fun b =>
            { b with trial := .both t b.trial }

/-- Reads what can be repeated. -/
def readTrialAtom : Nat → TrialStyle → Nat → List (Bytes × Nat) → Bytes → Except String ReadTrial
  | 0, _, _, _, _ => .error "regular expression is too large"
  | fuel + 1, n, groups, names, cs =>
    let is (t : Trial) (rest : Bytes) : Except String ReadTrial := .ok ⟨t, rest, groups, names, n⟩
    let character (c : Char) (rest : Bytes) : Except String ReadTrial :=
      is (.one (n.members [c])) rest
    let inside (n : TrialStyle) (groups : Nat) (names : List (Bytes × Nat)) (wrap : Trial → Trial)
        (rest : Bytes) : Except String ReadTrial :=
      (readTrial fuel n groups names rest).bind fun a =>
        match a.rest with
        | ')' :: rest => .ok { a with trial := wrap a.trial, rest := rest }
        | _ => .error "missing closing parenthesis"
    let plain (wrap : Trial → Trial) (rest : Bytes) : Except String ReadTrial :=
      (inside n groups names wrap rest).map fun a => { a with style := n }
    let numbered (name : Option Bytes) (rest : Bytes) : Except String ReadTrial :=
      let names := match name with
        | some name => (name, groups + 1) :: names
        | none => names
      (inside n (groups + 1) names (.group (groups + 1)) rest).map fun a => { a with style := n }
    let namedUntil (stop : Char) (rest : Bytes) : Except String ReadTrial :=
      match cutAt? stop rest with
      | some (name, rest) => numbered (some name) rest
      | none => .error "syntax error in subpattern name (missing terminator?)"
    match cs with
    | [] => is .empty []
    | '.' :: rest => is (.one (if n.dotAll then allBytes else othersThan ['\n'])) rest
    | '^' :: rest => is (.edge (.start n.isByLine)) rest
    | '$' :: rest => is (.edge (.stop n.isByLine)) rest
    | '[' :: '^' :: rest =>
      match readTrialBracket (rest.length + 1) true rest with
      | some (members, rest) => is (.one (othersThan (n.members members))) rest
      | none => .error "missing terminating ] for character class"
    | '[' :: rest =>
      match readTrialBracket (rest.length + 1) true rest with
      | some (members, rest) => is (.one (n.members members)) rest
      | none => .error "missing terminating ] for character class"
    | '(' :: '?' :: rest =>
      match rest with
      | '#' :: rest => is .empty ((rest.dropWhile (· ≠ ')')).drop 1)
      | ':' :: rest => plain id rest
      | '=' :: rest => plain (.look true false) rest
      | '!' :: rest => plain (.look true true) rest
      | '<' :: '=' :: rest => plain (.look false false) rest
      | '<' :: '!' :: rest => plain (.look false true) rest
      | '>' :: rest => plain .atomic rest
      | '|' :: rest => plain id rest
      | '<' :: rest => namedUntil '>' rest
      | 'P' :: '<' :: rest => namedUntil '>' rest
      | '\'' :: rest => namedUntil '\'' rest
      | rest =>
        let letters := rest.takeWhile fun c => c.isAlpha || c = '-' || c = '^'
        match rest.drop letters.length with
        | ')' :: rest => .ok ⟨.empty, rest, groups, names, n.change true letters⟩
        | ':' :: rest =>
          (inside (n.change true letters) groups names id rest).map fun a => { a with style := n }
        | _ => .error "unrecognized character after (? or (?-"
    | '(' :: rest => numbered none rest
    | '*' :: _ => .error "quantifier does not follow a repeatable item"
    | '+' :: _ => .error "quantifier does not follow a repeatable item"
    | '?' :: _ => .error "quantifier does not follow a repeatable item"
    | ['\\'] => .error "\\ at end of pattern"
    | '\\' :: c :: rest =>
      match letterClass? c with
      | some members => is (.one members) rest
      | none =>
        match c with
        | 'b' => is (.edge (.word false)) rest
        | 'B' => is (.edge (.word true)) rest
        | 'A' => is (.edge (.start false)) rest
        | 'G' => is (.edge (.start false)) rest
        | 'Z' => is (.edge (.stop false)) rest
        | 'z' => is (.edge .veryEnd) rest
        | 'K' => is .keep rest
        | 'R' => is (.either (.both (.one ['\r']) (.one ['\n']))
            (.one (allBytes.filter fun c => 10 ≤ c.toNat && c.toNat ≤ 13))) rest
        | 'Q' =>
          let (text, rest) := (cut? ['\\', 'E'] rest).getD (rest, [])
          is (text.foldr (fun c t => .both (.one (n.members [c])) t) .empty) rest
        | 'E' => is .empty rest
        | 'k' =>
          let stop := match rest.head? with
            | some '<' => '>'
            | some '\'' => '\''
            | _ => '\x7d'
          let (name, rest) := (cutAt? stop (rest.drop 1)).getD ([], [])
          is (.again ((names.lookup name).getD 0) n.ignoresCase) rest
        | 'g' =>
          let isBraced := rest.head? = some '\x7b'
          let rest := if isBraced then rest.drop 1 else rest
          let isBack := rest.head? = some '-'
          let (m, rest) := readBased 10 (if isBack then rest.drop 1 else rest)
          is (.again (if isBack then groups + 1 - m else m) n.ignoresCase)
            (if isBraced then rest.drop 1 else rest)
        | c =>
          if '1' ≤ c && c ≤ '9' then
            let (m, after) := readBased 10 (c :: rest)
            is (.again m n.ignoresCase) after
          else
            let (d, rest) := trialEscape (c :: rest)
            character d rest
    | c :: rest => character c rest

end

/-- An expression with the number of its groups and their names. -/
def TrialStyle.read (n : TrialStyle) (cs : Bytes) :
    Except String (Trial × Nat × List (Bytes × Nat)) :=
  (readTrial (4 * cs.length + 8) n 0 [] cs).bind fun a =>
    if a.rest = [] then .ok (a.trial, a.groups, a.names) else .error "unmatched closing parenthesis"

/-! ## Matching -/

/-- A place in a text, with what the groups have matched. -/
structure Place where
  position : Nat
  /-- The text before the place, its last character first. -/
  back : Bytes
  after : Bytes
  /-- Where groups start and end. -/
  groups : List (Nat × Nat × Nat) := []
  /-- Where the match starts, if that has been set. -/
  start : Option Nat := none

/-- The place after so many characters. -/
def Place.advance (s : Place) (size : Nat) : Place :=
  { s with
    position := s.position + size, back := (s.after.take size).reverse ++ s.back
    after := s.after.drop size }

/-- The place before so many characters. -/
def Place.retreat (s : Place) (size : Nat) : Place :=
  { s with
    position := s.position - size, back := s.back.drop size
    after := (s.back.take size).reverse ++ s.after }

/-- Whether a place is of a certain kind. -/
def Place.isAt (s : Place) (e : TrialEdge) : Bool :=
  match e with
  | .start ofLine => s.back = [] || (ofLine && s.back.head? = some '\n')
  | .stop ofLine => s.after = [] || s.after = ['\n'] || (ofLine && s.after.head? = some '\n')
  | .veryEnd => s.after = []
  | .word isNegated =>
    ((s.back.head?.any isNameChar) != (s.after.head?.any isNameChar)) != isNegated

/-- The text of a group. -/
def Place.group? (s : Place) (number : Nat) : Option Bytes :=
  (s.groups.lookup number).map fun (first, last) =>
    ((s.back.reverse ++ s.after).take last).drop first

/-- Of places at the same position, the first one. -/
def firstPlaces (places : List Place) : List Place :=
  (places.foldl (fun (kept : List Place) s =>
    if kept.any fun k => k.position = s.position then kept else s :: kept) []).reverse

/-- The places that repeating leads to, in the order in which they are tried. Places that have been
come to before by as many rounds are passed over. -/
def repeatInOrder (step : Place → List Place) (least : Nat) (most : Option Nat) (isLazy : Bool) :
    Nat → Nat → Place → List (Nat × Nat) → List Place × List (Nat × Nat)
  | 0, _, s, seen => ([s], seen)
  | fuel + 1, round, s, seen =>
    let mark := (min round (max least (most.getD 0)), s.position)
    if seen.contains mark then ([], seen)
    else
      let seen := mark :: seen
      let own : List Place := if least ≤ round then [s] else []
      if most.any (· ≤ round) then (own, seen)
      else
        let next := (step s).filter fun t => s.position < t.position || round < least
        let (places, seen) := next.foldl (fun (p : List Place × List (Nat × Nat)) t =>
          let (found, seen) := repeatInOrder step least most isLazy fuel (round + 1) t p.2
          (p.1 ++ found, seen)) ([], seen)
        (if isLazy then own ++ places else places ++ own, seen)

/-- The places at which an expression can end that starts at a place, in the order in which they are
tried. -/
def Trial.places : Trial → Place → List Place
  | .empty, s => [s]
  | .one members, s =>
    match s.after with
    | c :: _ => if members.contains c then [s.advance 1] else []
    | [] => []
  | .edge e, s => if s.isAt e then [s] else []
  | .group number t, s =>
    (t.places s).map fun u =>
      { u with groups := (number, s.position, u.position) :: u.groups.filter fun g => g.1 ≠ number }
  | .again number ignoresCase, s =>
    match s.group? number with
    | some text =>
      let same (a : Bytes) : Bytes := if ignoresCase then a.map Char.toLower else a
      if same text = same (s.after.take text.length) then [s.advance text.length] else []
    | none => []
  | .both a b, s => firstPlaces ((a.places s).flatMap b.places)
  | .either a b, s => firstPlaces (a.places s ++ b.places s)
  | .times t least most greed, s =>
    let fuel := s.after.length + least + 2
    let places := firstPlaces (repeatInOrder t.places least most (greed = .least) fuel 0 s []).1
    if greed = .all then places.take 1 else places
  | .look true isNegated t, s =>
    match t.places s with
    | u :: _ => if isNegated then [] else [{ s with groups := u.groups }]
    | [] => if isNegated then [s] else []
  | .look false isNegated t, s =>
    let isBefore := (List.range (s.back.length + 1)).any fun size =>
      (t.places (s.retreat size)).any fun u => u.position = s.position
    if isBefore != isNegated then [s] else []
  | .atomic t, s => (t.places s).take 1
  | .keep, s => [{ s with start := some s.position }]

/-- The first match from a place on: where it starts, and the place where it ends. -/
def Trial.find? (t : Trial) : Nat → Place → Option (Nat × Place)
  | 0, _ => none
  | fuel + 1, s =>
    match t.places { s with groups := [], start := none } with
    | u :: _ => some (u.start.getD s.position, u)
    | [] => if s.after = [] then none else t.find? fuel (s.advance 1)

/-- The first match in a text from some position on. -/
def Trial.search (t : Trial) (text : Bytes) (position : Nat) : Option (Nat × Place) :=
  t.find? (text.length + 2) (Place.advance ⟨0, [], text, [], none⟩ position)

end LinkWatch.Host.Utility
