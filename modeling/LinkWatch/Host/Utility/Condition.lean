import LinkWatch.Host.Kernel.Installed
import LinkWatch.Host.Utility.Escape
import LinkWatch.Host.Utility.Numeral

/-!
# Conditions

A condition compares texts or numbers, or asks about a text or a file. How it is read depends on
the number of its words, so that every text can be compared.
-/

namespace LinkWatch.Host.Utility

open LinkWatch.Text LinkWatch.Host.Kernel

/-- What a condition comes to, or the message why it has no meaning. -/
abbrev Verdict := Except Bytes Bool

/-- A condition that has been read, and the words that follow it. -/
abbrev Judged := Except Bytes (Bool × List Bytes)

/-- The operators between two texts. -/
def pairOperators (dialect : Dialect) : List String :=
  ["=", "!=", "<", ">", "-eq", "-ne", "-ge", "-gt", "-le", "-lt", "-nt", "-ot", "-ef"]
    ++ (if dialect ≠ .own then ["=="] else [])

/-- The operators before one text. -/
def soleOperators : List String :=
  ["-b", "-c", "-d", "-e", "-f", "-g", "-G", "-h", "-k", "-L", "-n", "-O", "-p", "-r", "-s", "-S",
    "-t", "-u", "-w", "-x", "-z"]

/-- Whether a word is an operator between two texts. -/
def isPairOperator (dialect : Dialect) (w : Bytes) : Bool :=
  String.ofList w ∈ pairOperators dialect

/-- Whether a word is an operator before one text. -/
def isSoleOperator (w : Bytes) : Bool :=
  String.ofList w ∈ soleOperators

/-- The number that a text stands for. -/
def numberIn (dialect : Dialect) (text : Bytes) : Except Bytes Int :=
  let refused : Except Bytes Int :=
    if dialect = .own then .error ("Illegal number: ".toList ++ text)
    else .error ("invalid integer '".toList ++ text ++ ['\''])
  match integer? text with
  | some n => if dialect = .own && saturated n ≠ n then refused else .ok n
  | none => refused

/-- The result of an operator between two texts. -/
def comparePair (dialect : Dialect) (disk : Disk) (operator : String) (a b : Bytes) : Verdict :=
  let numbers (f : Int → Int → Bool) : Verdict :=
    (numberIn dialect a).bind fun x => (numberIn dialect b).map fun y => f x y
  let found? (path : Bytes) : Option Found := (disk.find path).toOption
  let isNewer (a b : Option Found) : Bool :=
    match a, b with
    | some f, some g => g.node.time < f.node.time
    | some _, none => true
    | none, _ => false
  match operator with
  | "=" => .ok (a = b)
  | "==" => .ok (a = b)
  | "!=" => .ok (a ≠ b)
  | "<" => .ok (isBefore a b)
  | ">" => .ok (isBefore b a)
  | "-eq" => numbers fun x y => x = y
  | "-ne" => numbers fun x y => x ≠ y
  | "-lt" => numbers fun x y => x < y
  | "-le" => numbers fun x y => x ≤ y
  | "-gt" => numbers fun x y => x > y
  | "-ge" => numbers fun x y => x ≥ y
  | "-nt" => .ok (isNewer (found? a) (found? b))
  | "-ot" => .ok (isNewer (found? b) (found? a))
  | _ => .ok ((found? a).isSome && (found? a).map Found.number = (found? b).map Found.number)

/-- Whether a node has something in it. -/
def Node.hasContents (node : Node) : Bool :=
  match node.kind with
  | .file text => text ≠ []
  | .directory => true
  | _ => false

/-- The result of an operator before one text. -/
def askSole (dialect : Dialect) (disk : Disk) (operator : String) (a : Bytes) : Verdict :=
  let asks (f : Node → Bool) : Verdict := .ok ((disk.find a).toOption.any fun p => f p.node)
  let isKind (f : Kind → Bool) : Verdict := asks fun node => f node.kind
  match operator with
  | "-n" => .ok (a ≠ [])
  | "-z" => .ok (a = [])
  | "-t" => (numberIn dialect a).map fun _ => false
  | "-f" => isKind fun | .file _ => true | _ => false
  | "-d" => isKind (· = .directory)
  | "-c" => isKind fun | .device _ => true | _ => false
  | "-p" => isKind (· = .queue)
  | "-h" => .ok ((disk.look true a).toOption.any fun p => isLink p.node.kind)
  | "-L" => .ok ((disk.look true a).toOption.any fun p => isLink p.node.kind)
  | "-s" => asks Node.hasContents
  | "-x" => asks fun node => node.kind = .directory || node.isExecutable
  | "-k" => asks fun node => node.mode &&& 512 ≠ 0
  | "-g" => asks fun node => node.mode &&& 1024 ≠ 0
  | "-u" => asks fun node => node.mode &&& 2048 ≠ 0
  | operator =>
    if operator ∈ ["-e", "-r", "-w", "-O", "-G"] then asks fun _ => true else .ok false
where
  /-- Whether a node stands for another path. -/
  isLink : Kind → Bool
    | .link _ => true
    | _ => false

/-! ## Reading as the shell does -/

/-- What a word means where it stands. -/
inductive Role where
  | nothing
  | operand
  | sole (operator : String)
  | pair (operator : String)
  | not
  | both
  | either
  | opens
  | closes
  deriving DecidableEq

/-- The meaning of the first of some words. -/
def roleOf (ws : List Bytes) : Role :=
  match ws with
  | [] => .nothing
  | w :: rest =>
    let isOperand : Bool := match rest with
      | [] => true
      | [_] => false
      | next :: _ => isPairOperator .own next
    let name := String.ofList w
    if isSoleOperator w then if isOperand then .operand else .sole name
    else if isPairOperator .own w then .pair name
    else
      match name with
      | "!" => .not
      | "-a" => .both
      | "-o" => .either
      | "(" => if rest = [] then .operand else .opens
      | ")" => .closes
      | _ => .operand

/-- A message that names the word it is about, if that is not empty. -/
def about (w : Bytes) (words : String) : Bytes :=
  if w = [] then words.toList else w ++ ':' :: ' ' :: words.toList

mutual

/-- Reads conditions of which one has to hold. The last word that belongs to them is left in front
of the rest. -/
def judgeEither (disk : Disk) : Nat → Role → List Bytes → Judged
  | 0, _, _ => .error "too deep".toList
  | fuel + 1, role, ws =>
    (judgeBoth disk fuel role ws).bind fun (a, ws) =>
      if roleOf (ws.drop 1) = .either then
        (judgeEither disk fuel (roleOf (ws.drop 2)) (ws.drop 2)).map fun p => (a || p.1, p.2)
      else .ok (a, ws)

/-- Reads conditions all of which have to hold. -/
def judgeBoth (disk : Disk) : Nat → Role → List Bytes → Judged
  | 0, _, _ => .error "too deep".toList
  | fuel + 1, role, ws =>
    (judgeNot disk fuel role ws).bind fun (a, ws) =>
      if roleOf (ws.drop 1) = .both then
        (judgeBoth disk fuel (roleOf (ws.drop 2)) (ws.drop 2)).map fun p => (a && p.1, p.2)
      else .ok (a, ws)

/-- Reads a condition that may be negated. -/
def judgeNot (disk : Disk) : Nat → Role → List Bytes → Judged
  | 0, _, _ => .error "too deep".toList
  | fuel + 1, role, ws =>
    if role = .not then
      let next := roleOf (ws.drop 1)
      let ws := if next = .nothing then ws else ws.drop 1
      (judgeNot disk fuel next ws).map fun p => (!p.1, p.2)
    else judgeOne disk fuel role ws

/-- Reads one condition. -/
def judgeOne (disk : Disk) : Nat → Role → List Bytes → Judged
  | 0, _, _ => .error "too deep".toList
  | fuel + 1, role, ws =>
    match role with
    | .nothing => .ok (false, ws)
    | .opens =>
      let ws := ws.drop 1
      let next := roleOf ws
      if next = .closes then .ok (false, ws)
      else
        (judgeEither disk fuel next ws).bind fun (a, ws) =>
          let ws := ws.drop 1
          if roleOf ws = .closes then .ok (a, ws) else .error "closing paren expected".toList
    | .sole operator =>
      match ws.drop 1 with
      | [] => .error (about operator.toList "argument expected")
      | a :: rest => (askSole .own disk operator a).map fun r => (r, a :: rest)
    | _ =>
      match roleOf (ws.drop 1) with
      | .pair operator =>
        match ws.drop 2 with
        | [] => .error (about operator.toList "argument expected")
        | b :: rest =>
          (comparePair .own disk operator (ws.headD []) b).map fun r => (r, b :: rest)
      | _ => .ok (ws.headD [] ≠ [], ws)

end

/-- The result of a condition as the shell reads it. -/
def judgeOwn (disk : Disk) : Nat → List Bytes → Verdict
  | 0, _ => .error "too deep".toList
  | fuel + 1, ws =>
    let finish (role : Role) (ws : List Bytes) : Verdict :=
      (judgeEither disk (4 * ws.length + 8) role ws).bind fun (a, rest) =>
        match rest with
        | w :: _ :: _ => .error (about w "unexpected operator")
        | _ => .ok a
    let count := ws.length
    if count = 0 then .ok false
    else if count = 3 && (ws[1]?).any (isPairOperator .own) then finish .operand ws
    else if (count = 3 || count = 4) && ws.head? = some ['('] && ws.getLast? = some [')'] then
      let inside := (ws.drop 1).dropLast
      finish (roleOf inside) inside
    else if (count = 3 || count = 4) && ws.head? = some ['!'] then
      (judgeOwn disk fuel (ws.drop 1)).map (!·)
    else finish (roleOf ws) ws

/-! ## Reading as the program of the system does -/

/-- A message about a word in quotes. -/
def aboutQuoted (w : Bytes) (words : String) : Bytes :=
  '\'' :: w ++ '\'' :: words.toList

/-- Reads an operator with its one text. -/
def judgeSole (disk : Disk) (ws : List Bytes) : Judged :=
  match ws with
  | w :: a :: rest =>
    if isSoleOperator w then (askSole .system disk (String.ofList w) a).map fun r => (r, rest)
    else .error (aboutQuoted w ": unary operator expected")
  | w :: _ => .error ("missing argument after ".toList ++ aboutQuoted w "")
  | [] => .error "missing argument".toList

/-- Reads two texts with the operator between them. -/
def judgePair (disk : Disk) (ws : List Bytes) : Judged :=
  match ws with
  | a :: o :: b :: rest =>
    (comparePair .system disk (String.ofList o) a b).map fun r => (r, rest)
  | _ => .error "missing argument".toList

mutual

/-- Reads as many words as are given, by their number. -/
def judgeCount (disk : Disk) : Nat → Nat → List Bytes → Judged
  | 0, _, _ => .error "too deep".toList
  | fuel + 1, count, ws =>
    let negated (count : Nat) : Judged :=
      (judgeCount disk fuel count (ws.drop 1)).map fun p => (!p.1, p.2)
    let isNot := ws.head? = some ['!']
    let isOpen := ws.head? = some ['(']
    let closesAt (i : Nat) : Bool := ws[i]? = some [')']
    let second := ws[1]?.getD []
    match count with
    | 1 => .ok (ws.headD [] ≠ [], ws.drop 1)
    | 2 =>
      if isNot then negated 1
      else if (ws.headD []).head? = some '-' && (ws.headD []).length = 2 then judgeSole disk ws
      else .error ("missing argument after ".toList ++ aboutQuoted (ws.getLast?.getD []) "")
    | 3 =>
      if isPairOperator .system second then judgePair disk ws
      else if isNot then negated 2
      else if isOpen && closesAt 2 then .ok (second ≠ [], ws.drop 3)
      else if second = ['-', 'a'] || second = ['-', 'o'] then judgeSome disk fuel ws
      else .error (aboutQuoted second ": binary operator expected")
    | 4 =>
      if isNot then negated 3
      else if isOpen && closesAt 3 then
        (judgeCount disk fuel 2 (ws.drop 1)).map fun p => (p.1, p.2.drop 1)
      else judgeSome disk fuel ws
    | _ => judgeSome disk fuel ws

/-- Reads conditions of which one has to hold. -/
def judgeSome (disk : Disk) : Nat → List Bytes → Judged
  | 0, _ => .error "too deep".toList
  | fuel + 1, ws =>
    (judgeAll disk fuel ws).bind fun (a, rest) =>
      match rest with
      | ['-', 'o'] :: rest => (judgeSome disk fuel rest).map fun p => (a || p.1, p.2)
      | _ => .ok (a, rest)

/-- Reads conditions all of which have to hold. -/
def judgeAll (disk : Disk) : Nat → List Bytes → Judged
  | 0, _ => .error "too deep".toList
  | fuel + 1, ws =>
    (judgeTerm disk fuel ws).bind fun (a, rest) =>
      match rest with
      | ['-', 'a'] :: rest => (judgeAll disk fuel rest).map fun p => (a && p.1, p.2)
      | _ => .ok (a, rest)

/-- Reads one condition. -/
def judgeTerm (disk : Disk) : Nat → List Bytes → Judged
  | 0, _ => .error "too deep".toList
  | fuel + 1, ws =>
    match ws with
    | [] => .error "missing argument".toList
    | ['!'] :: rest => (judgeTerm disk fuel rest).map fun p => (!p.1, p.2)
    | ['('] :: rest =>
      let inside := rest.takeWhile (· ≠ [')'])
      let count := if inside.length > 4 || inside.length = rest.length then rest.length
        else inside.length
      (judgeCount disk fuel count rest).bind fun (a, rest) =>
        match rest with
        | [')'] :: rest => .ok (a, rest)
        | w :: _ => .error ("')' expected, found ".toList ++ w)
        | [] => .error "')' expected".toList
    | w :: rest =>
      if (rest.head?).any (isPairOperator .system) && rest.length ≥ 2 then judgePair disk ws
      else if w.head? = some '-' && w.length = 2 then judgeSole disk ws
      else .ok (w ≠ [], rest)

end

/-- The result of a condition as the program of the system reads it. -/
def judgeSystem (disk : Disk) (ws : List Bytes) : Verdict :=
  if ws = [] then .ok false
  else
    (judgeCount disk (4 * ws.length + 8) ws.length ws).bind fun (a, rest) =>
      match rest with
      | [] => .ok a
      | w :: _ => .error ("extra argument ".toList ++ aboutQuoted w "")

/-- The result of a condition. -/
def judge (dialect : Dialect) (disk : Disk) (ws : List Bytes) : Verdict :=
  match dialect with
  | .own => judgeOwn disk (ws.length + 1) ws
  | _ => judgeSystem disk ws

end LinkWatch.Host.Utility
