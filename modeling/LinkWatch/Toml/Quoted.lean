import LinkWatch.Toml.Lexeme

/-!
# Quoted text and keys

A text stands between double quotes, where a backslash begins an escape, or between single quotes,
where it does not; three quotes at either end let it run over lines. A text is written in the first
of these styles that shows it without escapes, and with escapes where none does.

A key is one or more names with points between them; a name is bare or quoted on one line. Space
may stand around the points. Keys of eighty names and more are refused.
-/

namespace LinkWatch.Toml

/-! ## Reading -/

/-- The character of a numbered escape. Halves of surrogate pairs are no characters. -/
def numberedChar? (digits : List Char) : Option Char :=
  if digits.all (isDigitOf 16) then
    let n := numberOf 16 digits
    if n < 0xd800 || (0xe000 ≤ n && n < 0x110000) then some (Char.ofNat n) else none
  else none

/-- The character of an escape by one letter. -/
def letterEscape? (c : Char) : Option Char :=
  match c with
  | 'b' => some '\x08'
  | 't' => some '\t'
  | 'n' => some '\n'
  | 'f' => some '\x0c'
  | 'r' => some '\r'
  | '"' => some '"'
  | '\\' => some '\\'
  | _ => none

/-- Reads the rest of a text between double quotes. -/
def readBasic? : List Char → Option (List Char × List Char)
  | [] => none
  | '"' :: rest => some ([], rest)
  | '\\' :: 'u' :: a :: b :: c :: d :: rest =>
    match numberedChar? [a, b, c, d] with
    | some x => (readBasic? rest).map fun p => (x :: p.1, p.2)
    | none => none
  | '\\' :: 'U' :: a :: b :: c :: d :: e :: f :: g :: h :: rest =>
    match numberedChar? [a, b, c, d, e, f, g, h] with
    | some x => (readBasic? rest).map fun p => (x :: p.1, p.2)
    | none => none
  | '\\' :: e :: rest =>
    match letterEscape? e with
    | some x => (readBasic? rest).map fun p => (x :: p.1, p.2)
    | none => none
  | c :: rest =>
    if isPlain c && c ≠ '\\' then (readBasic? rest).map fun p => (c :: p.1, p.2) else none

/-- Reads the rest of a text between single quotes. -/
def readLiteral? : List Char → Option (List Char × List Char)
  | [] => none
  | '\'' :: rest => some ([], rest)
  | c :: rest => if isPlain c then (readLiteral? rest).map fun p => (c :: p.1, p.2) else none

/-- Reads the quotes after three closing ones: up to two of them belong to the text. -/
def closing? (quote : Char) : List Char → Option (List Char × List Char)
  | a :: b :: c :: rest =>
    if a = quote then
      if b = quote then if c = quote then none else some ([quote, quote], c :: rest)
      else some ([quote], b :: c :: rest)
    else some ([], a :: b :: c :: rest)
  | [a, b] =>
    if a = quote then if b = quote then some ([quote, quote], []) else some ([quote], [b])
    else some ([], [a, b])
  | [a] => if a = quote then some ([quote], []) else some ([], [a])
  | [] => some ([], [])

/-- Whether nothing but space stands before the next line end. -/
def endsLine (cs : List Char) : Bool :=
  (lineEnd? (skipSpace cs)).isSome

/-- Reads the rest of a text between three double quotes. After a backslash at the end of a line,
spaces and line ends are skipped. -/
def readLongBasic? (skipping : Bool) : List Char → Option (List Char × List Char)
  | [] => none
  | '"' :: '"' :: '"' :: rest => closing? '"' rest
  | '\\' :: 'u' :: a :: b :: c :: d :: rest =>
    match numberedChar? [a, b, c, d] with
    | some x => (readLongBasic? false rest).map fun p => (x :: p.1, p.2)
    | none => none
  | '\\' :: 'U' :: a :: b :: c :: d :: e :: f :: g :: h :: rest =>
    match numberedChar? [a, b, c, d, e, f, g, h] with
    | some x => (readLongBasic? false rest).map fun p => (x :: p.1, p.2)
    | none => none
  | '\\' :: e :: rest =>
    match letterEscape? e with
    | some x => (readLongBasic? false rest).map fun p => (x :: p.1, p.2)
    | none => if endsLine (e :: rest) then readLongBasic? true (e :: rest) else none
  | '\r' :: '\n' :: rest =>
    if skipping then readLongBasic? true rest
    else (readLongBasic? false rest).map fun p => ('\n' :: p.1, p.2)
  | c :: rest =>
    if skipping && (isSpace c || c == '\n') then readLongBasic? true rest
    else if c == '\n' || (isPlain c && c ≠ '\\') then
      (readLongBasic? false rest).map fun p => (c :: p.1, p.2)
    else none

/-- Reads the rest of a text between three single quotes. -/
def readLongLiteral? : List Char → Option (List Char × List Char)
  | [] => none
  | '\'' :: '\'' :: '\'' :: rest => closing? '\'' rest
  | '\r' :: '\n' :: rest => (readLongLiteral? rest).map fun p => ('\n' :: p.1, p.2)
  | c :: rest =>
    if c == '\n' || isPlain c then (readLongLiteral? rest).map fun p => (c :: p.1, p.2) else none

/-- The text after a line end at the very beginning, which is no part of a long text. -/
def dropFirstLineEnd (cs : List Char) : List Char :=
  (lineEnd? cs).getD cs

/-- Reads a quoted text of any style. -/
def readText? : List Char → Option (List Char × List Char)
  | '"' :: '"' :: '"' :: rest => readLongBasic? false (dropFirstLineEnd rest)
  | '\'' :: '\'' :: '\'' :: rest => readLongLiteral? (dropFirstLineEnd rest)
  | '"' :: rest => readBasic? rest
  | '\'' :: rest => readLiteral? rest
  | _ => none

/-! ## Writing -/

/-- The styles of a quoted text. -/
inductive Style where
  | basic
  | literal
  | longBasic
  | longLiteral
  deriving DecidableEq, Repr

/-- Whether a character can only be shown by an escape. -/
def needsEscape (c : Char) : Bool :=
  (c.toNat < 0x20 && c ≠ '\t' && c ≠ '\n') || c.toNat == 0x7f

/-- The length of the longest run of a character, when `current` of them have just been passed and
the longest run so far was `longest`. -/
def longestRunFrom (x : Char) (current longest : Nat) : List Char → Nat
  | [] => longest
  | c :: cs =>
    if c = x then longestRunFrom x (current + 1) (max longest (current + 1)) cs
    else longestRunFrom x 0 longest cs

/-- The length of the longest run of a character. -/
def longestRun (x : Char) (cs : List Char) : Nat :=
  longestRunFrom x 0 0 cs

/-- Whether a style shows a text as it is. -/
def Style.shows (style : Style) (cs : List Char) : Bool :=
  !cs.any needsEscape &&
    match style with
    | .basic => !cs.contains '\\' && !cs.contains '"' && !cs.contains '\n'
    | .literal => !cs.contains '\'' && !cs.contains '\n'
    | .longBasic => !cs.contains '\\' && longestRun '"' cs ≤ 2
    | .longLiteral => longestRun '\'' cs ≤ 2

/-- The style in which a text is written. -/
def Style.of (cs : List Char) : Style :=
  match [Style.basic, .literal, .longBasic, .longLiteral].find? (·.shows cs) with
  | some style => style
  | none => if cs.contains '\n' then .longBasic else .basic

/-- A hexadecimal digit in upper case. -/
def upperHexDigit (n : Nat) : Char :=
  (Nat.digitChar (n % 16)).toUpper

/-- The writing of one character between double quotes, apart from the double quote itself. -/
def writeChar (long : Bool) (c : Char) : List Char :=
  if c = '\x08' then ['\\', 'b']
  else if c = '\t' then ['\\', 't']
  else if c = '\n' then if long then ['\n'] else ['\\', 'n']
  else if c = '\x0c' then ['\\', 'f']
  else if c = '\r' then ['\\', 'r']
  else if c = '\\' then ['\\', '\\']
  else if c.toNat < 0x20 || c.toNat == 0x7f then
    ['\\', 'u', '0', '0', upperHexDigit (c.toNat / 16), upperHexDigit c.toNat]
  else [c]

/-- The writing of a text between double quotes. A long text may hold two double quotes in a row as
they are; every further one is escaped, and the count begins anew. -/
def writeBasic (long : Bool) (quotes : Nat) : List Char → List Char
  | [] => []
  | c :: cs =>
    if c = '"' then
      if long && quotes < 2 then '"' :: writeBasic long (quotes + 1) cs
      else '\\' :: '"' :: writeBasic long 0 cs
    else writeChar long c ++ writeBasic long 0 cs

/-- The marks around a text of a style. -/
def Style.marks : Style → List Char
  | .basic => ['"']
  | .literal => ['\'']
  | .longBasic => ['"', '"', '"']
  | .longLiteral => ['\'', '\'', '\'']

/-- What stands between the marks. A long text that runs over lines begins on a line of its own. -/
def Style.body (style : Style) (cs : List Char) : List Char :=
  let first := if cs.contains '\n' then ['\n'] else []
  match style with
  | .basic => writeBasic false 0 cs
  | .literal => cs
  | .longBasic => first ++ writeBasic true 0 cs
  | .longLiteral => first ++ cs

/-- A text in quotes. -/
def quoted (cs : List Char) : List Char :=
  let style := Style.of cs
  style.marks ++ style.body cs ++ style.marks

/-! ## Keys -/

/-- Whether a character may stand in a bare name. -/
def isBare (c : Char) : Bool :=
  c.isAlphanum || c == '-' || c == '_'

/-- Reads one name. -/
def readName? : List Char → Option (String × List Char)
  | '"' :: rest => (readBasic? rest).map fun p => (String.ofList p.1, p.2)
  | '\'' :: rest => (readLiteral? rest).map fun p => (String.ofList p.1, p.2)
  | cs =>
    let name := cs.takeWhile isBare
    if name = [] then none else some (String.ofList name, cs.dropWhile isBare)

/-- Reads names with points between them, and the space around them, with fuel for the names. -/
def readNames? : Nat → List Char → Option (List String × List Char)
  | 0, _ => none
  | fuel + 1, cs =>
    match readName? (skipSpace cs) with
    | none => none
    | some (name, rest) =>
      match skipSpace rest with
      | '.' :: rest => (readNames? fuel rest).map fun p => (name :: p.1, p.2)
      | rest => some ([name], rest)

/-- The least number of names, and of values within each other, that is refused. -/
def depthLimit : Nat := 80

/-- Reads a key: the names before its last one, the last one, and the rest of the text. -/
def readKey? (cs : List Char) : Option ((List String × String) × List Char) :=
  match readNames? (depthLimit - 1) cs with
  | some (names, rest) => names.getLast?.map fun last => ((names.dropLast, last), rest)
  | none => none

end LinkWatch.Toml
