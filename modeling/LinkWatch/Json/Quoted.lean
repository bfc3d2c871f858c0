/-!
# Strings in JSON

A string is kept as it is written between its quotes. Unescaping gives its text, if every escape
for half a surrogate pair has its other half; escaping gives the shortest usual writing of a text.
-/

namespace LinkWatch.Json

/-- The value of a hexadecimal digit. -/
def hexValue? (c : Char) : Option Nat :=
  if c.isDigit then some (c.toNat - '0'.toNat)
  else if 'a' ≤ c && c ≤ 'f' then some (c.toNat - 'a'.toNat + 10)
  else if 'A' ≤ c && c ≤ 'F' then some (c.toNat - 'A'.toNat + 10)
  else none

/-- The value of four hexadecimal digits. -/
def hexUnit? (a b c d : Char) : Option Nat := do
  let a ← hexValue? a
  let b ← hexValue? b
  let c ← hexValue? c
  let d ← hexValue? d
  return ((a * 16 + b) * 16 + c) * 16 + d

/-- The character of an escape of two characters, by the second one. -/
def shortEscape? (c : Char) : Option Char :=
  match c with
  | '"' => some '"'
  | '\\' => some '\\'
  | '/' => some '/'
  | 'b' => some '\x08'
  | 'f' => some '\x0c'
  | 'n' => some '\n'
  | 'r' => some '\r'
  | 't' => some '\t'
  | _ => none

/-- Reads a string up to its closing quote, from behind the opening one. Escapes are checked for
their form only, and control characters are refused. -/
def readBody? : List Char → Option (List Char × List Char)
  | [] => none
  | '"' :: rest => some ([], rest)
  | '\\' :: 'u' :: a :: b :: c :: d :: rest =>
    if (hexUnit? a b c d).isSome then
      (readBody? rest).map fun p => ('\\' :: 'u' :: a :: b :: c :: d :: p.1, p.2)
    else none
  | '\\' :: e :: rest =>
    if (shortEscape? e).isSome then (readBody? rest).map fun p => ('\\' :: e :: p.1, p.2)
    else none
  | c :: rest =>
    if c == '\\' || c.toNat < 0x20 then none
    else (readBody? rest).map fun p => (c :: p.1, p.2)

/-- The character of one or two escaped units, and whether the second was needed. -/
def pairChar? (high low : Nat) : Option Char :=
  if 0xd800 ≤ high && high < 0xdc00 && 0xdc00 ≤ low && low < 0xe000 then
    some (Char.ofNat (0x10000 + (high - 0xd800) * 0x400 + (low - 0xdc00)))
  else none

/-- Whether a unit is half of a surrogate pair. -/
def isSurrogate (unit : Nat) : Bool :=
  0xd800 ≤ unit && unit < 0xe000

/-- The text of a string. -/
def unescape? : List Char → Option (List Char)
  | [] => some []
  | '\\' :: 'u' :: a :: b :: c :: d :: rest => do
    let unit ← hexUnit? a b c d
    if isSurrogate unit then
      match rest with
      | '\\' :: 'u' :: e :: f :: g :: h :: rest => do
        let low ← hexUnit? e f g h
        let char ← pairChar? unit low
        let more ← unescape? rest
        return char :: more
      | _ => none
    else
      let more ← unescape? rest
      return Char.ofNat unit :: more
  | '\\' :: e :: rest => do
    let char ← shortEscape? e
    let more ← unescape? rest
    return char :: more
  | c :: rest => if c == '\\' then none else (unescape? rest).map (c :: ·)

/-- A hexadecimal digit in lower case. -/
def hexDigit (n : Nat) : Char :=
  Nat.digitChar (n % 16)

/-- The writing of one character: quotes, backslashes and control characters are escaped. -/
def escapeChar (c : Char) : List Char :=
  if c = '"' then ['\\', '"']
  else if c = '\\' then ['\\', '\\']
  else if c = '\x08' then ['\\', 'b']
  else if c = '\x0c' then ['\\', 'f']
  else if c = '\n' then ['\\', 'n']
  else if c = '\r' then ['\\', 'r']
  else if c = '\t' then ['\\', 't']
  else if c.toNat < 0x20 then
    ['\\', 'u', '0', '0', hexDigit (c.toNat / 16), hexDigit c.toNat]
  else [c]

/-- The writing of a text, without the quotes around it. -/
def escape (cs : List Char) : List Char :=
  cs.flatMap escapeChar

end LinkWatch.Json
