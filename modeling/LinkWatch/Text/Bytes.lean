import LinkWatch.Text.Split
import LinkWatch.Text.Utf8

/-!
# Bytes as characters

Scripts, arguments and outputs are bytes. Each byte is given as the character of its number, so that
the functions on lists of characters serve for them too.
-/

namespace LinkWatch.Text

/-- Bytes, as characters below 256. -/
abbrev Bytes := List Char

/-- Bytes are looked up by the hash of their numbers. -/
instance hashableBytes : Hashable Bytes where
  hash cs := cs.foldl (fun h c => mixHash h (hash c.toNat)) 7

/-- Bytes as characters. -/
def ofBytes (bs : List UInt8) : Bytes :=
  bs.map fun b => Char.ofNat b.toNat

/-- Characters as bytes. -/
def toBytes (cs : Bytes) : List UInt8 :=
  cs.map fun c => UInt8.ofNat c.toNat

/-- The bytes of a text. -/
def bytesOf (s : String) : Bytes :=
  ofBytes (encodeText s)

/-- The digits of a natural number. -/
def digitsOf (n : Nat) : Bytes :=
  Nat.toDigits 10 n

/-- The digits of a number, with its sign. -/
def numeralOf (n : Int) : Bytes :=
  if n < 0 then '-' :: digitsOf n.natAbs else digitsOf n.natAbs

/-- Blanks within a line. -/
def isBlankChar (c : Char) : Bool :=
  c == ' ' || c == '\t'

/-- Blanks and the characters that end lines and pages. -/
def isSpaceChar (c : Char) : Bool :=
  c == ' ' || (9 ≤ c.toNat && c.toNat ≤ 13)

/-- The text without the blanks at its start. -/
def skipSpaces (cs : Bytes) : Bytes :=
  cs.dropWhile isSpaceChar

/-- The value of a digit in bases up to 36. -/
def digitValue (c : Char) : Nat :=
  if c.isDigit then c.toNat - '0'.toNat
  else if c.isAlpha then c.toLower.toNat - 'a'.toNat + 10
  else 99

/-- The value of digits in a base, up to the first character that is none; and the rest. -/
def readBased (base : Nat) (cs : Bytes) : Nat × Bytes :=
  let digits := cs.takeWhile fun c => digitValue c < base
  (digits.foldl (fun n c => n * base + digitValue c) 0, cs.drop digits.length)

/-- The value of a text that is digits throughout. -/
def natural? (cs : Bytes) : Option Nat :=
  if cs ≠ [] && cs.all Char.isDigit then some (readBased 10 cs).1 else none

/-- The value of a text that is digits with an optional sign, between blanks. -/
def integer? (cs : Bytes) : Option Int :=
  let cs := ((skipSpaces cs).reverse.dropWhile isSpaceChar).reverse
  match cs with
  | '-' :: rest => (natural? rest).map fun n => -(n : Int)
  | '+' :: rest => (natural? rest).map fun n => (n : Int)
  | _ => (natural? cs).map fun n => (n : Int)

/-- Texts with another between them. -/
def joinWith (separator : Bytes) (texts : List Bytes) : Bytes :=
  (List.intersperse separator texts).flatten

/-- Words with blanks between them. -/
def joinWords (words : List Bytes) : Bytes :=
  joinWith [' '] words

/-- A text with a line end. -/
def line (cs : Bytes) : Bytes :=
  cs ++ ['\n']

/-- The lines of a text, each without its end, and whether the last one is ended. -/
def linesOf (cs : Bytes) : List Bytes × Bool :=
  match (pieces '\n' cs).reverse with
  | [] :: ended => (ended.reverse, true)
  | all => (all.reverse, false)

/-- The longest common part of two texts at their starts. -/
def commonStart : Bytes → Bytes → Bytes
  | a :: as, b :: bs => if a = b then a :: commonStart as bs else []
  | _, _ => []

/-- Whether a text stands somewhere in another. -/
def isInfix (part cs : Bytes) : Bool :=
  (cut? part cs).isSome

/-- Characters of a name. -/
def isNameChar (c : Char) : Bool :=
  c.isAlphanum || c == '_'

/-- Characters that a name may start with. -/
def isNameStart (c : Char) : Bool :=
  c.isAlpha || c == '_'

/-- Whether a text is a name. -/
def isName (cs : Bytes) : Bool :=
  cs.head?.any isNameStart && cs.all isNameChar

/-- Whether a text comes before another one. -/
def isBefore (a b : Bytes) : Bool :=
  a.map Char.toNat < b.map Char.toNat

end LinkWatch.Text
