import LinkWatch.Decimal.Fixed
import LinkWatch.Text.Bytes

/-!
# Escapes

Characters written with a backslash: single letters, octal numbers, and for some programs
hexadecimal numbers. One escape ends the output.
-/

namespace LinkWatch.Host.Utility

open LinkWatch.Text

/-- Whether a character is an octal digit. -/
def isOctal (c : Char) : Bool :=
  '0' ≤ c && c ≤ '7'

/-- Reads up to so many octal digits as a byte. -/
def readOctal (most : Nat) (cs : Bytes) : Char × Bytes :=
  let digits := (cs.take most).takeWhile isOctal
  (Char.ofNat ((readBased 8 digits).1 % 256), cs.drop digits.length)

/-- The character of an escape of one letter. -/
def simpleEscape? (c : Char) : Option Char :=
  match c with
  | '\\' => some '\\'
  | 'a' => some '\x07'
  | 'b' => some '\x08'
  | 'e' => some '\x1b'
  | 'f' => some '\x0c'
  | 'n' => some '\n'
  | 'r' => some '\r'
  | 't' => some '\t'
  | 'v' => some '\x0b'
  | _ => none

/-- Reads an escape by a hexadecimal number of one or two digits. -/
def readHexadecimal? (cs : Bytes) : Option (Char × Bytes) :=
  let p := readBased 16 (cs.take 2)
  let digits := (cs.take 2).length - p.2.length
  if digits = 0 then none else some (Char.ofNat p.1, cs.drop digits)

/-- Reads an escape of a script that edits lines, after its backslash: a letter, a number in some
base, or a control character. -/
def readScriptEscape? (cs : Bytes) : Option (Char × Bytes) :=
  let numbered (base most : Nat) (rest : Bytes) : Option (Char × Bytes) :=
    let p := readBased base (rest.take most)
    let size := (rest.take most).length - p.2.length
    if size = 0 then none else some (Char.ofNat (p.1 % 256), rest.drop size)
  match cs with
  | 'a' :: rest => some ('\x07', rest)
  | 'f' :: rest => some ('\x0c', rest)
  | 'n' :: rest => some ('\n', rest)
  | 'r' :: rest => some ('\r', rest)
  | 't' :: rest => some ('\t', rest)
  | 'v' :: rest => some ('\x0b', rest)
  | 'c' :: c :: rest =>
    let n := c.toUpper.toNat
    some (Char.ofNat (if n / 64 % 2 = 1 then n - 64 else n + 64), rest)
  | 'd' :: rest => numbered 10 3 rest
  | 'o' :: rest => numbered 8 3 rest
  | 'x' :: rest => numbered 16 2 rest
  | _ => none

/-- Which escapes a program knows. -/
inductive Dialect where
  /-- Those of the shell's own commands. -/
  | own
  /-- Those of the programs of the system, which know hexadecimal numbers. -/
  | system
  /-- Those of the rich language of a shell. -/
  | rich
  deriving DecidableEq, Repr

/-- The digits of a number in upper-case hexadecimal, at least so many. -/
def upperHexadecimal (width n : Nat) : Bytes :=
  Decimal.padLeft width '0' ((Nat.toDigits 16 n).map Char.toUpper)

/-- Reads the escape after a backslash: what it stands for, and the rest. -/
def readEscape (dialect : Dialect) (cs : Bytes) : Bytes × Bytes :=
  match cs with
  | [] => (['\\'], [])
  | c :: rest =>
    if isOctal c then
      let p := readOctal 3 cs
      ([p.1], p.2)
    else
      let unicode (most : Nat) : Bytes × Bytes :=
        let p := readBased 16 (rest.take most)
        let n := p.1
        let rest := rest.drop (most - p.2.length)
        if n < 128 then ([Char.ofNat n], rest)
        else if n < 65536 then ('\\' :: 'u' :: upperHexadecimal 4 n, rest)
        else ('\\' :: 'U' :: upperHexadecimal 8 n, rest)
      match simpleEscape? c, dialect, c with
      | some e, _, _ => ([e], rest)
      | none, .system, '"' => (['"'], rest)
      | none, .system, 'u' => unicode 4
      | none, .system, 'U' => unicode 8
      | none, .system, 'x' =>
        match readHexadecimal? rest with
        | some p => ([p.1], p.2)
        | none => (['\\', 'x'], rest)
      | none, _, _ => (['\\', c], rest)

/-- Resolves the escapes of an argument, in which an octal number may have a zero in front, and says
whether the output ends in it. -/
def resolveEscapes (dialect : Dialect) : Nat → Bytes → Bytes × Bool
  | 0, _ => ([], false)
  | fuel + 1, cs =>
    let next (out : Bytes) (rest : Bytes) : Bytes × Bool :=
      let p := resolveEscapes dialect fuel rest
      (out ++ p.1, p.2)
    match cs with
    | [] => ([], false)
    | '\\' :: 'c' :: _ => ([], true)
    | '\\' :: '0' :: d :: rest =>
      let p := readEscape dialect (if isOctal d then d :: rest else '0' :: d :: rest)
      next p.1 p.2
    | '\\' :: '"' :: rest => next ['\\', '"'] rest
    | '\\' :: 'u' :: rest => next ['\\', 'u'] rest
    | '\\' :: 'U' :: rest => next ['\\', 'U'] rest
    | '\\' :: rest =>
      let p := readEscape dialect rest
      next p.1 p.2
    | c :: rest => next [c] rest

/-- Resolves the escapes of an argument. -/
def escaped (dialect : Dialect) (cs : Bytes) : Bytes × Bool :=
  resolveEscapes dialect (cs.length + 1) cs

/-! ## The rich language -/

/-- Where an escape of the rich language stands. -/
inductive Occasion where
  | template
  | argument
  /-- In a text that is written as it is otherwise. -/
  | message
  deriving DecidableEq, Repr

/-- Reads the escape of the rich language after a backslash: what it stands for, the rest, and what
is reported. A backslash without a meaning stands for itself. -/
def readRichEscape (o : Occasion) (cs : Bytes) : Bytes × Bytes × Option Bytes :=
  let plain (report : Option Bytes) : Bytes × Bytes × Option Bytes := (['\\'], cs, report)
  let unicode (letter : Char) (most : Nat) (rest : Bytes) : Bytes × Bytes × Option Bytes :=
    let p := readBased 16 (rest.take most)
    let after := rest.drop ((rest.take most).length - p.2.length)
    if after.length = rest.length then
      plain (some ("missing unicode digit for \\".toList ++ [letter]))
    else if p.1 < 128 then ([Char.ofNat p.1], after, none)
    else if p.1 < 65536 then ('\\' :: 'u' :: upperHexadecimal 4 p.1, after, none)
    else ('\\' :: 'U' :: upperHexadecimal 8 p.1, after, none)
  match cs with
  | [] => plain none
  | '0' :: rest =>
    let p := readOctal (if o = .template then 2 else 3) rest
    ([p.1], p.2, none)
  | 'x' :: rest =>
    match readHexadecimal? rest with
    | some p => ([p.1], p.2, none)
    | none => plain (some "missing hex digit for \\x".toList)
  | 'u' :: rest => unicode 'u' 4 rest
  | 'U' :: rest => unicode 'U' 8 rest
  | 'E' :: rest => (['\x1b'], rest, none)
  | c :: rest =>
    if isOctal c then
      if o = .message then plain none
      else
        let p := readOctal 3 cs
        ([p.1], p.2, none)
    else if o = .template && ['\'', '"', '?'].contains c then ([c], rest, none)
    else
      match simpleEscape? c with
      | some e => ([e], rest, none)
      | none => plain none

/-- Resolves the escapes of a text in the rich language. It tells whether the output ends in it, and
what is reported. -/
def resolveRich (o : Occasion) : Nat → Bytes → Bytes × Bool × List Bytes
  | 0, _ => ([], false, [])
  | fuel + 1, cs =>
    match cs with
    | [] => ([], false, [])
    | '\\' :: 'c' :: _ => ([], true, [])
    | '\\' :: rest =>
      let (text, rest, report) := readRichEscape o rest
      let (texts, isOver, reports) := resolveRich o fuel rest
      (text ++ texts, isOver, report.toList ++ reports)
    | c :: rest =>
      let (texts, isOver, reports) := resolveRich o fuel rest
      (c :: texts, isOver, reports)

/-- The echo of the shell, which resolves escapes. -/
def echoResolved (arguments : List Bytes) : Bytes :=
  let (silent, words) := match arguments with
    | ['-', 'n'] :: words => (true, words)
    | words => (false, words)
  let (text, stops) := escaped .own (joinWords words)
  if silent || stops then text else line text

/-- An echo that resolves escapes only when told to, in a certain way. -/
def echoWhenTold (resolve : Bytes → Bytes × Bool) (arguments : List Bytes) : Bytes :=
  let isFlag (w : Bytes) : Bool := match w with
    | '-' :: c :: rest => (c :: rest).all fun c => c ∈ ['n', 'e', 'E']
    | _ => false
  let flags := (arguments.takeWhile isFlag).flatMap (·.drop 1)
  let resolves := (flags.filter (· ≠ 'n')).getLast? = some 'e'
  let text := joinWords (arguments.dropWhile isFlag)
  let (text, stops) := if resolves then resolve text else (text, false)
  if 'n' ∈ flags || stops then text else line text

/-- The echo of the system. -/
def echoPlain (arguments : List Bytes) : Bytes :=
  echoWhenTold (escaped .system) arguments

/-- The echo of the rich language. -/
def echoRich (arguments : List Bytes) : Bytes :=
  echoWhenTold (fun text =>
    let (text, isOver, _) := resolveRich .message (text.length + 1) text
    (text, isOver)) arguments

end LinkWatch.Host.Utility
