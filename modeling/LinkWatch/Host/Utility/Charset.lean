import LinkWatch.Text.Utf8
import LinkWatch.Host.Utility.CharsetTable
import LinkWatch.Host.Utility.Digest
import LinkWatch.Host.Utility.Numeral

/-!
# Characters as bytes

A character set says how the codes of characters are written as bytes. A text goes from one set to
another character by character; what the second set lacks is refused, left out, or replaced by a
text that stands for it.
-/

namespace LinkWatch.Host.Utility

open LinkWatch.Text LinkWatch.Host.Kernel LinkWatch.Decimal

/-- How the codes of characters are written. -/
inductive Charset where
  /-- One byte each, of which the last ones mean these characters. -/
  | single (last : List Char)
  /-- One to four bytes each. -/
  | utf8
  /-- Words of so many bytes, the highest byte first or last. The order may be marked at the start,
  and pairs of words may stand for high codes. -/
  | words (size : Nat) (isBig isMarked hasPairs : Bool)
  deriving DecidableEq, Repr

/-- What stands at the start of bytes. -/
inductive Spelled where
  /-- A character with its code, in so many bytes. -/
  | code (code length : Nat)
  /-- So many bytes that mean nothing. -/
  | nothing (length : Nat)
  /-- The beginning of a character that does not end. -/
  | beginning

/-- Sets that are not tables, with their names. -/
def charsetNames : List (List String × Charset) :=
  [(["", "ANSI_X3.4-1968", "ANSI_X3.4-1986", "ANSI_X3.4", "ASCII", "US-ASCII", "US", "ISO646-US",
      "ISO_646.IRV:1991", "ISO-IR-6", "646", "CP367"], .single []),
    (["ISO-8859-1", "ISO8859-1", "ISO88591", "ISO_8859-1", "ISO_8859-1:1987", "ISO-IR-100",
      "LATIN1", "L1", "8859_1", "CP819"],
      .single ((List.range 128).map fun i => Char.ofNat (128 + i))),
    (["UTF-8", "UTF8", "ISO-10646/UTF8", "ISO-10646/UTF-8", "ISO-IR-193"], .utf8),
    (["UTF-16", "UTF16"], .words 2 false true true),
    (["UTF-16LE", "UTF16LE"], .words 2 false false true),
    (["UTF-16BE", "UTF16BE"], .words 2 true false true),
    (["UNICODE"], .words 2 false true false),
    (["UCS-2", "UCS2", "UCS-2LE", "UCS2LE", "UNICODELITTLE", "ISO-10646/UCS2"],
      .words 2 false false false),
    (["UCS-2BE", "UCS2BE", "UNICODEBIG"], .words 2 true false false),
    (["UTF-32", "UTF32"], .words 4 false true false),
    (["UTF-32LE", "UTF32LE", "UCS-4LE", "UCS4LE", "WCHAR_T", "INTERNAL"],
      .words 4 false false false),
    (["UTF-32BE", "UTF32BE", "UCS-4", "UCS4", "UCS-4BE", "UCS4BE", "ISO-10646", "10646-1:1993",
      "ISO-10646/UCS4"], .words 4 true false false)]

/-- The character set of a name. -/
def Charset.ofName? (name : Bytes) : Option Charset :=
  let upper := String.ofList (name.map Char.toUpper)
  match charsetNames.find? fun s => s.1.contains upper with
  | some s => some s.2
  | none => (bytePages.find? fun s => s.1.contains upper).map fun s =>
      let page := s.2.toList
      .single ((List.range (128 - page.length)).map (fun i => Char.ofNat (128 + i)) ++ page)

/-- Whether a code is one half of a pair of words. -/
def isHalf (code : Nat) : Bool :=
  0xd800 ≤ code && code < 0xe000

/-! ## Reading -/

/-- How many bytes a character has that begins with a byte. -/
def lengthFrom (lead : Nat) : Nat :=
  if lead < 0x80 then 1 else if lead < 0xc2 then 0 else if lead < 0xe0 then 2
  else if lead < 0xf0 then 3 else if lead < 0xf8 then 4 else 0

/-- Reads one character of one to four bytes. -/
def spelledByMany (cs : Bytes) : Spelled :=
  let values := cs.take 4 |>.map Char.toNat
  let lead := values.headD 0
  let length := lengthFrom lead
  let tail := (values.drop 1).take (length - 1)
  let good := (tail.takeWhile fun b => 0x80 ≤ b && b < 0xc0).length
  if length = 0 then .nothing 1
  else if length = 1 then .code lead 1
  else if good + 1 < length then
    if good + 1 = cs.length then .beginning else .nothing (good + 1)
  else
    let bits := if length = 2 then lead % 32 else if length = 3 then lead % 16 else lead % 8
    let code := tail.foldl (fun n b => n * 64 + b % 64) bits
    let least := if length = 2 then 0x80 else if length = 3 then 0x800 else 0x10000
    if code < least || isHalf code then .nothing length else .code code length

/-- The value of a word. -/
def wordValue (isBig : Bool) (cs : Bytes) : Nat :=
  numberOf (if isBig then cs else cs.reverse)

/-- Reads one character of a text that is not empty. -/
def Charset.spelled (s : Charset) (cs : Bytes) : Spelled :=
  match s with
  | .single last =>
    let b := (cs.headD '\x00').toNat
    if b < 128 then .code b 1
    else
      match last[b - 128]? with
      | some c => if c = '\ufffd' then .nothing 1 else .code c.toNat 1
      | none => .nothing 1
  | .utf8 => spelledByMany cs
  | .words size isBig _ hasPairs =>
    let word (i : Nat) : Bytes := (cs.drop (i * size)).take size
    if (word 0).length < size then .beginning
    else
      let code := wordValue isBig (word 0)
      if !isHalf code then (if 0x7fffffff < code then .nothing size else .code code size)
      else if !hasPairs || 0xdc00 ≤ code then .nothing size
      else if (word 1).length < size then .beginning
      else
        let second := wordValue isBig (word 1)
        if 0xdc00 ≤ second && second < 0xe000 then
          .code (0x10000 + (code - 0xd800) * 0x400 + (second - 0xdc00)) (2 * size)
        else .nothing size

/-- The set in which a text is written, and the length of the mark at its start. -/
def Charset.marked (s : Charset) (cs : Bytes) : Charset × Nat :=
  match s with
  | .words size isBig true hasPairs =>
    let first := cs.take size
    if first.length < size then (s, 0)
    else if wordValue false first = 0xfeff then (.words size false false hasPairs, size)
    else if wordValue true first = 0xfeff then (.words size true false hasPairs, size)
    else (.words size isBig false hasPairs, 0)
  | _ => (s, 0)

/-! ## Writing -/

/-- A number as a word. -/
def wordOf (size : Nat) (isBig : Bool) (n : Nat) : Bytes :=
  let bytes := bytesOfNumber size n
  if isBig then bytes else bytes.reverse

/-- What marks the order of the bytes at the start of a text. -/
def Charset.mark : Charset → Bytes
  | .words size isBig true _ => wordOf size isBig 0xfeff
  | _ => []

/-- The bytes of a character, if the set has it. -/
def Charset.spell? (s : Charset) (code : Nat) : Option Bytes :=
  if isHalf code then none
  else
    match s with
    | .single last =>
      if code < 128 then some [Char.ofNat code]
      else if code = 0xfffd then none
      else (last.idxOf? (Char.ofNat code)).map fun i => [Char.ofNat (128 + i)]
    | .utf8 => if code < 0x110000 then some (ofBytes (encode [Char.ofNat code])) else none
    | .words size isBig _ hasPairs =>
      if size = 4 || code < 0x10000 then some (wordOf size isBig code)
      else if hasPairs && code < 0x110000 then
        let rest := code - 0x10000
        some (wordOf size isBig (0xd800 + rest / 0x400)
          ++ wordOf size isBig (0xdc00 + rest % 0x400))
      else none

/-- What is done with what cannot be written, or means nothing. -/
structure Leniency where
  /-- Whether a text may stand for a character. -/
  isReplacing : Bool
  /-- Whether it is left out. -/
  isSkipping : Bool

/-- The bytes of a character, or of a text that stands for it. -/
def Charset.spellFreely? (s : Charset) (l : Leniency) (code : Nat) : Option Bytes :=
  match s.spell? code with
  | some text => some text
  | none =>
    if !l.isReplacing then none
    else
      let text := ((substitutions.lookup code).getD "?").toList
      some (text.flatMap fun c => (s.spell? c.toNat).getD [])

/-! ## Conversion -/

/-- Why a conversion ends before the text does. -/
inductive Obstacle where
  | illegal (position : Nat)
  | incomplete
  deriving DecidableEq, Repr

/-- The words for an obstacle. -/
def Obstacle.words : Obstacle → Bytes
  | .illegal position => "illegal input sequence at position ".toList ++ digitsOf position
  | .incomplete => "incomplete character or shift sequence at end of buffer".toList

/-- A text in another set: the pieces, the last one first, why it ends early, and whether something
was left out. -/
def convertFrom (source target : Charset) (l : Leniency) :
    Nat → Nat → Bytes → List Bytes → Bool → List Bytes × Option Obstacle × Bool
  | 0, _, _, out, skips => (out, none, skips)
  | _ + 1, _, [], out, skips => (out, none, skips)
  | fuel + 1, position, cs, out, skips =>
    let skip (length : Nat) : List Bytes × Option Obstacle × Bool :=
      if l.isSkipping then
        convertFrom source target l fuel (position + length) (cs.drop length) out true
      else (out, some (.illegal position), skips)
    match source.spelled cs with
    | .beginning => (out, some .incomplete, skips)
    | .nothing length => skip length
    | .code code length =>
      match target.spellFreely? l code with
      | some text =>
        convertFrom source target l fuel (position + length) (cs.drop length) (text :: out) skips
      | none => skip length

/-- A text in another set, why it ends early, and whether something was left out. -/
def convert (source target : Charset) (l : Leniency) (cs : Bytes) :
    Bytes × Option Obstacle × Bool :=
  if cs = [] then ([], none, false)
  else
    let (source, start) := source.marked cs
    let (out, obstacle, skips) :=
      convertFrom source target l (cs.length + 1) start (cs.drop start) [] false
    let text := out.reverse.flatten
    (if out = [] && obstacle.isSome then [] else target.mark ++ text, obstacle, skips)

/-- The name of a set, and what may follow it. -/
def splitCharset (name : Bytes) : Bytes × List Bytes :=
  match cut? ['/', '/'] name with
  | some (name, rest) => (name, (pieces '/' (rest.map Char.toUpper)).filter (· ≠ []))
  | none => ((name.reverse.dropWhile (· = '/')).reverse, [])

/-- Tells where help is to be found. -/
def adviseUsage (c : Call) (status : Nat) : Program Nat := do
  let _ ← request (.write 2
    (line ("Try \x60".toList ++ c.name ++ " --help' or \x60".toList ++ c.name
    ++ " --usage' for more information.".toList)))
  return status

/-- Writes files in another character set. -/
def convertCharacters (c : Call) : Program Nat :=
  let t : OptionTable :=
    { plain := ['c', 's', 'l', 'v'], valued := ['f', 't', 'o']
      long := [("from-code", 'f'), ("to-code", 't'), ("output", 'o'), ("silent", 's'),
        ("list", 'l'), ("verbose", 'v')] }
  match t.read (c.arguments.length + 1) c.arguments with
  | .error words => do
    c.complain words
    adviseUsage c 64
  | .ok o => do
    if o.has helpFlag then c.deliver (usageLine c.name) 0
    else if o.has versionFlag then c.deliver (versionLine c.name) 0
    else if o.has 'l' then
      c.deliver ((charsetNames.flatMap (·.1) ++ bytePages.flatMap (·.1)).filter (· ≠ "")
        |>.flatMap fun name => line (name.toList ++ ['/', '/'])) 0
    else
      let (sourceName, _) := splitCharset ((o.value? 'f').getD [])
      let (targetName, manners) := splitCharset ((o.value? 't').getD [])
      let source := (o.value? 'f').getD []
      let target := (o.value? 't').getD []
      let named (start name : Bytes) : Bytes := start ++ " \x60".toList ++ name ++ ['\'']
      let unknown (words : Bytes) : Program Nat := do
        c.complain (words ++ (if words.take 11 = "conversions".toList then " are" else " is").toList
          ++ " not supported".toList)
        adviseUsage c 1
      match Charset.ofName? sourceName, Charset.ofName? targetName with
      | none, none =>
        unknown (named "conversions from".toList source ++ named " and to".toList target)
      | none, some _ => unknown (named "conversion from".toList source)
      | some _, none => unknown (named "conversion to".toList target)
      | some a, some b =>
        let ignores := manners.contains "IGNORE".toList
        let l : Leniency := ⟨manners.contains "TRANSLIT".toList, o.has 'c' || ignores⟩
        let output := (o.value? 'o').filter (· ≠ ['-'])
        let deliver (text : Bytes) (status : Nat) : Program Nat :=
          match output with
          | none => c.deliver text status
          | some path => do
            match ← request (.open fileDescriptor path .write false) with
            | .error _ => c.refuse 1 "unable to open output file".toList
            | .ok _ =>
              match ← writeTo fileDescriptor text with
              | .error _ =>
                c.refuse 1 "conversion stopped due to problem in writing the output".toList
              | .ok _ => return status
        let rec go : List Bytes → List Bytes → Nat → Program (List Bytes × Option Bytes × Nat)
          | [], out, status => return (out, none, status)
          | file :: files, out, status => do
            match ← readFile file with
            | .error .isDirectory =>
              return (out, some "error while reading the input: Is a directory".toList, 1)
            | .error e =>
              c.complain ("cannot open input file \x60".toList ++ file ++ "': ".toList ++ wordsOf e)
              go files out 1
            | .ok text =>
              let (converted, obstacle, skips) := convert a b l text
              let out := converted :: out
              match obstacle with
              | some obstacle => return (out, some obstacle.words, 1)
              | none =>
                if skips && ignores && !o.has 'c' then
                  return (out, some (Obstacle.illegal text.length).words, 1)
                else go files out status
        let (out, trouble, status) ← go (if o.operands = [] then [['-']] else o.operands) [] 0
        let status ← deliver out.reverse.flatten status
        match trouble with
        | some words => c.refuse 1 words
        | none => return status

end LinkWatch.Host.Utility
