import LinkWatch.Decimal.Fixed
import LinkWatch.Host.Utility.Digest
import LinkWatch.Host.Utility.Excerpt

/-!
# Bytes in other notations

Bytes as letters of an alphabet, each of which stands for some bits, and bytes as columns of
numbers.
-/

namespace LinkWatch.Host.Utility

open LinkWatch.Text LinkWatch.Host.Kernel LinkWatch.Decimal

/-! ## Alphabets -/

/-- An alphabet whose letters stand for so many bits; so many bytes make so many letters. -/
structure Alphabet where
  letters : List Char
  bits : Nat
  bytes : Nat
  width : Nat

/-- The characters from one to another one. -/
def charsBetween (first last : Char) : List Char :=
  (List.range (last.toNat + 1 - first.toNat)).map fun i => Char.ofNat (first.toNat + i)

/-- The alphabet of 64 letters. -/
def alphabet64 : Alphabet :=
  ⟨charsBetween 'A' 'Z' ++ charsBetween 'a' 'z' ++ charsBetween '0' '9' ++ ['+', '/'], 6, 3, 4⟩

/-- The alphabet of 32 letters. -/
def alphabet32 : Alphabet :=
  ⟨charsBetween 'A' 'Z' ++ charsBetween '2' '7', 5, 5, 8⟩

/-- The letters for one group of bytes, with marks for those that are missing. -/
def Alphabet.encodeGroup (a : Alphabet) (bs : Bytes) : Bytes :=
  let n := numberOf (bs ++ List.replicate (a.bytes - bs.length) '\x00')
  let count := (8 * bs.length + a.bits - 1) / a.bits
  let letter (i : Nat) : Char :=
    (a.letters[(n >>> (a.bits * (a.width - 1 - i))) % twoTo a.bits]?).getD '='
  (List.range count).map letter ++ List.replicate (a.width - count) '='

/-- Bytes as letters. -/
def Alphabet.encode (a : Alphabet) (bs : Bytes) : Bytes :=
  (partsOf a.bytes (bs.length + 1) bs).flatMap a.encodeGroup

/-- The bytes of one group of letters, if it is one. Marks may stand at its end only. -/
def Alphabet.decodeGroup? (a : Alphabet) (cs : Bytes) : Option Bytes :=
  let letters := cs.takeWhile (· ≠ '=')
  let marks := cs.drop letters.length
  let values := letters.filterMap a.letters.idxOf?
  let count := letters.length * a.bits / 8
  if cs.length ≠ a.width || !marks.all (· = '=') || values.length ≠ letters.length then none
  else if letters.length ≠ (8 * count + a.bits - 1) / a.bits || count = 0 then none
  else
    let n := (values ++ List.replicate marks.length 0).foldl (fun n v => n * twoTo a.bits + v) 0
    some ((bytesOfNumber a.bytes n).take count)

/-- The bytes at the start of a group that is none. Only where the groups are short is there an
answer to each of them. -/
def Alphabet.decodeStart (a : Alphabet) (cs : Bytes) : Bytes :=
  let values := (cs.takeWhile a.letters.contains).filterMap a.letters.idxOf?
  let missing := a.width - values.length
  let n := (values ++ List.replicate missing 0).foldl (fun n v => n * twoTo a.bits + v) 0
  if a.width ≤ 4 then (bytesOfNumber a.bytes n).take (values.length * a.bits / 8) else []

/-- The bytes of letters as far as they can be read, and whether all of them could be. -/
def Alphabet.decode (a : Alphabet) (cs : Bytes) : Bytes × Bool :=
  let rec go : List Bytes → Bytes × Bool
    | [] => ([], true)
    | g :: gs =>
      match a.decodeGroup? g with
      | some bs => let p := go gs; (bs ++ p.1, p.2)
      | none => (a.decodeStart g, false)
  go (partsOf a.width (cs.length + 1) cs)

/-- A notation of bytes. -/
structure Notation where
  encode : Bytes → Option Bytes
  /-- The bytes as far as they can be read, and whether all of them could be. -/
  decode : Bytes → Bytes × Bool
  /-- The characters that mean something. -/
  letters : Bytes

/-- The notation with the letters of an alphabet. -/
def Alphabet.asNotation (a : Alphabet) : Notation where
  encode bs := some (a.encode bs)
  decode := a.decode
  letters := '=' :: a.letters

/-- A byte with its bits the other way round. -/
def turnedByte (c : Char) : Char :=
  Char.ofNat ((List.range 8).foldl (fun n i => n * 2 + c.toNat / twoTo i % 2) 0)

/-- The notation in binary digits, of which the lowest one of a byte comes first. -/
def lowestFirst : Notation where
  encode bs := some ((Alphabet.mk ['0', '1'] 1 1 8).encode (bs.map turnedByte))
  decode cs := let p := (Alphabet.mk ['0', '1'] 1 1 8).decode cs; (p.1.map turnedByte, p.2)
  letters := ['0', '1']

/-- The letters for the digits of base 85. -/
def letters85 : Bytes :=
  charsBetween '0' '9' ++ charsBetween 'a' 'z' ++ charsBetween 'A' 'Z'
    ++ ".-:+=^!/*?&<>()[]\x7b\x7d@%$#".toList

/-- The notation in base 85, in which four bytes make five letters. -/
def notation85 : Notation where
  encode bs :=
    if bs.length % 4 ≠ 0 then none
    else some ((partsOf 4 (bs.length + 1) bs).flatMap fun g =>
      let n := numberOf g
      (List.range 5).map fun i => (letters85[n / Nat.pow 85 (4 - i) % 85]?).getD '0')
  decode cs :=
    (partsOf 5 (cs.length + 1) cs).foldl (fun (p : Bytes × Bool) g =>
      let values := g.filterMap letters85.idxOf?
      let n := values.foldl (fun n v => n * 85 + v) 0
      if p.2 && values.length = 5 && n < twoTo 32 then (p.1 ++ bytesOfNumber 4 n, true)
      else (p.1, false)) ([], true)
  letters := letters85

/-- Writes the input in a notation, or back, as options ask for it. -/
def convertWith (y : Notation) (c : Call) (o : Options) : Program Nat := do
  match ((o.value? 'w').getD "76".toList) |> natural?, o.operands with
  | none, _ =>
    c.refuse 1 ("invalid wrap size: '".toList ++ (o.value? 'w').getD [] ++ ['\''])
  | _, _ :: extra :: _ => c.misuse 1 ("extra operand '".toList ++ extra ++ ['\''])
  | some width, operands =>
    let file := operands.headD ['-']
    match ← readFile file with
    | .error e => c.refuse 1 (Wording.usual.opening file e)
    | .ok text =>
      if o.has 'd' then
        let kept := text.filter fun b => b ≠ '\n' && (!o.has 'i' || y.letters.contains b)
        let (bytes, isWhole) := y.decode kept
        let status ← c.deliver bytes 0
        if isWhole then return status else c.refuse 1 "invalid input".toList
      else
        match y.encode text with
        | none => c.refuse 1 "invalid input (length must be multiple of 4 characters)".toList
        | some letters =>
          if width = 0 then c.deliver letters 0
          else c.deliver ((partsOf width (letters.length + 1) letters).flatMap line) 0

/-- Writes the input as letters, or back. -/
def convertLetters (a : Alphabet) (c : Call) : Program Nat :=
  let t : OptionTable :=
    { plain := ['d', 'i', 'D'], valued := ['w']
      long := [("decode", 'd'), ("ignore-garbage", 'i'), ("wrap", 'w')] }
  c.withOptions t 1 fun o => convertWith a.asNotation c o

/-- The notations by the options that choose them. -/
def notations : List (Char × Notation) :=
  let letters64 := alphabet64.letters.map fun c => if c = '+' then '-' else if c = '/' then '_'
    else c
  [('A', alphabet64.asNotation),
    ('B', { alphabet64 with letters := letters64 : Alphabet }.asNotation),
    ('C', alphabet32.asNotation),
    ('E', (Alphabet.mk (charsBetween '0' '9' ++ charsBetween 'A' 'V') 5 5 8).asNotation),
    ('F', { (Alphabet.mk (charsBetween '0' '9' ++ charsBetween 'A' 'F') 4 1 2).asNotation with
      letters := charsBetween '0' '9' ++ charsBetween 'A' 'F' }),
    ('G', { (Alphabet.mk ['0', '1'] 1 1 8).asNotation with letters := ['0', '1'] }),
    ('H', lowestFirst), ('I', notation85)]

/-- Writes the input in a chosen notation, or back. -/
def convertChosen (c : Call) : Program Nat :=
  let t : OptionTable :=
    { plain := ['d', 'i', 'D'] ++ notations.map (·.1), valued := ['w']
      long := [("decode", 'd'), ("ignore-garbage", 'i'), ("wrap", 'w'), ("base64", 'A'),
        ("base64url", 'B'), ("base32", 'C'), ("base32hex", 'E'), ("base16", 'F'),
        ("base2msbf", 'G'), ("base2lsbf", 'H'), ("z85", 'I')] }
  c.withOptions t 1 fun o =>
    match (o.flags.filterMap fun f => notations.lookup f.1).getLast? with
    | none => c.misuse 1 "missing encoding type".toList
    | some y => convertWith y c o

/-! ## Columns of numbers -/

/-- How numbers of some bytes are shown. -/
structure Column where
  size : Nat
  /-- Whether the bytes are shown as text after the numbers. -/
  isTwofold : Bool
  /-- The number of characters, without the blank before them. -/
  width : Nat
  shown : Nat → Bytes

/-- A number in a base with zeros before it. -/
def basedText (base width n : Nat) : Bytes :=
  padLeft width '0' (Nat.toDigits base n)

/-- The number of characters of the greatest number of some bytes in a base. -/
def basedWidth (base size : Nat) : Nat :=
  (Nat.toDigits base (twoTo (8 * size) - 1)).length

/-- A byte as a character or an escape. -/
def characterText (n : Nat) : Bytes :=
  match n with
  | 0 => ['\\', '0']
  | 7 => ['\\', 'a']
  | 8 => ['\\', 'b']
  | 9 => ['\\', 't']
  | 10 => ['\\', 'n']
  | 11 => ['\\', 'v']
  | 12 => ['\\', 'f']
  | 13 => ['\\', 'r']
  | n => if 32 ≤ n && n < 127 then [Char.ofNat n] else basedText 8 3 n

/-- The names of characters that cannot be shown. -/
def controlNames : List String :=
  ["nul", "soh", "stx", "etx", "eot", "enq", "ack", "bel", "bs", "ht", "nl", "vt", "ff", "cr", "so",
    "si", "dle", "dc1", "dc2", "dc3", "dc4", "nak", "syn", "etb", "can", "em", "sub", "esc", "fs",
    "gs", "rs", "us", "sp"]

/-- A byte by its name. -/
def nameText (n : Nat) : Bytes :=
  let n := n % 128
  match controlNames[n]? with
  | some name => name.toList
  | none => if n = 127 then "del".toList else [Char.ofNat n]

/-- A number of some bytes with its sign. -/
def signedText (size n : Nat) : Bytes :=
  let modulus := twoTo (8 * size)
  numeralOf (if 2 * n < modulus then (n : Int) else (n : Int) - modulus)

/-- The fraction of a floating-point number with so many bits for its exponent and so many places,
from the bits of its size. -/
def floatingParts (exponentBits places bits : Nat) : Magnitude :=
  let bias := twoTo (exponentBits - 1) - 1
  let exponent := bits / twoTo places
  let fraction := bits % twoTo places
  if exponent = twoTo exponentBits - 1 then if fraction = 0 then .infinite else .notNumber
  else
    let m := if exponent = 0 then fraction else fraction + twoTo places
    let q : Int := (max exponent 1 : Nat) - bias - places
    if 0 ≤ q then .fraction (m * twoTo q.toNat) 1 else .fraction m (twoTo (-q).toNat)

/-- The number of some bytes as a floating-point number, with the number of its binary digits. -/
def floatingNumber (size n : Nat) : Real × Nat :=
  let sign := twoTo (8 * size - 1)
  match size with
  | 4 => (⟨sign ≤ n, floatingParts 8 23 (n % sign)⟩, 24)
  | 8 => (⟨sign ≤ n, floatingParts 11 52 (n % sign)⟩, 53)
  | _ =>
    let bits := n % twoTo 80
    let exponent := bits / twoTo 64 % 32768
    let m := bits % twoTo 64
    let q : Int := (max exponent 1 : Nat) - 16383 - 63
    let size : Magnitude :=
      if exponent = 32767 then if m % twoTo 63 = 0 then .infinite else .notNumber
      else if 0 ≤ q then .fraction (m * twoTo q.toNat) 1
      else .fraction m (twoTo (-q).toNat)
    (⟨twoTo 79 ≤ bits, size⟩, 64)

/-- A fraction rounded to so many binary digits, but not below a power of two. -/
def roundAbove (digits : Nat) (least : Int) (num den : Nat) : Nat × Nat :=
  if num = 0 then (0, 1)
  else
    let q : Int := max (binaryExponent num den - (digits - 1 : Nat)) least
    if 0 ≤ q then (roundDivEven num (den * twoTo q.toNat) * twoTo q.toNat, 1)
    else (roundDivEven (num * twoTo (-q).toNat) den, twoTo (-q).toNat)

/-- The shortest text with at least so many digits that is read as the same number. -/
def shortestText (x : Real) (round : Nat → Nat → Nat × Nat) : Nat → Nat → Bytes
  | 0, digits => (if x.negative then ['-'] else []) ++ x.magnitude.text .shorter false digits
  | fuel + 1, digits =>
    let text := (if x.negative then ['-'] else []) ++ x.magnitude.text .shorter false digits
    match x.magnitude, (readReal text).1.magnitude with
    | .fraction n d, .fraction m e =>
      let p := round m e
      if p.1 * d = n * p.2 then text else shortestText x round fuel (digits + 1)
    | _, _ => text

/-- A floating-point number of some bytes. -/
def floatingText (size n : Nat) : Bytes :=
  let (x, digits) := floatingNumber size n
  let (least, normal, start) : Int × Int × Nat := match size with
    | 4 => (-149, -126, 6)
    | 8 => (-1074, -1022, 15)
    | _ => (-16445, -16382, 18)
  let isSmall : Bool := match x.magnitude with
    | .fraction num den => num ≠ 0 && binaryExponent num den < normal
    | _ => false
  shortestText x (roundAbove digits least) 24 (if isSmall then 1 else start)

/-- The column for a kind of number of some bytes. -/
def columnOf? (kind : Char) (size : Nat) : Option Column :=
  match kind with
  | 'o' => some ⟨size, false, basedWidth 8 size, basedText 8 (basedWidth 8 size)⟩
  | 'x' => some ⟨size, false, 2 * size, basedText 16 (2 * size)⟩
  | 'u' => some ⟨size, false, basedWidth 10 size, digitsOf⟩
  | 'd' => some ⟨size, false, (signedText size (twoTo (8 * size - 1))).length, signedText size⟩
  | 'f' =>
    if size = 1 || size = 2 then none
    else some ⟨size, false, if size = 4 then 15 else if size = 8 then 24 else 29, floatingText size⟩
  | 'c' => some ⟨1, false, 3, characterText⟩
  | 'a' => some ⟨1, false, 3, nameText⟩
  | _ => none

/-- The columns that a description asks for. -/
def columnsOf : Nat → Bytes → Option (List Column)
  | 0, _ => none
  | fuel + 1, cs =>
    match cs with
    | [] => some []
    | kind :: rest =>
      let usual := if kind = 'c' || kind = 'a' then 1 else if kind = 'f' then 8 else 4
      let digits := rest.takeWhile Char.isDigit
      let (size, rest) : Nat × Bytes :=
        if digits ≠ [] then ((readBased 10 digits).1, rest.drop digits.length)
        else
          match kind, rest with
          | 'f', 'F' :: rest => (4, rest)
          | 'f', 'D' :: rest => (8, rest)
          | 'f', 'L' :: rest => (16, rest)
          | 'f', _ => (usual, rest)
          | _, 'C' :: rest => (1, rest)
          | _, 'S' :: rest => (2, rest)
          | _, 'I' :: rest => (4, rest)
          | _, 'L' :: rest => (8, rest)
          | _, _ => (usual, rest)
      let isTwofold := rest.head? = some 'z'
      let rest := if isTwofold then rest.drop 1 else rest
      if size ∈ [1, 2, 4, 8] || (kind = 'f' && size = 16) then
        (columnOf? kind size).bind fun c =>
          (columnsOf fuel rest).map ({ c with isTwofold := isTwofold } :: ·)
      else none

/-- The length of a whole row of so many bytes. -/
def Column.length (c : Column) (width : Nat) : Nat :=
  (c.width + 1) * (width / c.size)

/-- One row of numbers, with so many blanks more than it needs if it is whole. -/
def Column.row (c : Column) (width blanks : Nat) (bs : Bytes) : Bytes :=
  let fields := width / c.size
  ((partsOf c.size (bs.length + 1) bs).mapIdx fun i p =>
    let before := blanks * (fields - i) / fields
    let after := blanks * (fields - i - 1) / fields
    let full := p ++ List.replicate (c.size - p.length) '\x00'
    padLeft (c.width + 1 + (before - after)) ' ' (c.shown (numberOf full.reverse))).flatten

/-- A row of numbers with its bytes as text, if they are wanted. -/
def Column.withText (c : Column) (width longest : Nat) (bs numbers : Bytes) : Bytes :=
  if c.isTwofold then
    let gap := (width - bs.length) / c.size * (c.width + 1)
    let fill := List.replicate (min gap longest) ' '
    numbers ++ fill ++ ' ' :: ' ' :: '>' ::
      bs.map (fun b => if 32 ≤ b.toNat && b.toNat < 127 then b else '.') ++ ['<']
  else numbers

/-- Rows of numbers, of which equal ones are left out after the first. -/
def dumpRows (columns : List Column) (width : Nat) (isWhole : Bool) (address : Nat → Bytes) :
    Nat → Bytes → List Bytes → Bool → List Bytes
  | _, _, [], _ => []
  | offset, before, row :: rows, isMarked =>
    if !isWhole && row = before && row.length = width then
      (if isMarked then [] else [line ['*']])
        ++ dumpRows columns width isWhole address (offset + row.length) row rows true
    else
      let longest := (columns.map fun c => c.length width).foldl max 0
      let start := address offset
      let texts := columns.mapIdx fun i c =>
        line ((if i = 0 then start else List.replicate start.length ' ')
          ++ c.withText width longest row (c.row width (longest - c.length width) row))
      texts ++ dumpRows columns width isWhole address (offset + row.length) row rows false

/-- Texts of at least so many characters that can be shown, each with its offset, that are ended by
a character that means nothing. -/
def shownTexts (least : Nat) : Nat → Nat → Bytes → List (Nat × Bytes)
  | 0, _, _ => []
  | fuel + 1, offset, cs =>
    match cs with
    | [] => []
    | _ =>
      let run := cs.takeWhile fun c => 32 ≤ c.toNat && c.toNat < 127
      match cs.drop run.length with
      | c :: rest =>
        let more := shownTexts least fuel (offset + run.length + 1) rest
        if least ≤ run.length && c = '\x00' then (offset, run) :: more else more
      | [] => []

/-- Reads descriptors to their ends one after the other, or so many bytes at most. -/
def readSome (c : Call) : Nat → Option Nat → List Bytes → Program (Bytes × Bool)
  | 0, _, _ => return ([], true)
  | _, _, [] => return ([], true)
  | fuel + 1, most, file :: files => do
    if most = some 0 then return ([], true)
    let isInput := file = ['-']
    let opened ←
      if isInput then pure (.ok ()) else request (.open fileDescriptor file .read false)
    match opened with
    | .error e =>
      c.complain (Wording.usual.opening file e)
      let (text, _) ← readSome c fuel most files
      return (text, false)
    | .ok _ =>
      let descriptor := if isInput then 0 else fileDescriptor
      let rec go : Nat → Nat → List Bytes → Program (List Bytes × Option OsError)
        | 0, _, done => return (done, none)
        | steps + 1, count, done => do
          let wanted := match most with
            | some n => min pieceSize (n - count)
            | none => pieceSize
          if wanted = 0 then return (done, none)
          match ← request (.read descriptor wanted) with
          | .ok [] => return (done, none)
          | .ok piece => go steps (count + piece.length) (piece :: done)
          | .error e => return (done, some e)
      let (done, fault) ← go streamFuel 0 []
      if !isInput then request (.close fileDescriptor)
      match fault with
      | some e => c.complain (Wording.usual.reading file e)
      | none => pure ()
      let text := done.reverse.flatten
      let (more, isFine) ← readSome c fuel (most.map (· - text.length)) files
      return (text ++ more, isFine && fault.isNone)

/-- The kinds of columns for options of one letter. -/
def shortFormats : List (Char × String) :=
  [('a', "a"), ('b', "o1"), ('c', "c"), ('d', "u2"), ('D', "u4"), ('e', "fD"), ('f', "fF"),
    ('F', "fD"), ('h', "x2"), ('H', "x4"), ('X', "x4"), ('i', "dI"), ('I', "dL"), ('l', "dL"),
    ('L', "dL"), ('o', "o2"), ('B', "o2"), ('O', "o4"), ('s', "d2"), ('x', "x2"), ('t', "")]

/-- Shows the input as rows of numbers. -/
def dump (c : Call) : Program Nat :=
  let t : OptionTable :=
    { plain := "abBcdDefFhHiIlLoOsxXv".toList, valued := ['A', 't', 'j', 'N', 'S'],
      optional := ['w', 'Z']
      long := [("address-radix", 'A'), ("format", 't'), ("skip-bytes", 'j'), ("read-bytes", 'N'),
        ("output-duplicates", 'v'), ("width", 'w'), ("strings", 'Z')] }
  c.withOptions t 1 fun o => do
    let formats := o.flags.filterMap fun f => (shortFormats.lookup f.1).map fun s => s.toList ++ f.2
    let formats := if formats = [] then ["o2".toList] else formats
    let radix := ((o.value? 'A').bind List.head?).getD 'o'
    let address (n : Nat) : Bytes :=
      match radix with
      | 'd' => basedText 10 7 n
      | 'x' => basedText 16 6 n
      | 'n' => []
      | _ => basedText 8 7 n
    let count (flag : Char) : Option (Option Nat) := match o.value? flag with
      | none => some none
      | some v =>
        match stripPrefix? ['0', 'x'] v with
        | some digits =>
          if (readBased 16 digits).2 = [] then some (some (readBased 16 digits).1) else none
        | none => (sizeOf? v).map some
    if !(radix ∈ ['d', 'o', 'x', 'n']) then
      return ← c.refuse 1 ("invalid output address radix '".toList ++ [radix] ++
        "'; it must be one character from [doxn]".toList)
    match count 'j', count 'N' with
    | none, _ => c.refuse 1 ("invalid -j argument '".toList ++ (o.value? 'j').getD [] ++ ['\''])
    | _, none => c.refuse 1 ("invalid -N argument '".toList ++ (o.value? 'N').getD [] ++ ['\''])
    | some skip, some most =>
      match (formats.mapM fun f => columnsOf (f.length + 1) f).map List.flatten with
      | none => c.refuse 1 ("invalid type string '".toList ++ formats.flatten ++ ['\''])
      | some columns =>
        let skipped := skip.getD 0
        let files := if o.operands = [] then [['-']] else o.operands
        let (text, isFine) ← readSome c (files.length + 1) (most.map (· + skipped)) files
        if text.length < skipped then
          return ← c.refuse 1 "cannot skip past end of combined input".toList
        let text := text.drop skipped
        let status := if isFine then 0 else 1
        if o.has 'S' || o.has 'Z' then
          let least := (((o.value? 'S').orElse fun _ => o.value? 'Z').bind natural?).getD 3
          let found := shownTexts least (text.length + 1) skipped text
          c.deliver (found.flatMap fun p =>
            line ((if radix = 'n' then [] else address p.1 ++ [' ']) ++ p.2)) status
        else
          let wide := match o.value? 'w' with
            | some [] => 32
            | some v => (natural? v).getD 16
            | none => 16
          let unit := (columns.map Column.size).foldl Nat.lcm 1
          let width := if wide = 0 || wide % unit ≠ 0 then unit else wide
          let width := if o.has 'w' then width else if 16 % unit = 0 then 16 else unit
          let rows := dumpRows columns width (o.has 'v') address skipped []
            (partsOf width (text.length + 1) text) false
          let ending := address (skipped + text.length)
          c.deliver (rows.flatten ++ (if ending = [] then [] else line ending)) status

end LinkWatch.Host.Utility
