import LinkWatch.Text.Bytes
import LinkWatch.Host.Utility.Digest
import Std.Data.HashMap

/-!
# Packed texts

A packed text consists of characters and of repetitions of what stood a certain distance before,
written with codes in which frequent ones are short. The text of each block is written with a fixed
code, with a code of its own, or as it is.
-/

namespace LinkWatch.Host.Utility

open LinkWatch.Text LinkWatch.Decimal

/-! ## Remainders -/

/-- The remainder of a byte in the reflected division by a polynomial. -/
def reflectedRemainder (byte : Nat) : Nat :=
  (List.range 8).foldl (fun r _ => if r % 2 = 1 then (r / 2) ^^^ 0xedb88320 else r / 2) byte

/-- The remainders of all bytes. -/
def reflectedRemainders : Array Nat :=
  ((List.range 256).map reflectedRemainder).toArray

/-- The check value of a text. -/
def checkValue (text : Bytes) : Nat :=
  let crc := text.foldl (fun crc c =>
    reflectedRemainders.getD ((crc ^^^ c.toNat) % 256) 0 ^^^ (crc / 256)) (twoTo 32 - 1)
  flipped 32 crc

/-! ## Lengths and distances -/

/-- The extra bits of the codes for lengths. -/
def lengthBits : List Nat :=
  [0, 0, 0, 0, 0, 0, 0, 0, 1, 1, 1, 1, 2, 2, 2, 2, 3, 3, 3, 3, 4, 4, 4, 4, 5, 5, 5, 5]

/-- The first values of codes that have so many extra bits each. -/
def firstValues : Nat → List Nat → List Nat
  | _, [] => []
  | value, bits :: rest => value :: firstValues (value + twoTo bits) rest

/-- The codes for lengths with their extra bits; the greatest length has a code of its own. -/
def lengthCodes : Array (Nat × Nat) :=
  ((firstValues 3 lengthBits).zip lengthBits ++ [(258, 0)]).toArray

/-- The codes for distances with their extra bits. -/
def distanceCodes : Array (Nat × Nat) :=
  let bits := [0, 0] ++ (List.range 14).flatMap fun n => [n, n]
  ((firstValues 1 bits).zip bits).toArray

/-- The code for a value: its number, the extra bits, and how many there are. -/
def codeOf (codes : Array (Nat × Nat)) (value : Nat) : Nat × Nat × Nat :=
  let number :=
    ((List.range codes.size).filter fun i => (codes.getD i (0, 0)).1 ≤ value).getLast?.getD 0
  let (base, bits) := codes.getD number (0, 0)
  (number, value - base, bits)

/-! ## Unpacking -/

/-- Bits that are read one after the other. -/
structure BitSource where
  bytes : Array Nat
  position : Nat := 0

/-- Reads so many bits, the lowest one first. -/
def BitSource.take? (s : BitSource) (count : Nat) : Option (Nat × BitSource) :=
  if 8 * s.bytes.size < s.position + count then none
  else
    let bit (i : Nat) : Nat :=
      s.bytes.getD ((s.position + i) / 8) 0 / twoTo ((s.position + i) % 8) % 2
    let n := (List.range count).foldl (fun n i => n + bit i * twoTo i) 0
    some (n, { s with position := s.position + count })

/-- A code: how many words of each length there are, and what the words stand for in order. -/
structure PrefixCode where
  counts : Array Nat
  symbols : Array Nat

/-- The code with words of given lengths. -/
def PrefixCode.ofLengths (lengths : List Nat) : PrefixCode :=
  let ordered := (List.range 15).flatMap fun l =>
    (lengths.mapIdx fun i n => (i, n)).filterMap fun p => if p.2 = l + 1 then some p.1 else none
  ⟨((List.range 16).map fun l => if l = 0 then 0 else lengths.count l).toArray, ordered.toArray⟩

/-- Reads a word of a code, of which so many bits have been read: the code so far, the first word of
this length, and the number of shorter words. -/
def PrefixCode.read? (p : PrefixCode) : Nat → Nat → Nat → Nat → Nat → BitSource →
    Option (Nat × BitSource)
  | 0, _, _, _, _, _ => none
  | fuel + 1, length, code, first, index, s =>
    match s.take? 1 with
    | none => none
    | some (bit, s) =>
      let code := code + bit
      let count := p.counts.getD length 0
      if code < first + count then (p.symbols[index + (code - first)]?).map (·, s)
      else p.read? fuel (length + 1) (2 * code) (2 * (first + count)) (index + count) s

/-- Reads a symbol of a code. -/
def PrefixCode.symbol? (p : PrefixCode) (s : BitSource) : Option (Nat × BitSource) :=
  p.read? 15 1 0 0 0 s

/-- Adds a repetition of what stood some distance before. -/
def repeated (output : Array Char) (distance : Nat) : Nat → Array Char
  | 0 => output
  | n + 1 => repeated (output.push (output.getD (output.size - distance) '\x00')) distance n

/-- Reads a block that is written with codes. -/
def readCoded (literals distances : PrefixCode) : Nat → BitSource → Array Char →
    Option (BitSource × Array Char)
  | 0, _, _ => none
  | fuel + 1, s, output =>
    match literals.symbol? s with
    | none => none
    | some (symbol, s) =>
      if symbol < 256 then readCoded literals distances fuel s (output.push (Char.ofNat symbol))
      else if symbol = 256 then some (s, output)
      else do
        let (base, bits) ← lengthCodes[symbol - 257]?
        let (extra, s) ← s.take? bits
        let (number, s) ← distances.symbol? s
        let (first, more) ← distanceCodes[number]?
        let (rest, s) ← s.take? more
        if output.size < first + rest then none
        else readCoded literals distances fuel s (repeated output (first + rest) (base + extra))

/-- Reads the lengths of words, of which the last ones may be repeated. -/
def readLengths (code : PrefixCode) (count : Nat) : Nat → BitSource → List Nat →
    Option (BitSource × List Nat)
  | 0, _, _ => none
  | fuel + 1, s, done =>
    if count ≤ done.length then some (s, done.reverse)
    else do
      let (symbol, s) ← code.symbol? s
      if symbol < 16 then readLengths code count fuel s (symbol :: done)
      else
        let (bits, least) := if symbol = 16 then (2, 3) else if symbol = 17 then (3, 3) else (7, 11)
        let (extra, s) ← s.take? bits
        let value := if symbol = 16 then done.headD 0 else 0
        readLengths code count fuel s (List.replicate (least + extra) value ++ done)

/-- The order in which the lengths of the code for lengths are written. -/
def lengthOrder : List Nat :=
  [16, 17, 18, 0, 8, 7, 9, 6, 10, 5, 11, 4, 12, 3, 13, 2, 14, 1, 15]

/-- The fixed code for characters and lengths. -/
def fixedLiterals : PrefixCode :=
  .ofLengths (List.replicate 144 8 ++ List.replicate 112 9 ++ List.replicate 24 7
    ++ List.replicate 8 8)

/-- The fixed code for distances. -/
def fixedDistances : PrefixCode :=
  .ofLengths (List.replicate 30 5)

/-- Reads the codes of a block that has its own. -/
def readCodes? (s : BitSource) : Option (PrefixCode × PrefixCode × BitSource) := do
  let (literals, s) ← s.take? 5
  let (distances, s) ← s.take? 5
  let (count, s) ← s.take? 4
  let (lengths, s) ← (List.range (count + 4)).foldlM (fun (p : List Nat × BitSource) _ => do
    let (n, s) ← p.2.take? 3
    return (n :: p.1, s)) ([], s)
  let given := lengthOrder.zip lengths.reverse
  let code := PrefixCode.ofLengths ((List.range 19).map fun i => (given.lookup i).getD 0)
  let total := literals + 257 + distances + 1
  let (s, all) ← readLengths code total (total + 1) s []
  return (.ofLengths (all.take (literals + 257)),
    .ofLengths ((all.drop (literals + 257)).take (distances + 1)), s)

/-- Unpacks blocks up to the last one; what follows starts with the next byte. -/
def unpackBlocks : Nat → BitSource → Array Char → Option (BitSource × Array Char)
  | 0, _, _ => none
  | fuel + 1, s, output => do
    let (isLast, s) ← s.take? 1
    let (kind, s) ← s.take? 2
    let steps := 8 * s.bytes.size + 1
    let (s, output) ←
      match kind with
      | 0 => do
        let s := { s with position := (s.position + 7) / 8 * 8 }
        let (size, s) ← s.take? 16
        let (_, s) ← s.take? 16
        let start := s.position / 8
        if s.bytes.size < start + size then none
        else
          let part := (s.bytes.extract start (start + size)).map Char.ofNat
          some ({ s with position := 8 * (start + size) }, output ++ part)
      | 1 => readCoded fixedLiterals fixedDistances steps s output
      | 2 => do
        let (literals, distances, s) ← readCodes? s
        readCoded literals distances steps s output
      | _ => none
    if isLast = 1 then some (s, output) else unpackBlocks fuel s output

/-! ## Packing -/

/-- A part of a packed text. -/
inductive PackedPart where
  | character (c : Char)
  | repetition (length distance : Nat)

/-- How thoroughly repetitions are looked for. -/
structure Thoroughness where
  /-- Above this length fewer places are tried. -/
  good : Nat
  /-- Above this length the next place is not tried. -/
  patient : Nat
  /-- A repetition of this length is taken at once. -/
  nice : Nat
  places : Nat

/-- The thoroughness of each level from the fourth on. -/
def thoroughnesses : List Thoroughness :=
  [⟨4, 4, 16, 16⟩, ⟨8, 16, 32, 32⟩, ⟨8, 16, 128, 128⟩, ⟨8, 32, 128, 256⟩, ⟨32, 128, 258, 1024⟩,
    ⟨32, 258, 258, 4096⟩]

/-- The state of packing. -/
structure Packer where
  text : Array Char
  /-- The places of each three characters, by the number that they make, the last one first. -/
  places : Std.HashMap Nat (List Nat) := {}
  parts : List PackedPart := []

/-- The number that the three characters at a place make. -/
def Packer.threeAt? (p : Packer) (i : Nat) : Option Nat :=
  match p.text[i]?, p.text[i + 1]?, p.text[i + 2]? with
  | some a, some b, some c => some ((a.toNat * 256 + b.toNat) * 256 + c.toNat)
  | _, _, _ => none

/-- Notes a place, and tells the earlier ones with the same characters. The very first place does
not count. -/
def Packer.note (p : Packer) (i : Nat) : List Nat × Packer :=
  match p.threeAt? i with
  | none => ([], p)
  | some key =>
    let known := (p.places[key]?).getD []
    (known, if i = 0 then p else { p with places := p.places.insert key (i :: known) })

/-- How many characters are the same from two places on. -/
def Packer.commonLength (p : Packer) (i j : Nat) : Nat → Nat
  | 0 => 0
  | fuel + 1 =>
    match p.text[i]?, p.text[j]? with
    | some a, some b => if a = b then 1 + p.commonLength (i + 1) (j + 1) fuel else 0
    | _, _ => 0

/-- The longest repetition at a place that is longer than a given one. -/
def Packer.longest (p : Packer) (nice i : Nat) : Nat → List Nat → Nat × Nat → Nat × Nat
  | 0, _, best => best
  | _, [], best => best
  | fuel + 1, j :: rest, best =>
    if 32506 < i - j then best
    else
      let length := p.commonLength j i 258
      if best.1 < length then
        if nice ≤ length then (length, j) else p.longest nice i fuel rest (length, j)
      else p.longest nice i fuel rest best

/-- Notes so many places. -/
def Packer.noteAll (p : Packer) (start count : Nat) : Packer :=
  (List.range count).foldl (fun p k => (p.note (start + k)).2) p

/-- Packs a text from a place on. A repetition is taken only if there is no longer one at the next
place; `before` is the one at the place before, and the flag tells whether a character waits. -/
def Packer.run (t : Thoroughness) (p : Packer) : Nat → Nat → Nat × Nat → Bool → Packer
  | 0, _, _, _ => p
  | fuel + 1, i, before, waits =>
    let waiting := (p.text[i - 1]?).getD '\x00'
    if p.text.size ≤ i then
      if waits then { p with parts := .character waiting :: p.parts } else p
    else
      let (known, p) := p.note i
      let found : Nat × Nat :=
        if before.1 < t.patient then
          let tries := if t.good ≤ before.1 then t.places / 4 else t.places
          p.longest t.nice i tries known (max before.1 2, 0)
        else (2, 0)
      let found : Nat × Nat := if found.2 = 0 then (2, 0) else found
      let found : Nat × Nat := if found.1 = 3 && 4096 < i - found.2 then (2, 0) else found
      if 3 ≤ before.1 && found.1 ≤ before.1 then
        let p := { p with parts := .repetition before.1 (i - 1 - before.2) :: p.parts }
        let p := p.noteAll (i + 1) (before.1 - 2)
        p.run t fuel (i - 1 + before.1) (2, 0) false
      else if waits then
        { p with parts := .character waiting :: p.parts }.run t fuel (i + 1) found true
      else p.run t fuel (i + 1) found true

/-- The parts of a packed text. -/
def packedParts (t : Thoroughness) (text : Bytes) : List PackedPart :=
  (({ text := text.toArray } : Packer).run t (text.length + 2) 0 (2, 0) false).parts.reverse

/-- The bits of a number, the lowest one first. -/
def lowBits (count n : Nat) : List Bool :=
  (List.range count).map fun i => n / twoTo i % 2 = 1

/-- The word of the fixed code for a character or a length. -/
def fixedWord (symbol : Nat) : List Bool :=
  let word (count n : Nat) : List Bool := (lowBits count n).reverse
  if symbol < 144 then word 8 (0x30 + symbol)
  else if symbol < 256 then word 9 (0x190 + (symbol - 144))
  else if symbol < 280 then word 7 (symbol - 256)
  else word 8 (0xc0 + (symbol - 280))

/-- The bits of a part of a packed text. -/
def PackedPart.bits : PackedPart → List Bool
  | .character c => fixedWord c.toNat
  | .repetition length distance =>
    let (l, lengthExtra, lengthCount) := codeOf lengthCodes length
    let (d, distanceExtra, distanceCount) := codeOf distanceCodes distance
    fixedWord (257 + l) ++ lowBits lengthCount lengthExtra ++ (lowBits 5 d).reverse
      ++ lowBits distanceCount distanceExtra

/-- Bits as bytes, the lowest one first. -/
def bytesOfBits : Nat → List Bool → Bytes
  | 0, _ => []
  | fuel + 1, bits =>
    if bits.isEmpty then []
    else
      let n := ((bits.take 8).mapIdx fun i b => if b then twoTo i else 0).foldl (· + ·) 0
      Char.ofNat n :: bytesOfBits fuel (bits.drop 8)

/-- Packs a text into one block with the fixed code. -/
def packText (level : Nat) (text : Bytes) : Bytes :=
  let t := thoroughnesses.getD (level - 4) ⟨8, 16, 128, 128⟩
  let bits := [true, true, false] ++ (packedParts t text).flatMap PackedPart.bits ++ fixedWord 256
  bytesOfBits (bits.length + 1) bits

/-- A number as so many bytes, the lowest one first. -/
def lowBytes (count n : Nat) : Bytes :=
  (bytesOfNumber count n).reverse

/-! ## Members -/

/-- A packed text with its head: a name and a time may stand there. -/
def packMember (level : Nat) (name : Option Bytes) (time : Nat) (text : Bytes) : Bytes :=
  let flags := if name.isSome then '\x08' else '\x00'
  let effort := if level = 9 then '\x02' else if level = 1 then '\x04' else '\x00'
  ['\x1f', Char.ofNat 139, '\x08', flags] ++ lowBytes 4 time ++ [effort, '\x03']
    ++ (match name with
      | some n => n ++ ['\x00']
      | none => [])
    ++ packText level text ++ lowBytes 4 (checkValue text) ++ lowBytes 4 text.length

/-- What is wrong with a packed text. -/
inductive UnpackFault where
  | notPacked
  | unfinished
  | wrongCheck
  | wrongLength
  | broken
  deriving DecidableEq

/-- The words for what is wrong. -/
def UnpackFault.words : UnpackFault → String
  | .notPacked => "not in gzip format"
  | .unfinished => "unexpected end of file"
  | .wrongCheck => "invalid compressed data--crc error"
  | .wrongLength => "invalid compressed data--length error"
  | .broken => "invalid compressed data--format violated"

/-- The length of the head of a packed text, and the name in it. -/
def headOf (cs : Bytes) : Except UnpackFault (Nat × Option Bytes) :=
  let magic : Bytes := ['\x1f', Char.ofNat 139]
  if cs.length < 2 && cs.isPrefixOf magic then .error .unfinished
  else if cs.take 2 ≠ magic then .error .notPacked
  else if cs.length < 10 then .error .unfinished
  else
    let flags := (cs.getD 3 '\x00').toNat
    let has (bit : Nat) : Bool := flags / bit % 2 = 1
    let skipText (n : Nat) : Nat := n + ((cs.drop n).takeWhile (· ≠ '\x00')).length + 1
    let n := 10
    let n := if has 4 then n + 2 + (cs.getD n '\x00').toNat + 256 * (cs.getD (n + 1) '\x00').toNat
      else n
    let name := if has 8 then some ((cs.drop n).takeWhile (· ≠ '\x00')) else none
    let n := if has 8 then skipText n else n
    let n := if has 16 then skipText n else n
    let n := if has 2 then n + 2 else n
    .ok (n, name)

/-- What packed texts hold, one after the other: the text, what is wrong, and whether something
follows that is no packed text. -/
def unpackAll : Nat → Bool → Bytes → Bytes × Option UnpackFault × Bool
  | 0, _, _ => ([], none, false)
  | fuel + 1, isFirst, cs =>
    if cs = [] && !isFirst then ([], none, false)
    else
      match headOf cs with
      | .error f => if isFirst then ([], some f, false) else ([], none, !cs.all (· = '\x00'))
      | .ok (size, _) =>
        let rest := cs.drop size
        match unpackBlocks (8 * rest.length + 1) ⟨(rest.map Char.toNat).toArray, 0⟩ #[] with
        | none => ([], some .unfinished, false)
        | some (s, output) =>
          let text := output.toList
          let tail := rest.drop ((s.position + 7) / 8)
          if tail.length < 8 then (text, some .unfinished, false)
          else
            let number (part : Bytes) : Nat := numberOf part.reverse
            if number (tail.take 4) ≠ checkValue text then (text, some .wrongCheck, false)
            else if number ((tail.drop 4).take 4) ≠ text.length % twoTo 32 then
              (text, some .wrongLength, false)
            else
              let p := unpackAll fuel false (tail.drop 8)
              (text ++ p.1, p.2)

end LinkWatch.Host.Utility
