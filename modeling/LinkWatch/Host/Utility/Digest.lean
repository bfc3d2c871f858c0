import LinkWatch.Decimal.Nearest
import LinkWatch.Host.Utility.Stream

/-!
# Checksums and digests

Short values that are computed from all that an input holds. A digest works on blocks of words: the
input is padded to whole blocks, and each block changes the state.
-/

namespace LinkWatch.Host.Utility

open LinkWatch.Text LinkWatch.Host.Kernel LinkWatch.Decimal

/-! ## Words -/

/-- A word turned to the left by some bits. -/
def turnLeft (bits n x : Nat) : Nat :=
  ((x <<< n) ||| (x >>> (bits - n))) % twoTo bits

/-- A word turned to the right by some bits. -/
def turnRight (bits n x : Nat) : Nat :=
  turnLeft bits (bits - n) x

/-- A word with all bits changed. -/
def flipped (bits x : Nat) : Nat :=
  twoTo bits - 1 - x

/-- Bytes as a number, the highest one first. -/
def numberOf (bs : Bytes) : Nat :=
  bs.foldl (fun n b => n * 256 + b.toNat) 0

/-- The bytes of a number, the highest one first. -/
def bytesOfNumber : Nat → Nat → Bytes
  | 0, _ => []
  | size + 1, n => bytesOfNumber size (n / 256) ++ [Char.ofNat (n % 256)]

/-- Parts of a given size. -/
def partsOf {α : Type} (size : Nat) : Nat → List α → List (List α)
  | 0, _ => []
  | fuel + 1, xs => if xs.isEmpty then [] else xs.take size :: partsOf size fuel (xs.drop size)

/-- Digits for a word in hexadecimal notation. -/
def hexadecimal (digits n : Nat) : Bytes :=
  let ds := Nat.toDigits 16 n
  List.replicate (digits - ds.length) '0' ++ ds

/-- An input with a mark and its length in bits after it, in whole blocks. -/
def padded (blockSize lengthSize : Nat) (lengthOf : Nat → Bytes) (input : Bytes) : Bytes :=
  let used := (input.length + 1 + lengthSize) % blockSize
  input ++ Char.ofNat 128 :: List.replicate ((blockSize - used) % blockSize) '\x00'
    ++ lengthOf (8 * input.length)

/-- The blocks of a padded input, as arrays of words. -/
def blocksOf (blockSize wordSize : Nat) (wordOf : Bytes → Nat) (input : Bytes) :
    List (Array Nat) :=
  (partsOf blockSize (input.length + 1) input).map fun b =>
    ((partsOf wordSize blockSize b).map wordOf).toArray

/-! ## Constants -/

/-- The greatest number whose power is at most a given number, among those of so many bits. -/
def rootOf (power n : Nat) : Nat → Nat → Nat
  | 0, r => r
  | bit + 1, r =>
    let s := r + twoTo bit
    rootOf power n bit (if Nat.pow s power ≤ n then s else r)

/-- The first prime numbers. -/
def firstPrimes (count : Nat) : List Nat :=
  ((List.range 420).filter fun n => 2 ≤ n && (List.range n).all fun d => d < 2 || n % d ≠ 0).take
    count

/-- The first bits of the fractional part of a root of a number. -/
def rootBits (power bits n : Nat) : Nat :=
  rootOf power (n * Nat.pow (twoTo bits) power) (bits + 10) 0 % twoTo bits

/-- The words from sines. -/
def sineWords : Array Nat := #[
    0xd76aa478, 0xe8c7b756, 0x242070db, 0xc1bdceee, 0xf57c0faf, 0x4787c62a, 0xa8304613, 0xfd469501,
    0x698098d8, 0x8b44f7af, 0xffff5bb1, 0x895cd7be, 0x6b901122, 0xfd987193, 0xa679438e, 0x49b40821,
    0xf61e2562, 0xc040b340, 0x265e5a51, 0xe9b6c7aa, 0xd62f105d, 0x02441453, 0xd8a1e681, 0xe7d3fbc8,
    0x21e1cde6, 0xc33707d6, 0xf4d50d87, 0x455a14ed, 0xa9e3e905, 0xfcefa3f8, 0x676f02d9, 0x8d2a4c8a,
    0xfffa3942, 0x8771f681, 0x6d9d6122, 0xfde5380c, 0xa4beea44, 0x4bdecfa9, 0xf6bb4b60, 0xbebfbc70,
    0x289b7ec6, 0xeaa127fa, 0xd4ef3085, 0x04881d05, 0xd9d4d039, 0xe6db99e5, 0x1fa27cf8, 0xc4ac5665,
    0xf4292244, 0x432aff97, 0xab9423a7, 0xfc93a039, 0x655b59c3, 0x8f0ccc92, 0xffeff47d, 0x85845dd1,
    0x6fa87e4f, 0xfe2ce6e0, 0xa3014314, 0x4e0811a1, 0xf7537e82, 0xbd3af235, 0x2ad7d2bb, 0xeb86d391]

/-- The words with which the older digests begin. -/
def firstWords : Array Nat :=
  #[0x67452301, 0xefcdab89, 0x98badcfe, 0x10325476, 0xc3d2e1f0]

/-! ## Digests -/

/-- The digest of four words. -/
def md5 (input : Bytes) : Bytes :=
  let turns := #[7, 12, 17, 22, 5, 9, 14, 20, 4, 11, 16, 23, 6, 10, 15, 21]
  let modulus := twoTo 32
  let littleEnd (size n : Nat) : Bytes := (bytesOfNumber size n).reverse
  let round (block : Array Nat) (s : Nat × Nat × Nat × Nat) (i : Nat) : Nat × Nat × Nat × Nat :=
    let (a, b, c, d) := s
    let (f, g) : Nat × Nat :=
      match i / 16 with
      | 0 => ((b &&& c) ||| (flipped 32 b &&& d), i)
      | 1 => ((d &&& b) ||| (flipped 32 d &&& c), (5 * i + 1) % 16)
      | 2 => (b ^^^ c ^^^ d, (3 * i + 5) % 16)
      | _ => (c ^^^ (b ||| flipped 32 d), (7 * i) % 16)
    let sum := (a + f + sineWords.getD i 0 + block.getD g 0) % modulus
    (d, (b + turnLeft 32 (turns.getD (i / 16 * 4 + i % 4) 0) sum) % modulus, b, c)
  let start := (firstWords.getD 0 0, firstWords.getD 1 0, firstWords.getD 2 0, firstWords.getD 3 0)
  let blocks := blocksOf 64 4 (fun w => numberOf w.reverse)
    (padded 64 8 (fun n => littleEnd 8 (n % twoTo 64)) input)
  let (a, b, c, d) := blocks.foldl (fun s block =>
    let (a, b, c, d) := s
    let (a2, b2, c2, d2) := (List.range 64).foldl (round block) s
    ((a + a2) % modulus, (b + b2) % modulus, (c + c2) % modulus, (d + d2) % modulus)) start
  [a, b, c, d].flatMap fun w => hexadecimal 8 (numberOf (littleEnd 4 w))

/-- The words of a block with others that follow from them. -/
def extended (count : Nat) (next : Array Nat → Nat → Nat) (block : Array Nat) : Array Nat :=
  (List.range count).foldl (fun ws _ => ws.push (next ws ws.size)) block

/-- The digest of five words. -/
def sha1 (input : Bytes) : Bytes :=
  let modulus := twoTo 32
  let next (ws : Array Nat) (i : Nat) : Nat :=
    turnLeft 32 1 (ws.getD (i - 3) 0 ^^^ ws.getD (i - 8) 0 ^^^ ws.getD (i - 14) 0
      ^^^ ws.getD (i - 16) 0)
  let round (ws : Array Nat) (s : Nat × Nat × Nat × Nat × Nat) (i : Nat) :
      Nat × Nat × Nat × Nat × Nat :=
    let (a, b, c, d, e) := s
    let (f, k) : Nat × Nat :=
      match i / 20 with
      | 0 => ((b &&& c) ||| (flipped 32 b &&& d), 0x5a827999)
      | 1 => (b ^^^ c ^^^ d, 0x6ed9eba1)
      | 2 => ((b &&& c) ||| (b &&& d) ||| (c &&& d), 0x8f1bbcdc)
      | _ => (b ^^^ c ^^^ d, 0xca62c1d6)
    ((turnLeft 32 5 a + f + e + k + ws.getD i 0) % modulus, a, turnLeft 32 30 b, c, d)
  let start := (firstWords.getD 0 0, firstWords.getD 1 0, firstWords.getD 2 0, firstWords.getD 3 0,
    firstWords.getD 4 0)
  let blocks := blocksOf 64 4 numberOf
    (padded 64 8 (fun n => bytesOfNumber 8 (n % twoTo 64)) input)
  let (a, b, c, d, e) := blocks.foldl (fun s block =>
    let (a, b, c, d, e) := s
    let (a2, b2, c2, d2, e2) := (List.range 80).foldl (round (extended 64 next block)) s
    ((a + a2) % modulus, (b + b2) % modulus, (c + c2) % modulus, (d + d2) % modulus,
      (e + e2) % modulus)) start
  [a, b, c, d, e].flatMap (hexadecimal 8)

/-- How a digest of eight words turns its words. -/
structure Turns where
  first : Nat × Nat × Nat
  second : Nat × Nat × Nat
  /-- Turned twice and shifted once. -/
  third : Nat × Nat × Nat
  fourth : Nat × Nat × Nat

/-- The digests of eight words, of which so many digits are shown. -/
def sha2 (bits rounds : Nat) (t : Turns) (start : List Nat) (shown : Nat) (input : Bytes) :
    Bytes :=
  let modulus := twoTo bits
  let keys := ((firstPrimes rounds).map (rootBits 3 bits)).toArray
  let turned (p : Nat × Nat × Nat) (x : Nat) : Nat :=
    turnRight bits p.1 x ^^^ turnRight bits p.2.1 x ^^^ turnRight bits p.2.2 x
  let shifted (p : Nat × Nat × Nat) (x : Nat) : Nat :=
    turnRight bits p.1 x ^^^ turnRight bits p.2.1 x ^^^ (x >>> p.2.2)
  let next (ws : Array Nat) (i : Nat) : Nat :=
    (shifted t.fourth (ws.getD (i - 2) 0) + ws.getD (i - 7) 0
      + shifted t.third (ws.getD (i - 15) 0) + ws.getD (i - 16) 0) % modulus
  let round (ws : Array Nat) (s : List Nat) (i : Nat) : List Nat :=
    match s with
    | [a, b, c, d, e, f, g, h] =>
      let choice := (e &&& f) ^^^ (flipped bits e &&& g)
      let majority := (a &&& b) ^^^ (a &&& c) ^^^ (b &&& c)
      let sum := h + turned t.second e + choice + keys.getD i 0 + ws.getD i 0
      [(sum + turned t.first a + majority) % modulus, a, b, c, (d + sum) % modulus, e, f, g]
    | s => s
  let wordSize := bits / 8
  let blocks := blocksOf (16 * wordSize) wordSize numberOf
    (padded (16 * wordSize) (2 * wordSize) (bytesOfNumber (2 * wordSize)) input)
  let result := blocks.foldl (fun s block =>
    let last := (List.range rounds).foldl (round (extended (rounds - 16) next block)) s
    (s.zip last).map fun p => (p.1 + p.2) % modulus) start
  (result.flatMap (hexadecimal (bits / 4))).take shown

/-- The turns for words of 32 bits. -/
def shortTurns : Turns :=
  ⟨(2, 13, 22), (6, 11, 25), (7, 18, 3), (17, 19, 10)⟩

/-- The turns for words of 64 bits. -/
def longTurns : Turns :=
  ⟨(28, 34, 39), (14, 18, 41), (1, 8, 7), (19, 61, 6)⟩

/-- The digest of 256 bits. -/
def sha256 (input : Bytes) : Bytes :=
  sha2 32 64 shortTurns ((firstPrimes 8).map (rootBits 2 32)) 64 input

/-- The digest of 224 bits. -/
def sha224 (input : Bytes) : Bytes :=
  sha2 32 64 shortTurns
    (((firstPrimes 16).drop 8).map fun p => rootBits 2 64 p % twoTo 32) 56 input

/-- The digest of 512 bits. -/
def sha512 (input : Bytes) : Bytes :=
  sha2 64 80 longTurns ((firstPrimes 8).map (rootBits 2 64)) 128 input

/-- The digest of 384 bits. -/
def sha384 (input : Bytes) : Bytes :=
  sha2 64 80 longTurns (((firstPrimes 16).drop 8).map (rootBits 2 64)) 96 input

/-! ## Checksums -/

/-- The remainder of a polynomial after another byte. -/
def nextRemainder (crc byte : Nat) : Nat :=
  (List.range 8).foldl (fun r _ =>
    let doubled := r * 2 % twoTo 32
    if r < twoTo 31 then doubled else doubled ^^^ 0x04c11db7) (crc ^^^ (byte <<< 24))

/-- The bytes of a length, the lowest one first, as many as it has. -/
def lengthBytes : Nat → Nat → List Nat
  | 0, _ => []
  | fuel + 1, n => if n = 0 then [] else n % 256 :: lengthBytes fuel (n / 256)

/-- The remainder of an input and its length. -/
def polynomialSum (input : Bytes) : Nat :=
  let all := input.map Char.toNat ++ lengthBytes 16 input.length
  flipped 32 (all.foldl nextRemainder 0)

/-- A sum of 16 bits that is turned before each byte. -/
def turningSum (input : Bytes) : Nat :=
  input.foldl (fun s c => (s / 2 + s % 2 * 32768 + c.toNat) % 65536) 0

/-- A sum of all bytes, folded to 16 bits. -/
def foldedSum (input : Bytes) : Nat :=
  let n := (input.foldl (fun s c => s + c.toNat) 0) % twoTo 32
  let m := n % 65536 + n / 65536
  m % 65536 + m / 65536

/-! ## Digests with a chosen length -/

/-- In which order the words of a block are mixed in. -/
def mixingOrders : Array (Array Nat) := #[
    #[0, 1, 2, 3, 4, 5, 6, 7, 8, 9, 10, 11, 12, 13, 14, 15],
    #[14, 10, 4, 8, 9, 15, 13, 6, 1, 12, 0, 2, 11, 7, 5, 3],
    #[11, 8, 12, 0, 5, 2, 15, 13, 10, 14, 3, 6, 7, 1, 9, 4],
    #[7, 9, 3, 1, 13, 12, 11, 14, 2, 6, 5, 10, 4, 0, 15, 8],
    #[9, 0, 5, 7, 2, 4, 10, 15, 14, 1, 11, 12, 6, 8, 3, 13],
    #[2, 12, 6, 10, 0, 11, 8, 3, 4, 13, 7, 5, 15, 14, 1, 9],
    #[12, 5, 1, 15, 14, 13, 4, 10, 0, 7, 6, 3, 9, 2, 8, 11],
    #[13, 11, 7, 14, 12, 1, 3, 9, 5, 0, 15, 4, 8, 6, 2, 10],
    #[6, 15, 14, 9, 11, 3, 0, 8, 12, 2, 13, 7, 1, 4, 10, 5],
    #[10, 2, 8, 4, 7, 6, 1, 5, 15, 11, 9, 14, 3, 12, 13, 0]]

/-- The words of a state that are mixed with each other, one group after the other. -/
def mixedGroups : List (Nat × Nat × Nat × Nat) :=
  [(0, 4, 8, 12), (1, 5, 9, 13), (2, 6, 10, 14), (3, 7, 11, 15),
    (0, 5, 10, 15), (1, 6, 11, 12), (2, 7, 8, 13), (3, 4, 9, 14)]

/-- Mixes four words of a state with two of a block. -/
def mixWords (v : Array Nat) (g : Nat × Nat × Nat × Nat) (x y : Nat) : Array Nat :=
  let modulus := twoTo 64
  let (ia, ib, ic, id) := g
  let a := (v.getD ia 0 + v.getD ib 0 + x) % modulus
  let d := turnRight 64 32 (v.getD id 0 ^^^ a)
  let c := (v.getD ic 0 + d) % modulus
  let b := turnRight 64 24 (v.getD ib 0 ^^^ c)
  let a := (a + b + y) % modulus
  let d := turnRight 64 16 (d ^^^ a)
  let c := (c + d) % modulus
  let b := turnRight 64 63 (b ^^^ c)
  (((v.setIfInBounds ia a).setIfInBounds ib b).setIfInBounds ic c).setIfInBounds id d

/-- The digest of a length in bytes, at most 64. -/
def blake2 (size : Nat) (input : Bytes) : Bytes :=
  let modulus := twoTo 64
  let start := (firstPrimes 8).map (rootBits 2 64)
  let blocks := if input = [] then [[]] else partsOf 128 (input.length + 1) input
  let compress (h : List Nat) (block : Bytes) (count : Nat) (isLast : Bool) : List Nat :=
    let full := block ++ List.replicate (128 - block.length) '\x00'
    let words := ((partsOf 8 17 full).map fun w => numberOf w.reverse).toArray
    let later := start.mapIdx fun i w =>
      if i = 4 then w ^^^ (count % modulus)
      else if i = 5 then w ^^^ (count / modulus)
      else if i = 6 && isLast then flipped 64 w
      else w
    let v := (List.range 12).foldl (fun v round =>
      let order := mixingOrders.getD (round % 10) #[]
      (mixedGroups.mapIdx fun i g => (i, g)).foldl (fun v (p : Nat × Nat × Nat × Nat × Nat) =>
        mixWords v p.2 (words.getD (order.getD (2 * p.1) 0) 0)
          (words.getD (order.getD (2 * p.1 + 1) 0) 0)) v) (h ++ later).toArray
    h.mapIdx fun i w => w ^^^ v.getD i 0 ^^^ v.getD (i + 8) 0
  let first := start.mapIdx fun i w => if i = 0 then w ^^^ 0x01010000 ^^^ size else w
  let result := (blocks.mapIdx fun i b => (i, b)).foldl (fun h (p : Nat × Bytes) =>
    compress h p.2 (128 * p.1 + p.2.length) (p.1 + 1 = blocks.length)) first
  (result.flatMap fun w => hexadecimal 16 (numberOf (bytesOfNumber 8 w).reverse)).take (2 * size)

end LinkWatch.Host.Utility
