import LinkWatch.Host.Utility.Double

/-!
# Values of programs with marked names

A value is a number, a text, or a link to something that holds values. Numbers and texts become each
other as they are needed. Whole numbers are exact as long as they fit into 64 bits.
-/

namespace LinkWatch.Host.Sigil

open LinkWatch.Text LinkWatch.Host.Utility

/-- What a link leads to. -/
inductive Goal where
  | cell
  | list
  | table
  | routine
  | conduit
  deriving DecidableEq, Repr

/-- A value. -/
inductive Scalar where
  | none
  | whole (n : Int)
  | real (x : Float)
  | text (cs : Bytes)
  | link (g : Goal) (address : Nat)
  /-- An expression for matching. -/
  | pattern (cs : Bytes)

/-- A number. -/
inductive Count where
  | whole (n : Int)
  | real (x : Float)

/-- Whether a whole number is kept exactly. -/
def isExact (n : Int) : Bool :=
  leastNumber ≤ n && n < (UInt64.size : Int)

/-- A whole number, exact if possible. -/
def Count.ofInt (n : Int) : Count :=
  if isExact n then .whole n else .real (floatOfInt n)

/-- A number as a double. -/
def Count.float : Count → Float
  | .whole n => floatOfInt n
  | .real x => x

/-- The whole part of a number. -/
def Count.int : Count → Int
  | .whole n => n
  | .real x => (realOf x).whole

/-- A number as a value. -/
def Count.scalar : Count → Scalar
  | .whole n => .whole n
  | .real x => .real x

/-- The number at the start of a text. -/
def countAt (cs : Bytes) : Count :=
  let cs := skipSpaces cs
  let (isNegative, digits) := match cs with
    | '-' :: rest => (true, rest)
    | '+' :: rest => (false, rest)
    | rest => (false, rest)
  let lead := digits.takeWhile Char.isDigit
  let after := digits.drop lead.length
  let isWhole := lead ≠ [] && !after.head?.any fun c => c = '.' || c = 'e' || c = 'E'
  if isWhole then
    let n : Int := (readBased 10 lead).1
    .ofInt (if isNegative then -n else n)
  else
    let word := (digits.takeWhile Char.isAlpha).map Char.toLower
    let size : Float :=
      if word = "inf".toList || word = "infinity".toList then 1.0 / 0.0
      else if word = "nan".toList then 0.0 / 0.0
      else if digits.take 2 = ['0', 'x'] || digits.take 2 = ['0', 'X'] then 0
      else if lead ≠ [] || after.head? = some '.' then floatOf (readReal digits).1
      else 0
    let n : Int := (realOf size).whole
    if (realOf size).isWhole && n.natAbs < 1000000000000000 then
      .whole (if isNegative then -n else n)
    else .real (if isNegative then -size else size)

/-- The text of a double. -/
def realText (x : Float) : Bytes :=
  let r := realOf x
  match r.magnitude with
  | .notNumber => "NaN".toList
  | .infinite => if r.negative then "-Inf".toList else "Inf".toList
  | .fraction 0 _ => ['0']
  | .fraction _ _ => roundedText "%.15g".toList r

/-- The word for what a link leads to. -/
def Goal.word : Goal → String
  | .cell => "SCALAR"
  | .list => "ARRAY"
  | .table => "HASH"
  | .routine => "CODE"
  | .conduit => "GLOB"

/-- The text of a value. -/
def Scalar.asText : Scalar → Bytes
  | .none => []
  | .whole n => numeralOf n
  | .real x => realText x
  | .text cs => cs
  | .link g address =>
    g.word.toList ++ "(0x55".toList ++ Nat.toDigits 16 (0x100000000 + 24 * address) ++ [')']
  | .pattern cs => cs

/-- The number of a value. -/
def Scalar.count : Scalar → Count
  | .none => .whole 0
  | .whole n => .whole n
  | .real x => .real x
  | .text cs => countAt cs
  | .link _ address => .whole (94489280512 + 24 * address)
  | .pattern cs => countAt cs

/-- The whole part of a value. -/
def Scalar.int (v : Scalar) : Int :=
  v.count.int

/-- Whether a value counts as true. -/
def Scalar.isTrue : Scalar → Bool
  | .none => false
  | .whole n => n ≠ 0
  | .real x => x != 0
  | .text cs => cs ≠ [] && cs ≠ ['0']
  | _ => true

/-- Whether there is a value. -/
def Scalar.isDefined : Scalar → Bool
  | .none => false
  | _ => true

/-- The value of a truth. -/
def Scalar.ofBool (b : Bool) : Scalar :=
  if b then .whole 1 else .text []

/-- A number of things. -/
def Scalar.ofNat (n : Nat) : Scalar :=
  .whole n

/-- Whether a text reads wholly as a number. -/
def isNumeral (cs : Bytes) : Bool :=
  let digits := match skipSpaces cs with
    | '-' :: rest => rest
    | '+' :: rest => rest
    | rest => rest
  let (_, rest) := readReal digits
  digits ≠ [] && (digits.headD 'x').isDigit && (rest.all isSpaceChar)

/-! ## Counting -/

/-- What stops a calculation. -/
inductive CountFault where
  | division
  | remainder
  | root
  | logarithm

/-- The words for what stops a calculation. -/
def CountFault.words : CountFault → Bytes → Bytes
  | .division, _ => "Illegal division by zero".toList
  | .remainder, _ => "Illegal modulus zero".toList
  | .root, x => "Can't take sqrt of ".toList ++ x
  | .logarithm, x => "Can't take log of ".toList ++ x

/-- The 64 bits of a number. -/
def Count.bits (a : Count) : Nat :=
  (a.int % (UInt64.size : Int)).toNat

/-- A whole power, if it is surely exact: if the bits of the base are not too many for the power. -/
def wholePower? (base : Int) (n : Nat) : Option Int :=
  let bits := (Nat.toDigits 2 base.natAbs).length
  if 64 < n * bits then none
  else
    let p := (List.replicate n base).foldl (· * ·) 1
    if isExact p then some p else none

/-- A number that is exact as a whole one becomes one. -/
def Count.settled : Count → Count
  | .whole n => .whole n
  | .real x =>
    let r := realOf x
    match r.magnitude with
    | .fraction _ _ =>
      if r.isWhole && r.whole.natAbs < 9007199254740992 && x != 0 then .whole r.whole else .real x
    | _ => .real x

/-- The result of an operator on two numbers. -/
def Count.result (o : String) (a b : Count) : Except CountFault Count :=
  let a := a.settled
  let b := b.settled
  let real (f : Float → Float → Float) : Count := .real (f a.float b.float)
  match o with
  | "+" => match a, b with
    | .whole m, .whole n => .ok (.ofInt (m + n))
    | _, _ => .ok (real (· + ·))
  | "-" => match a, b with
    | .whole m, .whole n => .ok (.ofInt (m - n))
    | _, _ => .ok (real (· - ·))
  | "*" => match a, b with
    | .whole m, .whole n => .ok (.ofInt (m * n))
    | _, _ => .ok (real (· * ·))
  | "/" =>
    if b.float == 0 then .error .division
    else match a, b with
      | .whole m, .whole n =>
        if Int.tmod m n = 0 then .ok (.ofInt (Int.tdiv m n)) else .ok (real (· / ·))
      | _, _ => .ok (real (· / ·))
  | "%" =>
    let n := b.int
    if n = 0 then .error .remainder else .ok (.ofInt (Int.fmod a.int n))
  | "**" => match a, b with
    | .whole m, .whole n =>
      if 0 ≤ n then
        match wholePower? m n.toNat with
        | some p => .ok (.whole p)
        | none => .ok (real Float.pow)
      else .ok (real Float.pow)
    | _, _ => .ok (real Float.pow)
  | "&" => .ok (.whole (a.bits &&& b.bits : Nat))
  | "|" => .ok (.whole (a.bits ||| b.bits : Nat))
  | "^" => .ok (.whole (a.bits ^^^ b.bits : Nat))
  | "<<" => .ok (.whole (if 64 ≤ b.int then 0 else (a.bits <<< b.int.toNat) % UInt64.size : Nat))
  | ">>" => .ok (.whole (if 64 ≤ b.int then 0 else a.bits >>> b.int.toNat : Nat))
  | _ => .ok a

/-- Compares two numbers; there is no answer if one of them is none. -/
def Count.compare (a b : Count) : Option Ordering :=
  match a, b with
  | .whole m, .whole n => some (if m < n then .lt else if m = n then .eq else .gt)
  | _, _ =>
    let (x, y) := (a.float, b.float)
    if x < y then some .lt else if x == y then some .eq else if y < x then some .gt else none

/-- Compares two texts. -/
def compareTexts (a b : Bytes) : Ordering :=
  if isBefore a b then .lt else if a = b then .eq else .gt

/-- The value of an order. -/
def orderValue : Option Ordering → Scalar
  | some .lt => .whole (-1)
  | some .eq => .whole 0
  | some .gt => .whole 1
  | none => .none

/-- The text that comes after another one if letters and digits are counted on. -/
def nextText (cs : Bytes) : Bytes :=
  let rec go : Bytes → Bytes
    | [] => []
    | 'z' :: rest => if rest = [] then ['a', 'a'] else 'a' :: go rest
    | 'Z' :: rest => if rest = [] then ['A', 'A'] else 'A' :: go rest
    | '9' :: rest => if rest = [] then ['0', '1'] else '0' :: go rest
    | c :: rest => Char.ofNat (c.toNat + 1) :: rest
  (go cs.reverse).reverse

/-- Whether a text can be counted on. -/
def isCountable (cs : Bytes) : Bool :=
  let letters := cs.takeWhile Char.isAlpha
  cs ≠ [] && (cs.drop letters.length).all Char.isDigit && letters ≠ []

end LinkWatch.Host.Sigil
