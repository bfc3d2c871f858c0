import LinkWatch.Host.Record.Form
import LinkWatch.Host.Utility.Double

/-!
# Values of programs on records

A value is a number or a text, and each serves as the other. A text that comes from the input and
looks like a number is compared as one. What has no value yet is zero and the empty text.
-/

namespace LinkWatch.Host.Record

open LinkWatch.Text LinkWatch.Host.Utility

/-- A value. -/
inductive Cell where
  | none
  | number (x : Float)
  | text (cs : Bytes)
  /-- A text that looks like a number. -/
  | likely (cs : Bytes) (x : Float)

/-- The number at the start of a text. -/
def numberAt (cs : Bytes) : Float :=
  floatOf (readReal cs).1

/-- The value of a text from the input. -/
def Cell.ofInput (cs : Bytes) : Cell :=
  let start := skipSpaces cs
  let bare := (start.reverse.dropWhile isSpaceChar).reverse
  let canStart := bare.head?.any fun c => c.isDigit || c ∈ ['.', '+', '-']
  let canStop := bare.getLast?.any fun c => c.isDigit || c = '.'
  if canStart && canStop then
    let (x, rest) := readReal bare
    if rest = [] then .likely cs (floatOf x) else .text cs
  else .text cs

/-- The number that a value is. -/
def Cell.asNumber : Cell → Float
  | .none => 0
  | .number x => x
  | .text cs => numberAt cs
  | .likely _ x => x

/-- The text that a value is, for which numbers that are not whole are written in a format. -/
def Cell.asText (format : Bytes) : Cell → Bytes
  | .none => []
  | .number x => formattedNumber format x
  | .text cs => cs
  | .likely cs _ => cs

/-- Whether a value counts as true. -/
def Cell.isTrue : Cell → Bool
  | .none => false
  | .number x => x != 0
  | .text cs => !cs.isEmpty
  | .likely _ x => x != 0

/-- Whether a value is compared as a number. -/
def Cell.isNumeric : Cell → Bool
  | .text _ => false
  | _ => true

/-- A truth value as a number. -/
def Cell.ofBool (b : Bool) : Cell :=
  .number (if b then 1 else 0)

/-- A natural number as a value. -/
def Cell.ofNat (n : Nat) : Cell :=
  .number (floatOfInt n)

/-- Whether two values stand in a relation. -/
def Relation.holds (r : Relation) (format : Bytes) (a b : Cell) : Bool :=
  if a.isNumeric && b.isNumeric then
    let x := a.asNumber
    let y := b.asNumber
    match r with
    | .less => x < y
    | .atMost => x <= y
    | .equal => x == y
    | .different => x != y
    | .greater => y < x
    | .atLeast => y <= x
  else
    let s := a.asText format
    let t := b.asText format
    match r with
    | .less => isBefore s t
    | .atMost => !isBefore t s
    | .equal => s = t
    | .different => s ≠ t
    | .greater => isBefore t s
    | .atLeast => !isBefore s t

/-- What arithmetic makes of two numbers. -/
def Arithmetic.result (o : Arithmetic) (x y : Float) : Float :=
  match o with
  | .plus => x + y
  | .minus => x - y
  | .times => x * y
  | .divided => x / y
  | .remainder => remainderOf x y
  | .power => Float.pow x y

/-- A number as an index into a text or a count, within bounds. -/
def wholeOf (x : Float) : Int :=
  (realOf x).whole

/-- A number rounded to a whole one; a half goes to the even neighbour. -/
def nearestWhole (x : Float) : Int :=
  let r := realOf x
  match r.magnitude with
  | .fraction num den =>
    let n : Int := Decimal.roundDivEven num den
    if r.negative then -n else n
  | _ => r.whole

/-- The part of a text that starts at a number of a character and has so many characters. -/
def partOf (cs : Bytes) (start : Float) (size : Option Float) : Bytes :=
  let first := nearestWhole start
  let last : Int := match size with
    | some n => first + nearestWhole n
    | none => cs.length + 1
  let first := max first 1
  if last ≤ first then [] else (cs.drop (first - 1).toNat).take (last - first).toNat

/-! ## Formats -/

/-- Reads a number of a slot, which may be given by an argument. -/
def slotNumber (values : List Cell) (cs : Bytes) : Option (Int × List Cell × Bytes) :=
  match cs with
  | '*' :: rest =>
    match values with
    | v :: values => some (wholeOf v.asNumber, values, rest)
    | [] => none
  | _ => let p := readBased 10 cs; some (p.1, values, p.2)

/-- A value set into a slot. -/
def Cell.setInto (format : Bytes) (slot : Slot) (v : Cell) : Bytes :=
  let whole (signed : Bool) : Bytes :=
    let n := wholeOf v.asNumber
    if signed then slot.setWhole (saturated n)
    else slot.setWhole (if n < 0 then (saturated n) % (UInt64.size : Int)
      else min n (UInt64.size - 1 : Nat))
  match slot.letter with
  | 's' => slot.setText (v.asText format)
  | 'c' =>
    let shown (x : Float) : Bytes := [Char.ofNat ((wholeOf x) % 256).toNat]
    match v with
    | .number x => slot.set (shown x)
    | .likely _ x => slot.set (shown x)
    | v => slot.set [(v.asText format).headD '\x00']
  | 'd' => whole true
  | 'i' => whole true
  | 'o' => whole false
  | 'x' => whole false
  | 'X' => whole false
  | 'u' => whole false
  | _ => slot.setReal 1 (realOf v.asNumber)

/-- What is wrong with a format. -/
inductive FormatFault where
  | tooFew
  | unknown (slot : Bytes)

/-- The text of a format whose slots are filled with values, up to what is wrong with it. -/
def fillFormat (format : Bytes) : Nat → Bytes → List Cell → Bytes × Option FormatFault
  | 0, _, _ => ([], none)
  | fuel + 1, cs, values =>
    let more (text : Bytes) (rest : Bytes) (values : List Cell) : Bytes × Option FormatFault :=
      let p := fillFormat format fuel rest values
      (text ++ p.1, p.2)
    match cs with
    | [] => ([], none)
    | '%' :: '%' :: rest => more ['%'] rest values
    | '%' :: rest =>
      let flags := rest.takeWhile (· ∈ ['#', '-', '+', ' ', '0'])
      match slotNumber values (rest.drop flags.length) with
      | none => ([], some .tooFew)
      | some (width, values, afterWidth) =>
        let precision : Option (Option Int × List Cell × Bytes) := match afterWidth with
          | '.' :: places => (slotNumber values places).map fun p => (some p.1, p.2)
          | others => some (none, values, others)
        match precision with
        | none => ([], some .tooFew)
        | some (precision, values, others) =>
          let others := others.dropWhile (· ∈ ['l', 'h', 'L', 'q'])
          match others with
          | letter :: after =>
            if letter ∈ ['d', 'i', 'o', 'x', 'X', 'u', 'c', 's', 'e', 'E', 'f', 'F', 'g', 'G', 'a',
              'A'] then
              match values with
              | v :: values =>
                let places := precision.bind fun p => if p < 0 then none else some p.toNat
                let slot : Slot := ⟨flags, width.natAbs, width < 0, places, letter⟩
                more (v.setInto format slot) after values
              | [] => ([], some .tooFew)
            else ([], some (.unknown ('%' :: rest.take (rest.length - after.length))))
          | [] => ([], some (.unknown ('%' :: rest)))
    | c :: rest =>
      let run := c :: rest.takeWhile (· ≠ '%')
      more run (cs.drop run.length) values

end LinkWatch.Host.Record
