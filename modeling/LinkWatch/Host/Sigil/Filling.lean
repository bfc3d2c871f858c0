import LinkWatch.Host.Sigil.Value

/-!
# Formats and exchanges

Values set into the slots of a format, and characters exchanged for others by their places in two
lists.
-/

namespace LinkWatch.Host.Sigil

open LinkWatch.Text LinkWatch.Host.Utility LinkWatch.Decimal

/-- Reads a number of a slot, which may be given by a value. -/
def slotNumber (vs : List Scalar) (cs : Bytes) : Int × List Scalar × Bytes :=
  match cs with
  | '*' :: rest => ((vs.headD .none).int, vs.drop 1, rest)
  | _ => let p := readBased 10 cs; (p.1, vs, p.2)

/-- A value set into a slot. -/
def Scalar.setInto (slot : Slot) (v : Scalar) : Bytes :=
  let n := v.int
  let positive : Nat := (n % (UInt64.size : Int)).toNat
  match slot.letter with
  | 's' => slot.setText v.asText
  | 'c' =>
    slot.set (if n < 256 then [Char.ofNat n.toNat] else ofBytes (encode [Char.ofNat n.toNat]))
  | 'd' => slot.setWhole n
  | 'i' => { slot with letter := 'd' }.setWhole n
  | 'u' => slot.setWhole positive
  | 'o' => slot.setWhole positive
  | 'x' => slot.setWhole positive
  | 'X' => slot.setWhole positive
  | 'b' =>
    let digits := padLeft (slot.precision.getD 1) '0' (Nat.toDigits 2 positive)
    let before := if '#' ∈ slot.flags && positive ≠ 0 then ['0', 'b'] else []
    slot.setDigits slot.precision.isNone before digits
  | _ => slot.setReal 1 (realOf v.count.float)

/-- The text of a format whose slots are filled with values. -/
def filledText : Nat → Bytes → List Scalar → Bytes
  | 0, _, _ => []
  | fuel + 1, cs, vs =>
    match cs with
    | [] => []
    | '%' :: '%' :: rest => '%' :: filledText fuel rest vs
    | '%' :: rest =>
      let flags := rest.takeWhile (· ∈ ['#', '-', '+', ' ', '0'])
      let (width, vs, afterWidth) := slotNumber vs (rest.drop flags.length)
      let (precision, vs, others) : Option Int × List Scalar × Bytes := match afterWidth with
        | '.' :: places => let p := slotNumber vs places; (some p.1, p.2)
        | others => (none, vs, others)
      match others.dropWhile (· ∈ ['l', 'h', 'L', 'q', 'V']) with
      | letter :: after =>
        if "sdiouxXbceEfFgGaA".toList.contains letter then
          let places := precision.bind fun p => if p < 0 then none else some p.toNat
          let slot : Slot := ⟨flags, width.natAbs, width < 0, places, letter⟩
          (vs.headD .none).setInto slot ++ filledText fuel after (vs.drop 1)
        else '%' :: filledText fuel rest vs
      | [] => '%' :: rest
    | c :: rest =>
      let run := c :: rest.takeWhile (· ≠ '%')
      run ++ filledText fuel (cs.drop run.length) vs

/-! ## Exchanges -/

/-- The characters that a list of characters and ranges means. -/
def listedChars : Nat → Bytes → Bytes
  | 0, _ => []
  | fuel + 1, cs =>
    let single : Bytes → Option (Char × Bytes)
      | '\\' :: c :: rest => some (match c with
        | 'n' => ('\n', rest)
        | 't' => ('\t', rest)
        | 'r' => ('\r', rest)
        | 'f' => ('\x0c', rest)
        | 'a' => ('\x07', rest)
        | 'e' => ('\x1b', rest)
        | '0' => ('\x00', rest)
        | 'x' =>
          let digits := (rest.takeWhile fun d => digitValue d < 16).take 2
          (Char.ofNat (readBased 16 digits).1, rest.drop digits.length)
        | c => (c, rest))
      | c :: rest => some (c, rest)
      | [] => none
    match single cs with
    | none => []
    | some (a, '-' :: rest) =>
      match single rest with
      | some (b, rest) =>
        ((List.range (b.toNat + 1 - a.toNat)).map fun i => Char.ofNat (a.toNat + i))
          ++ listedChars fuel rest
      | none => [a, '-']
    | some (a, rest) => a :: listedChars fuel rest

/-- How characters are exchanged. -/
structure Exchange where
  first : Bytes
  second : Bytes
  isOthers : Bool
  deletes : Bool
  squeezes : Bool

/-- The exchange that two lists and flags mean. -/
def Exchange.of (first second flags : Bytes) : Exchange :=
  let first := listedChars (first.length + 1) first
  let second := listedChars (second.length + 1) second
  let isOthers := flags.contains 'c'
  let deletes := flags.contains 'd'
  ⟨first, if second = [] && !deletes && !isOthers then first else second, isOthers, deletes,
    flags.contains 's'⟩

/-- What a character becomes: there is no answer if it stays, and no character if it goes. -/
def Exchange.image (e : Exchange) (c : Char) : Option (Option Char) :=
  if e.isOthers then
    if e.first.contains c then none
    else if e.deletes then some none
    else some (some (e.second.getLast?.getD c))
  else
    match e.first.idxOf? c with
    | none => none
    | some i =>
      match e.second[i]? with
      | some d => some (some d)
      | none => if e.deletes then some none else some (some (e.second.getLast?.getD c))

/-- A text with its characters exchanged, and how many have been. -/
def Exchange.run (e : Exchange) : Bytes → Option Char → Nat → Bytes → Bytes × Nat
  | [], _, n, out => (out.reverse, n)
  | c :: cs, before, n, out =>
    match e.image c with
    | none => e.run cs none n (c :: out)
    | some none => e.run cs before (n + 1) out
    | some (some d) =>
      if e.squeezes && before = some d then e.run cs before (n + 1) out
      else e.run cs (some d) (n + 1) (d :: out)

end LinkWatch.Host.Sigil
