/-!
# Bytes as text

A byte sequence is read as UTF-8 one byte at a time. Every maximal piece that begins like a
character and is not one counts as one invalid part. The strict reading refuses invalid parts, the
lenient reading puts the replacement character in their place.
-/

namespace LinkWatch.Text

/-- A character of which some bytes are still to come: the value so far, the number of bytes
missing, and the range in which the next one has to lie. -/
structure Pending where
  value : Nat
  missing : Nat
  low : UInt8
  high : UInt8

/-- What the first byte of a character promises. The tight ranges keep out overlong forms,
surrogates and values above the last code point. -/
inductive Lead where
  | complete (c : Char)
  | begins (p : Pending)
  | invalid

/-- Reads the first byte of a character. -/
def lead (b : UInt8) : Lead :=
  if b < 0x80 then .complete (Char.ofNat b.toNat)
  else if b < 0xc2 then .invalid
  else if b < 0xe0 then .begins ⟨b.toNat - 0xc0, 1, 0x80, 0xbf⟩
  else if b == 0xe0 then .begins ⟨0x0, 2, 0xa0, 0xbf⟩
  else if b == 0xed then .begins ⟨0xd, 2, 0x80, 0x9f⟩
  else if b < 0xf0 then .begins ⟨b.toNat - 0xe0, 2, 0x80, 0xbf⟩
  else if b == 0xf0 then .begins ⟨0x0, 3, 0x90, 0xbf⟩
  else if b < 0xf4 then .begins ⟨b.toNat - 0xf0, 3, 0x80, 0xbf⟩
  else if b == 0xf4 then .begins ⟨0x4, 3, 0x80, 0x8f⟩
  else .invalid

/-- The parts that a byte completes, in order, and the character left open after it. A part is a
character, or `none` for an invalid part. -/
def stepByte (pending? : Option Pending) (b : UInt8) : List (Option Char) × Option Pending :=
  let fresh : List (Option Char) × Option Pending :=
    match lead b with
    | .complete c => ([some c], none)
    | .begins p => ([], some p)
    | .invalid => ([none], none)
  match pending? with
  | none => fresh
  | some p =>
    if p.low ≤ b && b ≤ p.high then
      let value := p.value * 64 + (b.toNat - 0x80)
      if p.missing = 1 then ([some (Char.ofNat value)], none)
      else ([], some ⟨value, p.missing - 1, 0x80, 0xbf⟩)
    else (none :: fresh.1, fresh.2)

/-- The parts of a byte sequence that is read on from an open character; a character open at the
end is an invalid part. -/
def partsFrom (pending? : Option Pending) : List UInt8 → List (Option Char)
  | [] => if pending?.isSome then [none] else []
  | b :: bs =>
    let r := stepByte pending? b
    r.1 ++ partsFrom r.2 bs

/-- The characters and invalid parts of a byte sequence. -/
def utf8Parts (bs : List UInt8) : List (Option Char) :=
  partsFrom none bs

/-- The text of a byte sequence, with one replacement character for each invalid part. -/
def decodeLossy (bs : List UInt8) : String :=
  String.ofList ((utf8Parts bs).map (·.getD '\ufffd'))

/-- The text of a byte sequence that has no invalid part. -/
def decode? (bs : List UInt8) : Option String :=
  ((utf8Parts bs).mapM id).map String.ofList

/-- The bytes of a text. -/
def encode (cs : List Char) : List UInt8 :=
  cs.flatMap String.utf8EncodeChar

/-- The bytes of a string. -/
def encodeText (s : String) : List UInt8 :=
  encode s.toList

end LinkWatch.Text
