import LinkWatch.Text.Utf8

/-!
# Encoded texts are read back

The bytes of a character are read one after the other: the first one promises how many are to come
and in which range the next one lies, and the last one completes the character. The number that the
bytes stand for is followed through these steps. Nothing is open after a whole character, so reading
goes on behind it as if nothing had been before.
-/

namespace LinkWatch.Text

/-! ## Single bytes -/

theorem toNat_ofNat {k : Nat} (h : k < 256) : (UInt8.ofNat k).toNat = k := by
  rw [UInt8.toNat_ofNat', Nat.mod_eq_of_lt h]

/-- What a first byte promises, told by its number. -/
theorem lead_ofNat {k : Nat} (h : k < 256) : lead (.ofNat k) =
    if k < 0x80 then .complete (Char.ofNat k)
    else if k < 0xc2 then .invalid
    else if k < 0xe0 then .begins ⟨k - 0xc0, 1, 0x80, 0xbf⟩
    else if k = 0xe0 then .begins ⟨0x0, 2, 0xa0, 0xbf⟩
    else if k = 0xed then .begins ⟨0xd, 2, 0x80, 0x9f⟩
    else if k < 0xf0 then .begins ⟨k - 0xe0, 2, 0x80, 0xbf⟩
    else if k = 0xf0 then .begins ⟨0x0, 3, 0x90, 0xbf⟩
    else if k < 0xf4 then .begins ⟨k - 0xf0, 3, 0x80, 0xbf⟩
    else if k = 0xf4 then .begins ⟨0x4, 3, 0x80, 0x8f⟩
    else .invalid := by
  have hnat := toNat_ofNat h
  simp [lead, UInt8.lt_iff_toNat_lt, ← UInt8.toNat_inj, hnat]

/-- A byte in the range that an open character expects goes into it. -/
theorem stepByte_open {p : Pending} {k : Nat} (hlow : p.low.toNat ≤ k) (hhigh : k ≤ p.high.toNat) :
    stepByte (some p) (.ofNat k) =
      if p.missing = 1 then ([some (Char.ofNat (p.value * 64 + (k - 0x80)))], none)
      else ([], some ⟨p.value * 64 + (k - 0x80), p.missing - 1, 0x80, 0xbf⟩) := by
  have hnat : (UInt8.ofNat k).toNat = k := toNat_ofNat (Nat.lt_of_le_of_lt hhigh p.high.toNat_lt)
  simp [stepByte, UInt8.le_iff_toNat_le, hnat, hlow, hhigh]

/-! ## Whole characters -/

/-- A byte of the ASCII range is a character of its own. -/
theorem partsFrom_one {k : Nat} (h : k < 0x80) (bs : List UInt8) :
    partsFrom none (.ofNat k :: bs) = some (Char.ofNat k) :: partsFrom none bs := by
  have hlead := lead_ofNat (show k < 256 by omega)
  rw [if_pos h] at hlead
  rw [partsFrom, stepByte, hlead]
  rfl

/-- Bytes that begin a character and fill it. -/
theorem partsFrom_begins {k : Nat} {p : Pending} (hlead : lead (.ofNat k) = .begins p)
    (bs : List UInt8) : partsFrom none (.ofNat k :: bs) = partsFrom (some p) bs := by
  rw [partsFrom, stepByte, hlead]
  rfl

theorem partsFrom_last {value k : Nat} {low high : UInt8} (hlow : low.toNat ≤ k)
    (hhigh : k ≤ high.toNat) (bs : List UInt8) :
    partsFrom (some ⟨value, 1, low, high⟩) (.ofNat k :: bs) =
      some (Char.ofNat (value * 64 + (k - 0x80))) :: partsFrom none bs := by
  rw [partsFrom, stepByte_open hlow hhigh]
  rfl

/-- A byte before the last one leaves one byte less to come, of the full range. -/
theorem partsFrom_more {value missing k : Nat} {low high : UInt8} (hlow : low.toNat ≤ k)
    (hhigh : k ≤ high.toNat) (bs : List UInt8) :
    partsFrom (some ⟨value, missing + 2, low, high⟩) (.ofNat k :: bs) =
      partsFrom (some ⟨value * 64 + (k - 0x80), missing + 1, 0x80, 0xbf⟩) bs := by
  rw [partsFrom, stepByte_open hlow hhigh]
  rfl

/-- The first of three bytes leaves room for the second one: overlong forms and surrogates are kept
out by the range of the second byte alone. -/
theorem lead_three {n : Nat} (hlow : 0x7ff < n) (hhigh : n ≤ 0xffff)
    (hvalid : n < 0xd800 ∨ 0xdfff < n) :
    ∃ low high : UInt8, lead (.ofNat (n / 4096 % 16 + 0xe0)) = .begins ⟨n / 4096, 2, low, high⟩ ∧
      low.toNat ≤ n / 64 % 64 + 0x80 ∧ n / 64 % 64 + 0x80 ≤ high.toNat := by
  have hlead := lead_ofNat (show n / 4096 % 16 + 0xe0 < 256 by omega)
  rw [if_neg (by omega), if_neg (by omega), if_neg (by omega)] at hlead
  by_cases hfirst : n / 4096 = 0
  · rw [if_pos (by omega)] at hlead
    exact ⟨0xa0, 0xbf, by rw [hlead, hfirst], by simp; omega, by simp; omega⟩
  · rw [if_neg (by omega)] at hlead
    by_cases hsurrogate : n / 4096 = 0xd
    · rw [if_pos (by omega)] at hlead
      exact ⟨0x80, 0x9f, by rw [hlead, hsurrogate], by simp, by simp; omega⟩
    · rw [if_neg (by omega), if_pos (by omega)] at hlead
      have hvalue : n / 4096 % 16 + 0xe0 - 0xe0 = n / 4096 := by omega
      exact ⟨0x80, 0xbf, by rw [hlead, hvalue], by simp, by simp; omega⟩

/-- The first of four bytes leaves room for the second one: overlong forms and values above the last
code point are kept out by the range of the second byte alone. -/
theorem lead_four {n : Nat} (hlow : 0xffff < n) (hhigh : n < 0x110000) :
    ∃ low high : UInt8,
      lead (.ofNat (n / 262144 % 8 + 0xf0)) = .begins ⟨n / 262144, 3, low, high⟩ ∧
      low.toNat ≤ n / 4096 % 64 + 0x80 ∧ n / 4096 % 64 + 0x80 ≤ high.toNat := by
  have hlead := lead_ofNat (show n / 262144 % 8 + 0xf0 < 256 by omega)
  rw [if_neg (by omega), if_neg (by omega), if_neg (by omega), if_neg (by omega),
    if_neg (by omega), if_neg (by omega)] at hlead
  by_cases hfirst : n / 262144 = 0
  · rw [if_pos (by omega)] at hlead
    exact ⟨0x90, 0xbf, by rw [hlead, hfirst], by simp; omega, by simp; omega⟩
  · rw [if_neg (by omega)] at hlead
    by_cases hlast : n / 262144 = 4
    · rw [if_neg (by omega), if_pos (by omega)] at hlead
      exact ⟨0x80, 0x8f, by rw [hlead, hlast], by simp, by simp; omega⟩
    · rw [if_pos (by omega)] at hlead
      have hvalue : n / 262144 % 8 + 0xf0 - 0xf0 = n / 262144 := by omega
      exact ⟨0x80, 0xbf, by rw [hlead, hvalue], by simp, by simp; omega⟩

/-- The bytes of a character are read as that character, whatever follows them. -/
theorem partsFrom_utf8EncodeChar (c : Char) (bs : List UInt8) :
    partsFrom none (String.utf8EncodeChar c ++ bs) = some c :: partsFrom none bs := by
  have hvalid : c.toNat < 0xd800 ∨ 0xdfff < c.toNat ∧ c.toNat < 0x110000 := c.valid
  have hchar : Char.ofNat c.toNat = c := Char.ofNat_toNat c
  have hencode : String.utf8EncodeChar c =
    if c.toNat ≤ 0x7f then [UInt8.ofNat c.toNat]
    else if c.toNat ≤ 0x7ff then
      [.ofNat (c.toNat / 64 % 32 + 0xc0), .ofNat (c.toNat % 64 + 0x80)]
    else if c.toNat ≤ 0xffff then
      [.ofNat (c.toNat / 4096 % 16 + 0xe0), .ofNat (c.toNat / 64 % 64 + 0x80),
        .ofNat (c.toNat % 64 + 0x80)]
    else
      [.ofNat (c.toNat / 262144 % 8 + 0xf0), .ofNat (c.toNat / 4096 % 64 + 0x80),
        .ofNat (c.toNat / 64 % 64 + 0x80), .ofNat (c.toNat % 64 + 0x80)] := rfl
  generalize c.toNat = n at hvalid hchar hencode
  rw [hencode]
  by_cases hone : n ≤ 0x7f
  · rw [if_pos hone, List.singleton_append, partsFrom_one (by omega), hchar]
  rw [if_neg hone]
  by_cases htwo : n ≤ 0x7ff
  · have hlead := lead_ofNat (show n / 64 % 32 + 0xc0 < 256 by omega)
    rw [if_neg (by omega), if_neg (by omega), if_pos (by omega)] at hlead
    have hvalue : (n / 64 % 32 + 0xc0 - 0xc0) * 64 + (n % 64 + 0x80 - 0x80) = n := by omega
    rw [if_pos htwo, List.cons_append, List.singleton_append, partsFrom_begins hlead,
      partsFrom_last (by simp) (by simp; omega), hvalue, hchar]
  rw [if_neg htwo]
  by_cases hthree : n ≤ 0xffff
  · obtain ⟨low, high, hlead, hbelow, habove⟩ := lead_three (by omega) hthree (by omega)
    have hvalue : (n / 4096 * 64 + (n / 64 % 64 + 0x80 - 0x80)) * 64 + (n % 64 + 0x80 - 0x80) =
        n := by omega
    rw [if_pos hthree, List.cons_append, List.cons_append, List.singleton_append,
      partsFrom_begins hlead, partsFrom_more hbelow habove,
      partsFrom_last (by simp) (by simp; omega), hvalue, hchar]
  · obtain ⟨low, high, hlead, hbelow, habove⟩ := lead_four (by omega) (by omega : n < 0x110000)
    have hvalue : ((n / 262144 * 64 + (n / 4096 % 64 + 0x80 - 0x80)) * 64 +
        (n / 64 % 64 + 0x80 - 0x80)) * 64 + (n % 64 + 0x80 - 0x80) = n := by omega
    rw [if_neg hthree, List.cons_append, List.cons_append, List.cons_append,
      List.singleton_append, partsFrom_begins hlead, partsFrom_more hbelow habove,
      partsFrom_more (by simp) (by simp; omega), partsFrom_last (by simp) (by simp; omega),
      hvalue, hchar]

/-! ## Texts -/

/-- The bytes of a text are read as its characters, whatever follows them. -/
theorem utf8Parts_encode_append (cs : List Char) (bs : List UInt8) :
    utf8Parts (encode cs ++ bs) = cs.map some ++ utf8Parts bs := by
  induction cs with
  | nil => rfl
  | cons c cs ih =>
    have hcons : encode (c :: cs) = String.utf8EncodeChar c ++ encode cs := rfl
    rw [utf8Parts] at ih ⊢
    rw [hcons, List.append_assoc, partsFrom_utf8EncodeChar, ih]
    rfl

/-- Encoded characters are decoded as themselves, without a part that is invalid. -/
theorem utf8Parts_encode (cs : List Char) : utf8Parts (encode cs) = cs.map some := by
  have hparts := utf8Parts_encode_append cs []
  rw [List.append_nil] at hparts
  rw [hparts]
  exact List.append_nil _

/-- The lenient reading keeps a text in front of any bytes. -/
theorem decodeLossy_encodeText_append (s : String) (bs : List UInt8) :
    decodeLossy (encodeText s ++ bs) = s ++ decodeLossy bs := by
  rw [← String.toList_inj, String.toList_append, decodeLossy, decodeLossy, encodeText,
    utf8Parts_encode_append, List.map_append, List.map_map, String.toList_ofList,
    String.toList_ofList]
  congr 1
  exact List.map_id _

/-- **The bytes of a text are read back as that text.** -/
theorem decode?_encodeText (s : String) : decode? (encodeText s) = some s := by
  have hall (cs : List Char) : (cs.map some).mapM id = some cs := by
    induction cs with
    | nil => rfl
    | cons c cs ih =>
      rw [List.map_cons, List.mapM_cons, ih]
      rfl
  rw [decode?, encodeText, utf8Parts_encode, hall, Option.map_some, String.ofList_toList]

end LinkWatch.Text
