/-
  FixedCapacity.Proofs.Text.Utf8 — characters written as UTF-8 and read again.

  A character is written as one to four bytes. The lead says how many follow and holds the
  next one to a range: `lead_three` and `lead_four` give that range, which leaves out just
  the overlong forms, the surrogates and what lies above U+10FFFF, none of which is a
  character. So the bytes of a character are read as that character, whatever follows them
  (`read_utf8EncodeChar`), and written text is read as it was (`decode?_encode`).
-/

import Mathlib
import FixedCapacity.Text.Utf8

namespace FixedCapacity.Text

/-! ## Leads -/

theorem toNat_byte {n : Nat} (h : n < 256) : (UInt8.ofNat n).toNat = n := by
  rw [UInt8.toNat_ofNat']
  exact Nat.mod_eq_of_lt h

/-- Whether a byte is what a lead promises as the next one. -/
def Lead.Admits (lead : Lead) (c : UInt8) : Prop := lead.low.toNat ≤ c.toNat ∧ c.toNat ≤ lead.high.toNat

section Lead

variable {b : UInt8}

theorem lead_two (h : 0xC2 ≤ b.toNat) (h' : b.toNat ≤ 0xDF) : Lead.ofByte? b = some ⟨1, 0x80, 0xBF⟩ := by
  rw [Lead.ofByte?, if_pos]
  simp only [UInt8.le_iff_toNat_le, UInt8.reduceToNat]
  omega

/-- The leads of three bytes keep out the overlong forms and the surrogates. -/
theorem lead_three (h : 0xE0 ≤ b.toNat) (h' : b.toNat ≤ 0xEF) :
    ∃ lead, Lead.ofByte? b = some lead ∧ lead.following = 2 ∧
      lead.low.toNat = (if b.toNat = 0xE0 then 0xA0 else 0x80) ∧
      lead.high.toNat = (if b.toNat = 0xED then 0x9F else 0xBF) := by
  simp only [Lead.ofByte?, UInt8.le_iff_toNat_le, ← UInt8.toNat_inj, UInt8.reduceToNat]
  rw [if_neg (by omega)]
  by_cases hfirst : b.toNat = 0xE0
  · simp [hfirst]
  by_cases hsurrogate : b.toNat = 0xED
  · simp [hsurrogate]
  rw [if_neg hfirst, if_neg hsurrogate, if_pos (by omega)]
  exact ⟨_, rfl, rfl, by simp [hfirst], by simp [hsurrogate]⟩

/-- The leads of four bytes keep out the overlong forms and what lies above U+10FFFF. -/
theorem lead_four (h : 0xF0 ≤ b.toNat) (h' : b.toNat ≤ 0xF4) :
    ∃ lead, Lead.ofByte? b = some lead ∧ lead.following = 3 ∧
      lead.low.toNat = (if b.toNat = 0xF0 then 0x90 else 0x80) ∧
      lead.high.toNat = (if b.toNat = 0xF4 then 0x8F else 0xBF) := by
  simp only [Lead.ofByte?, UInt8.le_iff_toNat_le, ← UInt8.toNat_inj, UInt8.reduceToNat]
  rw [if_neg (by omega), if_neg (by omega), if_neg (by omega), if_neg (by omega)]
  by_cases hfirst : b.toNat = 0xF0
  · simp [hfirst]
  by_cases hlast : b.toNat = 0xF4
  · simp [hlast]
  rw [if_neg hfirst, if_pos (by omega)]
  exact ⟨_, rfl, rfl, by simp [hfirst], by simp [hlast]⟩

theorem isContinuation_iff : isContinuation b = true ↔ 0x80 ≤ b.toNat ∧ b.toNat ≤ 0xBF := by
  simp [isContinuation, UInt8.le_iff_toNat_le]

end Lead

/-! ## One segment -/

section Read

variable {b c d e : UInt8} {lead : Lead}

theorem read_ascii (h : b.toNat < 0x80) (rest : List UInt8) :
    Segment.read b rest = (.char (Char.ofNat b.toNat), 0) := by
  rw [Segment.read, if_pos (UInt8.lt_iff_toNat_lt.mpr h)]

theorem not_ascii (h : 0x80 ≤ b.toNat) : ¬ b < 0x80 := UInt8.not_lt.mpr (UInt8.le_iff_toNat_le.mpr h)

theorem within_lead (h : lead.Admits c) : ¬ (c < lead.low ∨ lead.high < c) := by
  simp only [UInt8.lt_iff_toNat_lt]
  unfold Lead.Admits at h
  omega

theorem read_two (hlead : Lead.ofByte? b = some lead) (hb : 0x80 ≤ b.toNat) (hfollowing : lead.following = 1)
    (hc : lead.Admits c) (rest : List UInt8) :
    Segment.read b (c :: rest) = (.char (Char.ofNat (payload b 32 * 64 + payload c 64)), 1) := by
  simp only [Segment.read, if_neg (not_ascii hb), hlead, if_neg (within_lead hc), if_pos hfollowing]

theorem read_three (hlead : Lead.ofByte? b = some lead) (hb : 0x80 ≤ b.toNat) (hfollowing : lead.following = 2)
    (hc : lead.Admits c) (hd : isContinuation d = true)
    (rest : List UInt8) :
    Segment.read b (c :: d :: rest) =
      (.char (Char.ofNat ((payload b 16 * 64 + payload c 64) * 64 + payload d 64)), 2) := by
  simp [Segment.read, if_neg (not_ascii hb), hlead, if_neg (within_lead hc), hfollowing, hd]

theorem read_four (hlead : Lead.ofByte? b = some lead) (hb : 0x80 ≤ b.toNat) (hfollowing : lead.following = 3)
    (hc : lead.Admits c) (hd : isContinuation d = true)
    (he : isContinuation e = true) (rest : List UInt8) :
    Segment.read b (c :: d :: e :: rest) =
      (.char (Char.ofNat (((payload b 8 * 64 + payload c 64) * 64 + payload d 64) * 64 + payload e 64)), 3) := by
  simp [Segment.read, if_neg (not_ascii hb), hlead, if_neg (within_lead hc), hfollowing, hd, he]

end Read

/-! ## The four forms

The bytes into which a value is cut come together to the value again. -/

section Forms

variable {v : Nat} (rest : List UInt8)

theorem toNat_tail (v : Nat) : (UInt8.ofNat (v % 64 + 128)).toNat = v % 64 + 128 := toNat_byte (by omega)

theorem isContinuation_tail (v : Nat) : isContinuation (UInt8.ofNat (v % 64 + 128)) = true := by
  rw [isContinuation_iff, toNat_tail]
  omega

theorem read_form_one (h : v ≤ 127) : Segment.read (UInt8.ofNat v) rest = (.char (Char.ofNat v), 0) := by
  have hb : (UInt8.ofNat v).toNat = v := toNat_byte (by omega)
  rw [read_ascii (by omega), hb]

theorem read_form_two (h : 127 < v) (h' : v ≤ 2047) :
    Segment.read (UInt8.ofNat (v / 64 % 32 + 192)) (UInt8.ofNat (v % 64 + 128) :: rest) =
      (.char (Char.ofNat v), 1) := by
  have hb : (UInt8.ofNat (v / 64 % 32 + 192)).toNat = v / 64 % 32 + 192 := toNat_byte (by omega)
  have hc := toNat_tail v
  have hvalue : (v / 64 % 32 + 192) % 32 * 64 + (v % 64 + 128) % 64 = v := by omega
  have hadmits : Lead.Admits ⟨1, 0x80, 0xBF⟩ (UInt8.ofNat (v % 64 + 128)) := by
    unfold Lead.Admits
    simp only [UInt8.reduceToNat]
    omega
  rw [read_two (lead_two (by omega) (by omega)) (by omega) rfl hadmits, payload, payload, hb, hc, hvalue]

theorem read_form_three (h : 2047 < v) (h' : v ≤ 65535) (hvalid : v < 0xD800 ∨ 0xDFFF < v) :
    Segment.read (UInt8.ofNat (v / 4096 % 16 + 224))
        (UInt8.ofNat (v / 64 % 64 + 128) :: UInt8.ofNat (v % 64 + 128) :: rest) =
      (.char (Char.ofNat v), 2) := by
  have hb : (UInt8.ofNat (v / 4096 % 16 + 224)).toNat = v / 4096 % 16 + 224 := toNat_byte (by omega)
  obtain ⟨lead, hlead, hfollowing, hlow, hhigh⟩ :=
    lead_three (b := UInt8.ofNat (v / 4096 % 16 + 224)) (by omega) (by omega)
  -- The first lead leaves out what two bytes can hold, the lead of the surrogates those.
  have hc : lead.Admits (UInt8.ofNat (v / 64 % 64 + 128)) := by
    unfold Lead.Admits
    rw [hlow, hhigh, toNat_tail, hb]
    split <;> split <;> omega
  have hvalue : ((v / 4096 % 16 + 224) % 16 * 64 + (v / 64 % 64 + 128) % 64) * 64 + (v % 64 + 128) % 64 = v := by
    omega
  rw [read_three hlead (by omega) hfollowing hc (isContinuation_tail v), payload, payload, payload, hb,
    toNat_tail, toNat_tail, hvalue]

theorem read_form_four (h : 65535 < v) (hvalid : v < 0x110000) :
    Segment.read (UInt8.ofNat (v / 262144 % 8 + 240))
        (UInt8.ofNat (v / 4096 % 64 + 128) :: UInt8.ofNat (v / 64 % 64 + 128) ::
          UInt8.ofNat (v % 64 + 128) :: rest) =
      (.char (Char.ofNat v), 3) := by
  have hb : (UInt8.ofNat (v / 262144 % 8 + 240)).toNat = v / 262144 % 8 + 240 := toNat_byte (by omega)
  obtain ⟨lead, hlead, hfollowing, hlow, hhigh⟩ :=
    lead_four (b := UInt8.ofNat (v / 262144 % 8 + 240)) (by omega) (by omega)
  -- The first lead leaves out what three bytes can hold, the last one what is no character.
  have hc : lead.Admits (UInt8.ofNat (v / 4096 % 64 + 128)) := by
    unfold Lead.Admits
    rw [hlow, hhigh, toNat_tail, hb]
    split <;> split <;> omega
  have hvalue : (((v / 262144 % 8 + 240) % 8 * 64 + (v / 4096 % 64 + 128) % 64) * 64
      + (v / 64 % 64 + 128) % 64) * 64 + (v % 64 + 128) % 64 = v := by
    omega
  rw [read_four hlead (by omega) hfollowing hc (isContinuation_tail _) (isContinuation_tail _), payload,
    payload, payload, payload, hb, toNat_tail, toNat_tail, toNat_tail, hvalue]

end Forms

/-- The bytes of a character are read as that character, and no byte behind them is. -/
theorem read_utf8EncodeChar (c : Char) :
    ∃ b following, String.utf8EncodeChar c = b :: following ∧
      ∀ rest, Segment.read b (following ++ rest) = (.char c, following.length) := by
  have hvalid : c.val.toNat < 0xD800 ∨ 0xDFFF < c.val.toNat ∧ c.val.toNat < 0x110000 := c.valid
  have hchar : Char.ofNat c.val.toNat = c := Char.ofNat_toNat c
  rw [String.utf8EncodeChar]
  by_cases hone : c.val.toNat ≤ 127
  · refine ⟨_, [], by rw [if_pos hone], fun rest => ?_⟩
    exact (read_form_one rest hone).trans (by rw [hchar]; rfl)
  by_cases htwo : c.val.toNat ≤ 2047
  · refine ⟨_, [_], by rw [if_neg hone, if_pos htwo], fun rest => ?_⟩
    exact (read_form_two rest (by omega) htwo).trans (by rw [hchar]; rfl)
  by_cases hthree : c.val.toNat ≤ 65535
  · refine ⟨_, [_, _], by rw [if_neg hone, if_neg htwo, if_pos hthree], fun rest => ?_⟩
    exact (read_form_three rest (by omega) hthree (by omega)).trans (by rw [hchar]; rfl)
  · refine ⟨_, [_, _, _], by rw [if_neg hone, if_neg htwo, if_neg hthree], fun rest => ?_⟩
    exact (read_form_four rest (by omega) (by omega)).trans (by rw [hchar]; rfl)

/-! ## Rows of characters -/

theorem segments_encode (cs : List Char) : segments (encode cs) = cs.map .char := by
  induction cs with
  | nil => rw [encode, List.flatMap_nil, segments, List.map_nil]
  | cons c cs ih =>
    obtain ⟨b, following, hbytes, hread⟩ := read_utf8EncodeChar c
    have hsplit : encode (c :: cs) = b :: (following ++ encode cs) := by
      rw [encode, List.flatMap_cons, hbytes, List.cons_append, encode]
    rw [hsplit, segments, hread (encode cs)]
    simp only [List.drop_left, ih, List.map_cons]

theorem decode?_encode (cs : List Char) : decode? (encode cs) = some cs := by
  rw [decode?, segments_encode]
  induction cs with
  | nil => rfl
  | cons c cs ih => simp [Segment.char?, ih]

theorem encode_injective {cs cs' : List Char} (h : encode cs = encode cs') : cs = cs' := by
  have hread := congrArg decode? h
  rw [decode?_encode, decode?_encode] at hread
  exact Option.some.inj hread

example : encode ['a', 'é', '€'] = [0x61, 0xC3, 0xA9, 0xE2, 0x82, 0xAC] := by decide

end FixedCapacity.Text
