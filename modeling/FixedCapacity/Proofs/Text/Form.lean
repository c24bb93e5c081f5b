/-
  FixedCapacity.Proofs.Text.Form — which bytes are the form of a character.

  The form of a character is the row of its UTF-8 bytes (`String.utf8EncodeChar`). A reader knows forms
  by ranges of bytes: what a lead says of the bytes behind it is in `lead_range`, and bytes that keep to
  it are the form of the character that their payloads come to (`form_one` to `form_four`). With the
  reading of forms in `Utf8`, the ranges are exact. A byte below 0x80 is a form of its own and occurs in
  no other (`char_of_ascii`).
-/

import FixedCapacity.Proofs.Text.Utf8

namespace FixedCapacity.Text

open String (utf8EncodeChar)

variable {b c d e : UInt8} {lead : Lead}

/-! ## Leads -/

/-- Which bytes are leads, and what they promise. -/
theorem lead_range (h : Lead.ofByte? b = some lead) :
    (lead.following = 1 ∧ 0xC2 ≤ b.toNat ∧ b.toNat ≤ 0xDF ∧ lead.low.toNat = 0x80 ∧ lead.high.toNat = 0xBF) ∨
    (lead.following = 2 ∧ 0xE0 ≤ b.toNat ∧ b.toNat ≤ 0xEF ∧
      lead.low.toNat = (if b.toNat = 0xE0 then 0xA0 else 0x80) ∧
      lead.high.toNat = (if b.toNat = 0xED then 0x9F else 0xBF)) ∨
    (lead.following = 3 ∧ 0xF0 ≤ b.toNat ∧ b.toNat ≤ 0xF4 ∧
      lead.low.toNat = (if b.toNat = 0xF0 then 0x90 else 0x80) ∧
      lead.high.toNat = (if b.toNat = 0xF4 then 0x8F else 0xBF)) := by
  by_cases htwo : 0xC2 ≤ b.toNat ∧ b.toNat ≤ 0xDF
  · rw [lead_two htwo.1 htwo.2] at h
    cases h
    exact .inl ⟨rfl, htwo.1, htwo.2, rfl, rfl⟩
  by_cases hthree : 0xE0 ≤ b.toNat ∧ b.toNat ≤ 0xEF
  · obtain ⟨lead', hlead, hfollowing, hlow, hhigh⟩ := lead_three hthree.1 hthree.2
    rw [hlead] at h
    cases h
    exact .inr (.inl ⟨hfollowing, hthree.1, hthree.2, hlow, hhigh⟩)
  by_cases hfour : 0xF0 ≤ b.toNat ∧ b.toNat ≤ 0xF4
  · obtain ⟨lead', hlead, hfollowing, hlow, hhigh⟩ := lead_four hfour.1 hfour.2
    rw [hlead] at h
    cases h
    exact .inr (.inr ⟨hfollowing, hfour.1, hfour.2, hlow, hhigh⟩)
  have hnone : Lead.ofByte? b = none := by
    simp only [Lead.ofByte?, UInt8.le_iff_toNat_le, ← UInt8.toNat_inj, UInt8.reduceToNat]
    repeat rw [if_neg (by omega)]
  rw [hnone] at h
  cases h

theorem not_ascii_of_lead (h : Lead.ofByte? b = some lead) : 0x80 ≤ b.toNat := by
  rcases lead_range h with ⟨-, hb, -⟩ | ⟨-, hb, -⟩ | ⟨-, hb, -⟩ <;> omega

theorem following_of_lead (h : Lead.ofByte? b = some lead) :
    lead.following = 1 ∨ lead.following = 2 ∨ lead.following = 3 := by
  rcases lead_range h with ⟨hone, -⟩ | ⟨htwo, -⟩ | ⟨hthree, -⟩
  · exact .inl hone
  · exact .inr (.inl htwo)
  · exact .inr (.inr hthree)

/-- Every lead admits some byte. -/
theorem admits_low (h : Lead.ofByte? b = some lead) : lead.Admits lead.low := by
  refine ⟨Nat.le_refl _, ?_⟩
  rcases lead_range h with ⟨-, -, -, hlow, hhigh⟩ | ⟨-, -, -, hlow, hhigh⟩ | ⟨-, -, -, hlow, hhigh⟩
  · omega
  all_goals
    rw [hlow, hhigh]
    split <;> split <;> omega

/-- What a lead admits continues a form. -/
theorem tail_of_admits (h : Lead.ofByte? b = some lead) (hc : lead.Admits c) : 0x80 ≤ c.toNat ∧ c.toNat ≤ 0xBF := by
  obtain ⟨hc, hc'⟩ := hc
  rcases lead_range h with ⟨-, -, -, hlow, hhigh⟩ | ⟨-, -, -, hlow, hhigh⟩ | ⟨-, -, -, hlow, hhigh⟩
  · omega
  all_goals
    rw [hlow] at hc
    rw [hhigh] at hc'
    split at hc <;> split at hc' <;> omega

/-! ## Bytes that are a form

The value that the payloads come to is a scalar value, and its form is the bytes it was read from. -/

theorem toNat_scalar {v : Nat} (h : v < 0xD800 ∨ 0xDFFF < v ∧ v < 0x110000) : (Char.ofNat v).val.toNat = v := by
  have hvalue := Char.toNat_ofNat v
  rwa [if_pos h] at hvalue

theorem ofNat_of_toNat {n : Nat} (h : n = b.toNat) : UInt8.ofNat n = b := by
  rw [h, UInt8.ofNat_toNat]

theorem form_one (h : b.toNat < 0x80) : utf8EncodeChar (Char.ofNat b.toNat) = [b] := by
  rw [utf8EncodeChar, toNat_scalar (by omega), if_pos (by omega), UInt8.ofNat_toNat]

theorem form_two (hlead : Lead.ofByte? b = some lead) (hfollowing : lead.following = 1) (hc : lead.Admits c) :
    utf8EncodeChar (Char.ofNat (payload b 32 * 64 + payload c 64)) = [b, c] := by
  have htail := tail_of_admits hlead hc
  rcases lead_range hlead with ⟨-, hb, hb', -⟩ | ⟨h, -⟩ | ⟨h, -⟩
  case inr.inl | inr.inr => omega
  unfold payload
  rw [utf8EncodeChar, toNat_scalar (by omega), if_neg (by omega), if_pos (by omega),
    ofNat_of_toNat (b := b) (by omega), ofNat_of_toNat (b := c) (by omega)]

theorem form_three (hlead : Lead.ofByte? b = some lead) (hfollowing : lead.following = 2) (hc : lead.Admits c)
    (hd : isContinuation d = true) :
    utf8EncodeChar (Char.ofNat ((payload b 16 * 64 + payload c 64) * 64 + payload d 64)) = [b, c, d] := by
  have htail := tail_of_admits hlead hc
  obtain ⟨hc, hc'⟩ := hc
  rw [isContinuation_iff] at hd
  rcases lead_range hlead with ⟨h, -⟩ | ⟨-, hb, hb', hlow, hhigh⟩ | ⟨h, -⟩
  case inl | inr.inr => omega
  unfold payload
  -- The first lead keeps the value above what two bytes hold, the lead of the surrogates below those.
  obtain ⟨hlong, hscalar⟩ : 0x800 ≤ (b.toNat % 16 * 64 + c.toNat % 64) * 64 + d.toNat % 64 ∧
      ((b.toNat % 16 * 64 + c.toNat % 64) * 64 + d.toNat % 64 < 0xD800 ∨
        0xDFFF < (b.toNat % 16 * 64 + c.toNat % 64) * 64 + d.toNat % 64) := by
    rw [hlow] at hc
    rw [hhigh] at hc'
    split at hc <;> split at hc' <;> omega
  rw [utf8EncodeChar, toNat_scalar (by omega), if_neg (by omega), if_neg (by omega), if_pos (by omega),
    ofNat_of_toNat (b := b) (by omega), ofNat_of_toNat (b := c) (by omega), ofNat_of_toNat (b := d) (by omega)]

theorem form_four (hlead : Lead.ofByte? b = some lead) (hfollowing : lead.following = 3) (hc : lead.Admits c)
    (hd : isContinuation d = true) (he : isContinuation e = true) :
    utf8EncodeChar
        (Char.ofNat (((payload b 8 * 64 + payload c 64) * 64 + payload d 64) * 64 + payload e 64)) =
      [b, c, d, e] := by
  have htail := tail_of_admits hlead hc
  obtain ⟨hc, hc'⟩ := hc
  rw [isContinuation_iff] at hd he
  rcases lead_range hlead with ⟨h, -⟩ | ⟨h, -⟩ | ⟨-, hb, hb', hlow, hhigh⟩
  case inl | inr.inl => omega
  unfold payload
  -- The first lead keeps the value above what three bytes hold, the last one below what is no character.
  obtain ⟨hlong, hscalar⟩ :
      0x10000 ≤ ((b.toNat % 8 * 64 + c.toNat % 64) * 64 + d.toNat % 64) * 64 + e.toNat % 64 ∧
      ((b.toNat % 8 * 64 + c.toNat % 64) * 64 + d.toNat % 64) * 64 + e.toNat % 64 < 0x110000 := by
    rw [hlow] at hc
    rw [hhigh] at hc'
    split at hc <;> split at hc' <;> omega
  rw [utf8EncodeChar, toNat_scalar (by omega), if_neg (by omega), if_neg (by omega), if_neg (by omega),
    ofNat_of_toNat (b := b) (by omega), ofNat_of_toNat (b := c) (by omega), ofNat_of_toNat (b := d) (by omega),
    ofNat_of_toNat (b := e) (by omega)]

/-! ## Bytes below 0x80 -/

/-- A byte below 0x80 stands for itself, never for a part of a longer form. -/
theorem char_of_ascii {c : Char} (hb : b ∈ utf8EncodeChar c) (h : b.toNat < 0x80) : c = Char.ofNat b.toNat := by
  have hvalid : c.val.toNat < 0xD800 ∨ 0xDFFF < c.val.toNat ∧ c.val.toNat < 0x110000 := c.valid
  rw [utf8EncodeChar] at hb
  split_ifs at hb with hone htwo hthree
  case pos =>
    rw [List.mem_singleton] at hb
    rw [hb, toNat_byte (by omega)]
    exact (Char.ofNat_toNat c).symm
  -- Every byte of the longer forms has its highest bit.
  all_goals
    simp only [List.mem_cons, List.not_mem_nil, or_false] at hb
    rcases hb with rfl | rfl | rfl | rfl
    all_goals
      rw [toNat_byte (by omega)] at h
      omega

end FixedCapacity.Text
