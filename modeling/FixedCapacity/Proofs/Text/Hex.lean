/-
  FixedCapacity.Proofs.Text.Hex — digits written and read again.

  A byte is sixteen times its high half plus its low half, and a digit is the value of a
  half. `read` is what digits denote, two at a time, as far as they can be read. What
  `encode` writes is read as it was (`read_encode`). The other way round, a row of digits
  comes back in upper case, and with a zero behind an odd last digit, which is a high half
  (`encode_read`).

  `denoted` says in numbers what digits stand for. Digits are read to the end as the bytes they stand
  for (`read_digits`), and a row with a bad one as far as the pair before it (`read_stopped`).
-/

import Mathlib
import FixedCapacity.Text.Hex

namespace FixedCapacity.Text.Hex

/-- A decimal digit, or a letter from a to f in either case. -/
def IsDigit (c : UInt8) : Prop :=
  (0x30 ≤ c ∧ c ≤ 0x39) ∨ (0x61 ≤ c ∧ c ≤ 0x66) ∨ (0x41 ≤ c ∧ c ≤ 0x46)

instance (c : UInt8) : Decidable (IsDigit c) := inferInstanceAs (Decidable (_ ∨ _))

/-- A letter of ASCII in upper case; all else stays. -/
def upper (c : UInt8) : UInt8 := if 0x61 ≤ c ∧ c ≤ 0x7A then c - 0x20 else c

/-- The value of a digit. -/
def worth (c : UInt8) : Nat := if c ≤ 0x39 then c.toNat - 0x30 else (upper c).toNat - 0x37

/-- Digits in upper case, with a zero behind an odd last one. -/
def filled (digits : List UInt8) : List UInt8 :=
  digits.map upper ++ if digits.length % 2 = 1 then [0x30] else []

/-- The bytes that digits denote, two digits at a time, up to a pair with a bad digit; and whether
there is none. -/
def read : List UInt8 → List UInt8 × Bool
  | [] => ([], true)
  | [high] =>
    match pair? high none with
    | some b => ([b], true)
    | none => ([], false)
  | high :: low :: rest =>
    match pair? high (some low) with
    | some b => (b :: (read rest).1, (read rest).2)
    | none => ([], false)

/-! ## Halves of a byte -/

theorem toNat_high (b : UInt8) : (b >>> 4).toNat = b.toNat / 16 := by
  simp [Nat.shiftRight_eq_div_pow]

theorem toNat_low (b : UInt8) : (b &&& 0x0F).toNat = b.toNat % 16 := by
  simpa using Nat.and_two_pow_sub_one_eq_mod b.toNat 4

theorem high_lt (b : UInt8) : b >>> 4 < 16 := by
  have hb := b.toNat_lt
  rw [UInt8.lt_iff_toNat_lt, toNat_high]
  exact Nat.div_lt_of_lt_mul hb

theorem low_lt (b : UInt8) : b &&& 0x0F < 16 := by
  rw [UInt8.lt_iff_toNat_lt, toNat_low]
  exact Nat.mod_lt _ (by decide)

theorem toNat_join {high low : UInt8} (hhigh : high < 16) (hlow : low < 16) :
    ((high <<< 4) ||| low).toNat = 16 * high.toNat + low.toNat := by
  have hhigh' : high.toNat < 16 := hhigh
  have hlow' : low.toNat < 2 ^ 4 := hlow
  have hshift : (high <<< 4).toNat = high.toNat <<< 4 := by
    simp [Nat.shiftLeft_eq]
    omega
  rw [UInt8.toNat_or, hshift, ← Nat.shiftLeft_add_eq_or_of_lt hlow', Nat.shiftLeft_eq]
  omega

theorem join_halves (b : UInt8) : ((b >>> 4) <<< 4) ||| (b &&& 0x0F) = b := by
  rw [← UInt8.toNat_inj, toNat_join (high_lt b) (low_lt b), toNat_high, toNat_low]
  omega

theorem high_join {high low : UInt8} (hhigh : high < 16) (hlow : low < 16) :
    ((high <<< 4) ||| low) >>> 4 = high := by
  have hlow' : low.toNat < 16 := hlow
  rw [← UInt8.toNat_inj, toNat_high, toNat_join hhigh hlow]
  omega

theorem low_join {high low : UInt8} (hhigh : high < 16) (hlow : low < 16) :
    ((high <<< 4) ||| low) &&& 0x0F = low := by
  have hlow' : low.toNat < 16 := hlow
  rw [← UInt8.toNat_inj, toNat_low, toNat_join hhigh hlow]
  omega

/-! ## Single digits -/

theorem digit?_digit {v : UInt8} (h : v < 16) : digit? (digit v) = some v := by
  by_cases hv : v < 10
  · rw [digit, if_pos hv, digit?, if_pos (by grind)]
    exact congrArg some (by grind)
  · rw [digit, if_neg hv, digit?, if_neg (by grind), if_neg (by grind), if_pos (by grind)]
    exact congrArg some (by grind)

/-- A digit has its value, and that value written again is the same digit in upper case. -/
theorem digit?_of_isDigit {c : UInt8} (hc : IsDigit c) :
    ∃ v, digit? c = some v ∧ v < 16 ∧ digit v = upper c ∧ v.toNat = worth c := by
  rcases hc with ⟨hlow, hhigh⟩ | ⟨hlow, hhigh⟩ | ⟨hlow, hhigh⟩
  · refine ⟨c - 0x30, by grind [digit?], by grind, ?_, ?_⟩
    · rw [digit, if_pos (by grind), upper, if_neg (by grind)]
      grind
    · rw [worth, if_pos (by grind), UInt8.toNat_sub_of_le _ _ hlow]
      rfl
  · have hlow' : 0x61 ≤ c.toNat := hlow
    have hhigh' : c.toNat ≤ 0x66 := hhigh
    refine ⟨c - 0x61 + 10, by grind [digit?], by grind, ?_, ?_⟩
    · rw [digit, if_neg (by grind), upper, if_pos (by grind)]
      grind
    · rw [worth, if_neg (by grind), upper, if_pos (by grind), UInt8.toNat_add, UInt8.toNat_sub_of_le _ _ hlow,
        UInt8.toNat_sub_of_le _ _ (show (0x20 : UInt8) ≤ c by grind)]
      show (c.toNat - 0x61 + 10) % 256 = c.toNat - 0x20 - 0x37
      omega
  · have hlow' : 0x41 ≤ c.toNat := hlow
    have hhigh' : c.toNat ≤ 0x46 := hhigh
    refine ⟨c - 0x41 + 10, by grind [digit?], by grind, ?_, ?_⟩
    · rw [digit, if_neg (by grind), upper, if_neg (by grind)]
      grind
    · rw [worth, if_neg (by grind), upper, if_neg (by grind), UInt8.toNat_add, UInt8.toNat_sub_of_le _ _ hlow]
      show (c.toNat - 0x41 + 10) % 256 = c.toNat - 0x37
      omega

theorem digit?_of_not_isDigit {c : UInt8} (hc : ¬ IsDigit c) : digit? c = none := by
  simp only [IsDigit, not_or] at hc
  obtain ⟨hdecimal, hlower, hupper⟩ := hc
  rw [digit?, if_neg hdecimal, if_neg hlower, if_neg hupper]

/-! ## Pairs -/

theorem pair?_ofByte (b : UInt8) : pair? (digit (b >>> 4)) (some (digit (b &&& 0x0F))) = some b := by
  simp [pair?, digit?_digit (high_lt b), digit?_digit (low_lt b), join_halves]

theorem ofByte_join {high low : UInt8} (hhigh : high < 16) (hlow : low < 16) :
    ofByte ((high <<< 4) ||| low) = [digit high, digit low] := by
  rw [ofByte, high_join hhigh hlow, low_join hhigh hlow]

theorem ofByte_pair? {high low : UInt8} (hhigh : IsDigit high) (hlow : IsDigit low) :
    ∃ b, pair? high (some low) = some b ∧ ofByte b = [upper high, upper low] := by
  obtain ⟨h, hh, hlt, hupper, -⟩ := digit?_of_isDigit hhigh
  obtain ⟨l, hl, hlt', hupper', -⟩ := digit?_of_isDigit hlow
  refine ⟨(h <<< 4) ||| l, by simp [pair?, hh, hl], ?_⟩
  rw [ofByte_join hlt hlt', hupper, hupper']

/-- A digit alone is a high half over a low half of zero. -/
theorem ofByte_pair?_alone {high : UInt8} (hhigh : IsDigit high) :
    ∃ b, pair? high none = some b ∧ ofByte b = [upper high, 0x30] := by
  obtain ⟨h, hh, hlt, hupper, -⟩ := digit?_of_isDigit hhigh
  refine ⟨(h <<< 4) ||| 0, by simp [pair?, hh], ?_⟩
  rw [ofByte_join hlt (by decide), hupper]
  rfl

/-! ## Rows of digits -/

theorem encode_cons (b : UInt8) (bytes : List UInt8) : encode (b :: bytes) = ofByte b ++ encode bytes := rfl

theorem length_encode (bytes : List UInt8) : (encode bytes).length = 2 * bytes.length := by
  induction bytes with
  | nil => rfl
  | cons b bytes ih =>
    rw [encode_cons, List.length_append, ih, List.length_cons, ofByte]
    simp only [List.length_cons, List.length_nil]
    omega

theorem read_encode (bytes : List UInt8) : read (encode bytes) = (bytes, true) := by
  induction bytes with
  | nil => rfl
  | cons b bytes ih =>
    rw [encode_cons, ofByte, List.cons_append, List.cons_append, List.nil_append, read, pair?_ofByte, ih]

theorem encode_injective {bytes bytes' : List UInt8} (h : encode bytes = encode bytes') : bytes = bytes' := by
  have hread := congrArg read h
  rw [read_encode, read_encode] at hread
  exact congrArg Prod.fst hread

theorem filled_cons_cons (high low : UInt8) (rest : List UInt8) :
    filled (high :: low :: rest) = upper high :: upper low :: filled rest := by
  have hparity : (rest.length + 1 + 1) % 2 = rest.length % 2 := by omega
  simp only [filled, List.map_cons, List.length_cons, hparity, List.cons_append]

/-- A row of digits is read to its end, and writing what was read fills it up. -/
theorem encode_read {digits : List UInt8} (h : ∀ c ∈ digits, IsDigit c) :
    (read digits).2 = true ∧ encode (read digits).1 = filled digits := by
  induction digits using List.twoStepInduction with
  | nil => exact ⟨rfl, rfl⟩
  | singleton high =>
    obtain ⟨b, hb, hdigits⟩ := ofByte_pair?_alone (h high (by simp))
    rw [read, hb]
    refine ⟨rfl, ?_⟩
    rw [encode_cons, hdigits]
    rfl
  | cons_cons high low rest ih _ =>
    obtain ⟨b, hb, hdigits⟩ := ofByte_pair? (h high (by simp)) (h low (by simp))
    obtain ⟨hend, hrest⟩ := ih fun c hc => h c (by simp [hc])
    rw [read, hb]
    refine ⟨hend, ?_⟩
    rw [encode_cons, hdigits, hrest, filled_cons_cons]
    rfl

theorem length_filled (digits : List UInt8) : (filled digits).length = 2 * ((digits.length + 1) / 2) := by
  rw [filled, List.length_append, List.length_map]
  split <;> simp only [List.length_cons, List.length_nil] <;> omega

/-- Pairs of upper-case digits are what the bytes they denote are written as. -/
theorem encode_read_of_pairs {digits : List UInt8} (heven : digits.length % 2 = 0)
    (hupper : ∀ c ∈ digits, IsDigit c ∧ upper c = c) : encode (read digits).1 = digits := by
  have hsame : digits.map upper = digits.map id := List.map_congr_left fun c hc => (hupper c hc).2
  rw [(encode_read fun c hc => (hupper c hc).1).2, filled, if_neg (by omega), List.append_nil, hsame,
    List.map_id]

theorem length_read_le (digits : List UInt8) : (read digits).1.length ≤ (digits.length + 1) / 2 := by
  induction digits using List.twoStepInduction with
  | nil => exact Nat.zero_le _
  | singleton high =>
    rw [read]
    split <;> simp
  | cons_cons high low rest ih _ =>
    rw [read]
    split
    · rw [List.length_cons, List.length_cons, List.length_cons]
      omega
    · exact Nat.zero_le _

/-! ## What digits stand for -/

/-- The values of the bytes that digits stand for, two at a time. A last one alone is a high half. -/
def denoted : List UInt8 → List Nat
  | [] => []
  | [high] => [16 * worth high]
  | high :: low :: rest => (16 * worth high + worth low) :: denoted rest

theorem length_denoted (digits : List UInt8) : (denoted digits).length = (digits.length + 1) / 2 := by
  induction digits using List.twoStepInduction with
  | nil => rfl
  | singleton high => simp [denoted]
  | cons_cons high low rest ih _ =>
    rw [denoted, List.length_cons, ih, List.length_cons, List.length_cons]
    omega

theorem pair?_denoted {high low : UInt8} (hhigh : IsDigit high) (hlow : IsDigit low) :
    ∃ b, pair? high (some low) = some b ∧ b.toNat = 16 * worth high + worth low := by
  obtain ⟨h, hh, hlt, -, hworth⟩ := digit?_of_isDigit hhigh
  obtain ⟨l, hl, hlt', -, hworth'⟩ := digit?_of_isDigit hlow
  refine ⟨(h <<< 4) ||| l, by simp [pair?, hh, hl], ?_⟩
  rw [toNat_join hlt hlt', hworth, hworth']

theorem pair?_denoted_alone {high : UInt8} (hhigh : IsDigit high) :
    ∃ b, pair? high none = some b ∧ b.toNat = 16 * worth high := by
  obtain ⟨h, hh, hlt, -, hworth⟩ := digit?_of_isDigit hhigh
  refine ⟨(h <<< 4) ||| 0, by simp [pair?, hh], ?_⟩
  rw [toNat_join hlt (by decide), hworth]
  rfl

theorem pair?_bad_high {high : UInt8} (hhigh : ¬ IsDigit high) (low : Option UInt8) : pair? high low = none := by
  rw [pair?, digit?_of_not_isDigit hhigh]
  rfl

theorem pair?_bad_low {low : UInt8} (high : UInt8) (hlow : ¬ IsDigit low) : pair? high (some low) = none := by
  simp [pair?, digit?_of_not_isDigit hlow]

/-- Digits are read to the end, as the bytes that they stand for. -/
theorem read_digits {digits : List UInt8} (h : ∀ c ∈ digits, IsDigit c) :
    (read digits).2 = true ∧ (read digits).1.map UInt8.toNat = denoted digits := by
  induction digits using List.twoStepInduction with
  | nil => exact ⟨rfl, rfl⟩
  | singleton high =>
    obtain ⟨b, hb, hvalue⟩ := pair?_denoted_alone (h high (by simp))
    rw [read, hb]
    exact ⟨rfl, congrArg (fun n => [n]) hvalue⟩
  | cons_cons high low rest ih _ =>
    obtain ⟨b, hb, hvalue⟩ := pair?_denoted (h high (by simp)) (h low (by simp))
    obtain ⟨hend, hrest⟩ := ih fun c hc => h c (by simp [hc])
    rw [read, hb]
    exact ⟨hend, congrArg₂ List.cons hvalue hrest⟩

/-- The reading stops at the first bad digit, whose pair is not read. -/
theorem read_stopped {front : List UInt8} (hfront : ∀ c ∈ front, IsDigit c) {bad : UInt8} (hbad : ¬ IsDigit bad)
    (rest : List UInt8) :
    (read (front ++ bad :: rest)).2 = false ∧
      (read (front ++ bad :: rest)).1.map UInt8.toNat = denoted (front.take (2 * (front.length / 2))) := by
  induction front using List.twoStepInduction with
  | nil =>
    cases rest with
    | nil =>
      rw [List.nil_append, read, pair?_bad_high hbad]
      exact ⟨rfl, rfl⟩
    | cons low rest =>
      rw [List.nil_append, read, pair?_bad_high hbad]
      exact ⟨rfl, rfl⟩
  | singleton high =>
    rw [List.singleton_append, read, pair?_bad_low high hbad]
    exact ⟨rfl, by simp [denoted]⟩
  | cons_cons high low front ih _ =>
    obtain ⟨b, hb, hvalue⟩ := pair?_denoted (hfront high (by simp)) (hfront low (by simp))
    obtain ⟨hend, hrest⟩ := ih fun c hc => hfront c (by simp [hc])
    have hpairs : 2 * ((high :: low :: front).length / 2) = 2 * (front.length / 2) + 1 + 1 := by
      rw [List.length_cons, List.length_cons]
      omega
    rw [List.cons_append, List.cons_append, read, hb, hpairs, List.take_succ_cons, List.take_succ_cons, denoted]
    exact ⟨hend, congrArg₂ List.cons hvalue hrest⟩

theorem exists_first_bad {digits : List UInt8} (h : ¬ ∀ c ∈ digits, IsDigit c) :
    ∃ front bad rest, digits = front ++ bad :: rest ∧ (∀ c ∈ front, IsDigit c) ∧ ¬ IsDigit bad := by
  induction digits with
  | nil => exact absurd nofun h
  | cons c rest ih =>
    by_cases hc : IsDigit c
    · obtain ⟨front, bad, rest, rfl, hfront, hbad⟩ := ih fun hrest => h (List.forall_mem_cons.mpr ⟨hc, hrest⟩)
      exact ⟨c :: front, bad, rest, rfl, List.forall_mem_cons.mpr ⟨hc, hfront⟩, hbad⟩
    · exact ⟨[], c, rest, rfl, nofun, hc⟩

theorem read_ends (digits : List UInt8) : (read digits).2 = decide (∀ c ∈ digits, IsDigit c) := by
  by_cases h : ∀ c ∈ digits, IsDigit c
  · rw [decide_eq_true h, (read_digits h).1]
  · obtain ⟨front, bad, rest, rfl, hfront, hbad⟩ := exists_first_bad h
    rw [decide_eq_false h, (read_stopped hfront hbad rest).1]

example : read [0x61, 0x42, 0x63] = ([0xAB, 0xC0], true) ∧ encode [0xAB, 0xC0] = filled [0x61, 0x42, 0x63] := by
  decide

end FixedCapacity.Text.Hex
