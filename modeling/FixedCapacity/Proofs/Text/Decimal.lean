/-
  FixedCapacity.Proofs.Text.Decimal — numbers written in decimal and read again.

  `Positive` and `Numeral` say what a numeral of a number is: digits, each ten times what
  stands before it and itself, none of them a leading zero, with `-` in front for a negative
  number. Which texts these are is said without the number by `Canonical`
  (`canonical_iff`). What a number is written as is its one numeral
  (`Numeral.iff`), and a numeral is read as its number (`parse?_numeral`). `Digits` are rows of
  digits with any zeros in front; they are what is read as a natural number
  (`natural?_eq_some_iff`).
-/

import Mathlib
import FixedCapacity.Text.Decimal
import FixedCapacity.Text.Blank
import FixedCapacity.Text.Utf8

namespace FixedCapacity.Text

/-- The digit with this value. -/
def digitChar (d : Nat) : Char := Char.ofNat (0x30 + d)

/-- One or more digits and what they are worth, zeros in front included. -/
inductive Digits : Nat → List Char → Prop
  | digit {d : Nat} (hd : d < 10) : Digits d [digitChar d]
  | snoc {n d : Nat} {cs : List Char} (hn : Digits n cs) (hd : d < 10) : Digits (10 * n + d) (cs ++ [digitChar d])

/-- The digits of a positive number, the first of them not zero. -/
inductive Positive : Nat → List Char → Prop
  | digit {d : Nat} (hpos : 0 < d) (hd : d < 10) : Positive d [digitChar d]
  | snoc {n d : Nat} {cs : List Char} (hn : Positive n cs) (hd : d < 10) :
      Positive (10 * n + d) (cs ++ [digitChar d])

/-- The canonical text of an integer. -/
inductive Numeral : Int → List Char → Prop
  | zero : Numeral 0 ['0']
  | positive {n : Nat} {cs : List Char} (hn : Positive n cs) : Numeral n cs
  | negative {n : Nat} {cs : List Char} (hn : Positive n cs) : Numeral (-n) ('-' :: cs)

/-- Digits, the first of them not zero. -/
def Leading (cs : List Char) : Prop := cs.all isDigit = true ∧ ∃ c, cs.head? = some c ∧ c ≠ '0'

/-- A zero alone, or digits with no zero in front and at most a `-`. -/
def Canonical (cs : List Char) : Prop := cs = ['0'] ∨ Leading cs ∨ ∃ rest, cs = '-' :: rest ∧ Leading rest

variable {n d : Nat} {cs : List Char}

/-! ## Digits -/

theorem toNat_digitChar (hd : d < 10) : (digitChar d).toNat = 0x30 + d := by
  rw [digitChar, Char.toNat_ofNat, if_pos]
  exact .inl (by omega)

theorem isDigit_iff (c : Char) : isDigit c = true ↔ 0x30 ≤ c.toNat ∧ c.toNat ≤ 0x39 := by
  simp [isDigit, Char.le_def, UInt32.le_iff_toNat_le]

theorem isDigit_digitChar (hd : d < 10) : isDigit (digitChar d) = true := by
  rw [isDigit_iff, toNat_digitChar hd]
  omega

theorem exists_digitChar {c : Char} (hc : isDigit c = true) : ∃ d < 10, c = digitChar d := by
  rw [isDigit_iff] at hc
  refine ⟨c.toNat - 0x30, by omega, ?_⟩
  rw [digitChar, show 0x30 + (c.toNat - 0x30) = c.toNat by omega, Char.ofNat_toNat]

theorem digits_digit (hd : d < 10) : digits d = [digitChar d] := by
  rw [digits, if_pos hd, digitChar]

theorem digits_snoc (hn : 0 < n) (hd : d < 10) : digits (10 * n + d) = digits n ++ [digitChar d] := by
  rw [digits, if_neg (by omega), show (10 * n + d) / 10 = n by omega, show (10 * n + d) % 10 = d by omega, digitChar]

/-! ## Rows of digits -/

namespace Digits

theorem all (h : Digits n cs) : cs.all isDigit = true := by
  induction h with
  | digit hd => simp [isDigit_digitChar hd]
  | snoc hn hd ih => simp [ih, isDigit_digitChar hd]

theorem ne_nil (h : Digits n cs) : cs ≠ [] := by cases h <;> simp

/-- The digits denote the number. -/
theorem foldl_eq (h : Digits n cs) : cs.foldl (fun n c => 10 * n + (c.toNat - 0x30)) 0 = n := by
  induction h with
  | @digit d hd => simp [toNat_digitChar hd]
  | @snoc n d cs hn hd ih =>
    rw [List.foldl_append, ih, List.foldl_cons, List.foldl_nil, toNat_digitChar hd]
    omega

theorem of_all (hne : cs ≠ []) (h : cs.all isDigit = true) : ∃ n, Digits n cs := by
  induction cs using List.reverseRecOn with
  | nil => exact absurd rfl hne
  | append_singleton cs c ih =>
    simp only [List.all_append, List.all_cons, List.all_nil, Bool.and_true, Bool.and_eq_true] at h
    obtain ⟨d, hd, rfl⟩ := exists_digitChar h.2
    by_cases hnil : cs = []
    · subst hnil
      exact ⟨d, .digit hd⟩
    · obtain ⟨n, hn⟩ := ih hnil h.1
      exact ⟨10 * n + d, hn.snoc hd⟩

end Digits

theorem natural?_eq_some_iff : natural? cs = some n ↔ Digits n cs := by
  unfold natural?
  constructor
  · intro h
    split at h
    case isTrue => cases h
    case isFalse hdigits =>
      simp only [Bool.or_eq_true, List.isEmpty_iff, Bool.not_eq_true', not_or, Bool.not_eq_false] at hdigits
      obtain ⟨m, hm⟩ := Digits.of_all hdigits.1 hdigits.2
      rw [hm.foldl_eq, Option.some.injEq] at h
      exact h ▸ hm
  · intro h
    rw [if_neg (by simp [h.ne_nil, h.all]), h.foldl_eq]

/-! ## Positive numbers -/

namespace Positive

theorem pos (h : Positive n cs) : 0 < n := by
  induction h with
  | digit hpos => exact hpos
  | snoc hn hd ih => omega

/-- A positive number has one row of digits. -/
theorem digits_eq (h : Positive n cs) : digits n = cs := by
  induction h with
  | digit hpos hd => exact digits_digit hd
  | snoc hn hd ih => rw [digits_snoc hn.pos hd, ih]

theorem of_digits (h : 0 < n) : Positive n (digits n) := by
  induction n using digits.induct with
  | case1 n hlt =>
    rw [digits_digit hlt]
    exact .digit h hlt
  | case2 n hge ih =>
    have hsnoc := snoc (ih (by omega)) (show n % 10 < 10 by omega)
    rwa [← digits_snoc (by omega) (by omega), Nat.div_add_mod] at hsnoc

theorem toDigits (h : Positive n cs) : Digits n cs := by
  induction h with
  | digit hpos hd => exact .digit hd
  | snoc hn hd ih => exact ih.snoc hd

theorem leading (h : Positive n cs) : Leading cs := by
  refine ⟨h.toDigits.all, ?_⟩
  induction h with
  | @digit d hpos hd =>
    refine ⟨digitChar d, rfl, fun hzero => ?_⟩
    have hvalue := congrArg Char.toNat hzero
    rw [toNat_digitChar hd] at hvalue
    change 0x30 + d = 0x30 at hvalue
    omega
  | snoc hn hd ih =>
    obtain ⟨c, hhead, hc⟩ := ih
    exact ⟨c, by simp [List.head?_append, hhead], hc⟩

theorem natural? (h : Positive n cs) : natural? cs = some n := natural?_eq_some_iff.mpr h.toDigits

end Positive

/-- Digits with no zero in front are those of some number. -/
theorem Leading.positive (h : Leading cs) : ∃ n, Positive n cs := by
  -- The last digit is taken off; what is left has the same first digit, if there is any.
  induction cs using List.reverseRecOn with
  | nil => simp [Leading] at h
  | append_singleton cs c ih =>
    obtain ⟨hdigits, first, hhead, hfirst⟩ := h
    simp only [List.all_append, List.all_cons, List.all_nil, Bool.and_true, Bool.and_eq_true] at hdigits
    obtain ⟨d, hd, rfl⟩ := exists_digitChar hdigits.2
    cases cs with
    | nil =>
      rw [List.nil_append, List.head?_cons, Option.some.injEq] at hhead
      subst hhead
      refine ⟨d, .digit (Nat.pos_of_ne_zero fun hzero => hfirst ?_) hd⟩
      rw [hzero]
      rfl
    | cons head rest =>
      obtain ⟨n, hn⟩ := ih ⟨hdigits.1, first, by simpa using hhead, hfirst⟩
      exact ⟨10 * n + d, hn.snoc hd⟩

/-! ## Integers -/

/-- The texts that are numerals. -/
theorem canonical_iff : Canonical cs ↔ ∃ n, Numeral n cs := by
  constructor
  · rintro (rfl | h | ⟨rest, rfl, h⟩)
    · exact ⟨0, .zero⟩
    · obtain ⟨n, hn⟩ := h.positive
      exact ⟨n, .positive hn⟩
    · obtain ⟨n, hn⟩ := h.positive
      exact ⟨-n, .negative hn⟩
  · rintro ⟨n, h⟩
    cases h with
    | zero => exact .inl rfl
    | positive hn => exact .inr (.inl hn.leading)
    | negative hn => exact .inr (.inr ⟨_, rfl, hn.leading⟩)

theorem signed_zero : (signed 0).flatten = ['0'] := by
  rw [signed, Int.natAbs_zero, digits_digit (by decide)]
  rfl

theorem signed_positive (hn : Positive n cs) : (signed n).flatten = cs := by
  have hsign : ¬ (n : Int) < 0 := by omega
  simp [signed, sign, hsign, hn.digits_eq]

theorem signed_negative (hn : Positive n cs) : (signed (-n)).flatten = '-' :: cs := by
  simp [signed, sign, hn.pos, hn.digits_eq]

/-- The numeral of a number is what it is written as. -/
theorem Numeral.iff {n : Int} : Numeral n cs ↔ (signed n).flatten = cs := by
  constructor
  · intro h
    cases h with
    | zero => exact signed_zero
    | positive hn => exact signed_positive hn
    | negative hn => exact signed_negative hn
  · rintro rfl
    obtain hneg | rfl | hpos := lt_trichotomy n 0
    · have hn := Positive.of_digits (n := n.natAbs) (by omega)
      obtain ⟨n, rfl⟩ : ∃ m : Nat, n = -m := ⟨n.natAbs, by omega⟩
      rw [Int.natAbs_neg, Int.natAbs_natCast] at hn
      rw [signed_negative hn]
      exact .negative hn
    · rw [signed_zero]
      exact .zero
    · obtain ⟨n, rfl⟩ : ∃ m : Nat, n = m := ⟨n.natAbs, by omega⟩
      have hn := Positive.of_digits (n := n) (by omega)
      rw [signed_positive hn]
      exact .positive hn

namespace Numeral

variable {n : Int}

/-- Every character of a numeral is a digit or the sign. -/
theorem ascii (h : Numeral n cs) {c : Char} (hc : c ∈ cs) : c = '-' ∨ isDigit c = true := by
  cases h with
  | zero =>
    rw [List.mem_singleton] at hc
    subst hc
    exact .inr rfl
  | positive hn => exact .inr (List.all_eq_true.mp hn.leading.1 c hc)
  | negative hn =>
    rcases List.mem_cons.mp hc with hminus | hc
    · exact .inl hminus
    · exact .inr (List.all_eq_true.mp hn.leading.1 c hc)

theorem toNat_lt (h : Numeral n cs) {c : Char} (hc : c ∈ cs) : 0x20 < c.toNat ∧ c.toNat < 0x80 := by
  rcases h.ascii hc with rfl | hdigit
  · decide
  · rw [isDigit_iff] at hdigit
    omega

/-- A numeral takes one byte for each character. -/
theorem length_encode (h : Numeral n cs) : (encode cs).length = cs.length := by
  have hone : ∀ c ∈ cs, (String.utf8EncodeChar c).length = 1 := by
    intro c hc
    have hle : c.val.toNat ≤ 127 := Nat.le_of_lt_succ (h.toNat_lt hc).2
    rw [String.utf8EncodeChar, if_pos hle, List.length_singleton]
  rw [encode, List.length_flatMap, List.map_congr_left hone]
  simp

theorem not_blank (h : Numeral n cs) {c : Char} (hc : c ∈ cs) : isBlank c = false := by
  obtain ⟨hlow, hhigh⟩ := h.toNat_lt hc
  simp [isBlank, blankRanges]
  omega

end Numeral

/-- Text without blanks has none at its ends. -/
theorem trim_eq_self (h : ∀ c ∈ cs, isBlank c = false) : trim cs = cs := by
  have hkept : ∀ cs : List Char, (∀ c ∈ cs, isBlank c = false) → cs.dropWhile isBlank = cs := by
    intro cs h
    cases cs with
    | nil => rfl
    | cons c rest => rw [List.dropWhile_cons, h c List.mem_cons_self, if_neg (by decide)]
  rw [trim, hkept cs h, hkept cs.reverse fun c hc => h c (List.mem_reverse.mp hc), List.reverse_reverse]

/-- What stands behind no sign is read as it stands. -/
theorem parse?_leading (range : IntRange) (h : Leading cs) :
    parse? range cs = (natural? cs).bind fun n =>
      if range.low ≤ n ∧ (n : Int) ≤ range.high then some (n : Int) else none := by
  obtain ⟨hdigits, first, hhead, -⟩ := h
  cases cs with
  | nil => cases hhead
  | cons c rest =>
    have hc : isDigit c = true := List.all_eq_true.mp hdigits c List.mem_cons_self
    have hplus : c ≠ '+' := by
      rintro rfl
      cases hc
    have hminus : c ≠ '-' := by
      rintro rfl
      cases hc
    unfold parse?
    split
    case h_1 heq => exact absurd (List.cons.inj heq).1 hplus
    case h_2 heq => exact absurd (List.cons.inj heq).1 hminus
    case h_3 => cases natural? (c :: rest) <;> rfl

/-- A numeral is read as its number just where the range has it. -/
theorem parse?_numeral {n : Int} (range : IntRange) (h : Numeral n cs) :
    parse? range cs = if range.low ≤ n ∧ n ≤ range.high then some n else none := by
  cases h with
  | zero => rfl
  | positive hn => rw [parse?_leading range hn.leading, hn.natural?, Option.bind_some]
  | @negative n rest hn =>
    by_cases hlow : range.low < 0
    · simp [parse?, hlow, hn.natural?]
    · have hpos := hn.pos
      rw [if_neg (by omega)]
      simp [parse?, hlow]

end FixedCapacity.Text
