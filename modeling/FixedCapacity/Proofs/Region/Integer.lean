/-
  FixedCapacity.Proofs.Region.Integer — integers and their bytes.

  Every integer type takes a fixed number of bytes, and each sequence of so many bytes is
  the encoding of exactly one value of the type (`decode_encode`, `encode_decode`). The
  byte at a place is the digit of the integer to the base 256 there; for a negative one it
  is the digit of its two's complement, which rounding down gives without a case of its own
  (`getElem?_encode`).
-/

import Mathlib
import FixedCapacity.Region.Integer

namespace FixedCapacity.IntType

/-! ## Digits to the base 256 -/

@[simp] theorem length_littleEndian (width n : Nat) : (littleEndian width n).length = width := by
  induction width generalizing n with
  | zero => rfl
  | succ width ih => rw [littleEndian, List.length_cons, ih]

theorem getElem?_littleEndian {width k : Nat} (n : Nat) (hk : k < width) :
    (littleEndian width n)[k]? = some (UInt8.ofNat (n / 256 ^ k % 256)) := by
  induction width generalizing n k with
  | zero => exact absurd hk (Nat.not_lt_zero k)
  | succ width ih =>
    rw [littleEndian]
    cases k with
    | zero => rw [List.getElem?_cons_zero, Nat.pow_zero, Nat.div_one]
    | succ k =>
      rw [List.getElem?_cons_succ, ih (n / 256) (by omega), Nat.div_div_eq_div_mul, Nat.pow_succ']

/-- Digits that were dropped are lost; the rest can be read back. -/
theorem ofLittleEndian_littleEndian (width n : Nat) :
    ofLittleEndian (littleEndian width n) = n % 256 ^ width := by
  induction width generalizing n with
  | zero => rw [littleEndian, ofLittleEndian, Nat.pow_zero, Nat.mod_one]
  | succ width ih =>
    have hbyte : (UInt8.ofNat (n % 256)).toNat = n % 256 := by
      rw [UInt8.toNat_ofNat']
      omega
    rw [littleEndian, ofLittleEndian, hbyte, ih, Nat.pow_succ', Nat.mod_mul]

theorem ofLittleEndian_lt (bytes : List UInt8) : ofLittleEndian bytes < 256 ^ bytes.length := by
  induction bytes with
  | nil => exact Nat.one_pos
  | cons b rest ih =>
    have hb := b.toNat_lt
    rw [ofLittleEndian, List.length_cons, Nat.pow_succ']
    omega

theorem littleEndian_ofLittleEndian (bytes : List UInt8) :
    littleEndian bytes.length (ofLittleEndian bytes) = bytes := by
  induction bytes with
  | nil => rfl
  | cons b rest ih =>
    have hb := b.toNat_lt
    have hdigit : (b.toNat + 256 * ofLittleEndian rest) % 256 = b.toNat := by omega
    have hrest : (b.toNat + 256 * ofLittleEndian rest) / 256 = ofLittleEndian rest := by omega
    rw [ofLittleEndian, List.length_cons, littleEndian, hdigit, hrest, ih, UInt8.ofNat_toNat]

/-! ## Values and bytes -/

variable (t : IntType)

theorem modulus_eq : t.modulus = 256 ^ t.width := rfl

theorem modulus_pos : 0 < t.modulus := by
  rw [modulus_eq]
  exact Nat.pow_pos (by omega)

@[simp] theorem length_encode (n : Int) : (t.encode n).length = t.width := length_littleEndian _ _

/-- What the bytes of an integer denote without a sign: the remainder by the number of values. -/
theorem ofLittleEndian_encode (n : Int) : (ofLittleEndian (t.encode n) : Int) = n % t.modulus := by
  have hpos := t.modulus_pos
  have hnonneg : 0 ≤ n % t.modulus := Int.emod_nonneg _ (by omega)
  have hlt : n % t.modulus < t.modulus := Int.emod_lt_of_pos _ (by omega)
  rw [encode, ofLittleEndian_littleEndian, ← modulus_eq, Nat.mod_eq_of_lt (by omega)]
  exact Int.toNat_of_nonneg hnonneg

theorem decode_encode {n : Int} (h : t.Holds n) : t.decode (t.encode n) = n := by
  have hpos := t.modulus_pos
  have hvalue := t.ofLittleEndian_encode n
  rw [Holds] at h
  rw [decode]
  by_cases hneg : n < 0
  · -- A negative value is short of its remainder by the number of values.
    have hmod : n % t.modulus = n + t.modulus := by
      rw [← Int.add_emod_right, Int.emod_eq_of_lt]
      all_goals split at h <;> omega
    rw [hmod] at hvalue
    by_cases hsigned : t.signed = true
    · rw [if_pos hsigned] at h
      rw [if_pos ⟨hsigned, by omega⟩, hvalue]
      omega
    · rw [if_neg hsigned] at h
      omega
  · have hmod : n % t.modulus = n := by
      rw [Int.emod_eq_of_lt]
      all_goals split at h <;> omega
    rw [hmod] at hvalue
    rw [if_neg, hvalue]
    rintro ⟨hsigned, hhigh⟩
    rw [if_pos hsigned] at h
    omega

theorem encode_decode {bytes : List UInt8} (h : bytes.length = t.width) :
    t.encode (t.decode bytes) = bytes := by
  have hlt : ofLittleEndian bytes < t.modulus := by
    rw [modulus_eq, ← h]
    exact ofLittleEndian_lt bytes
  have hmod : t.decode bytes % t.modulus = ofLittleEndian bytes := by
    rw [decode]
    split
    · rw [Int.sub_emod_right, Int.emod_eq_of_lt (by omega) (by omega)]
    · rw [Int.emod_eq_of_lt (by omega) (by omega)]
  rw [encode, hmod, Int.toNat_natCast, ← h, littleEndian_ofLittleEndian]

/-- The digit at a place does not change when whole multiples of a higher power are taken away. -/
theorem digit_emod {width k : Nat} (n : Int) (hk : k < width) :
    n % 256 ^ width / 256 ^ k % 256 = n / 256 ^ k % 256 := by
  have hpower : (256 : Int) ^ width = 256 ^ k * (256 * 256 ^ (width - k - 1)) := by
    rw [← pow_succ', ← pow_add, show k + (width - k - 1 + 1) = width by omega]
  have hmultiple : (256 : Int) ^ width * (n / 256 ^ width) =
      256 ^ k * (256 * (256 ^ (width - k - 1) * (n / 256 ^ width))) := by
    calc (256 : Int) ^ width * (n / 256 ^ width)
        = 256 ^ k * (256 * 256 ^ (width - k - 1)) * (n / 256 ^ width) := by rw [← hpower]
      _ = 256 ^ k * (256 * (256 ^ (width - k - 1) * (n / 256 ^ width))) := by ring
  calc n % 256 ^ width / 256 ^ k % 256
      = (n % 256 ^ width / 256 ^ k + 256 * (256 ^ (width - k - 1) * (n / 256 ^ width))) % 256 := by
        rw [Int.add_mul_emod_self_left]
    _ = (n % 256 ^ width + 256 ^ k * (256 * (256 ^ (width - k - 1) * (n / 256 ^ width)))) / 256 ^ k % 256 := by
        rw [Int.add_mul_ediv_left _ _ (by positivity)]
    _ = n / 256 ^ k % 256 := by rw [← hmultiple, Int.emod_add_mul_ediv]

/-- The byte at a place. Rounding down keeps two's complement. -/
theorem getElem?_encode {k : Nat} (n : Int) (hk : k < t.width) :
    (t.encode n)[k]? = some (UInt8.ofNat (n / 256 ^ k % 256).toNat) := by
  have hpos := t.modulus_pos
  have hmodulus : (t.modulus : Int) = 256 ^ t.width := by
    rw [modulus_eq]
    exact Nat.cast_pow 256 t.width
  obtain ⟨m, hm⟩ := Int.eq_ofNat_of_zero_le (Int.emod_nonneg n (by omega : (t.modulus : Int) ≠ 0))
  rw [encode, getElem?_littleEndian _ hk, ← digit_emod n hk, ← hmodulus, hm, Int.toNat_natCast]
  norm_cast

end FixedCapacity.IntType
