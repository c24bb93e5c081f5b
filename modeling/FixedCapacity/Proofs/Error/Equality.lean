/-
  FixedCapacity.Proofs.Error.Equality — equality of errors is a congruence.

  Two errors are the same exactly when they feed a hasher the same (`beq_iff_digest`): both look at
  one key of an error, its number if it has one and its kind otherwise. So equality is an
  equivalence, and the place of an error plays no part in it.

  What else an error shows comes from its kind and its number together. In the errors that can be
  built (`Built`) a number belongs to the kind `runtime` (`Built.regular`), so that the key decides
  both (`Regular.kind_errno`) and with them everything that an error shows (`Congruent`).
-/

import FixedCapacity.Error.Status

namespace FixedCapacity.Error

/-! ## The errors that can be built -/

/-- An error of a constructor, passed on any number of times. -/
inductive Built : Error → Prop
  | ofKind (kind : Kind) : Built (ofKind kind)
  | ofKindAt (kind : Kind) (file : String) (line : Nat) : Built (ofKindAt kind file line)
  | ofErrno (errno : Int) : Built (ofErrno errno)
  | default : Built default
  | wrap {e : Error} (h : Built e) (file : String) (line : Nat) : Built (e.wrap file line)

/-- What every constructor sees to. -/
structure Regular (e : Error) : Prop where
  nonneg : 0 ≤ e.errno
  bounded : e.errno ≤ maxErrno
  runtime : e.errno ≠ 0 → e.kind = .runtime

section Wrap

variable (e : Error) (file : String) (line : Nat)

@[simp] theorem kind_wrap : (e.wrap file line).kind = e.kind := by
  rw [wrap]
  split <;> rfl

@[simp] theorem errno_wrap : (e.wrap file line).errno = e.errno := by
  rw [wrap]
  split <;> rfl

@[simp] theorem digest_wrap : (e.wrap file line).digest = e.digest := by simp only [digest, kind_wrap, errno_wrap]

end Wrap

theorem regular_ofErrno (errno : Int) : Regular (ofErrno errno) := by
  have hmax : (0 : Int) ≤ maxErrno := by decide
  constructor
  case nonneg =>
    simp only [ofErrno]
    omega
  case bounded =>
    simp only [ofErrno]
    omega
  case runtime =>
    intro hnumber
    have hne : errno ≠ 0 := by
      rintro rfl
      exact hnumber rfl
    exact if_neg hne

theorem Built.regular {e : Error} (h : Built e) : Regular e := by
  have hplain (kind : Kind) (location : Option Location) : Regular ⟨kind, 0, location⟩ :=
    ⟨Int.le_refl 0, (by decide : (0 : Int) ≤ maxErrno), fun hnumber => absurd rfl hnumber⟩
  induction h with
  | ofKind kind => exact hplain kind none
  | ofKindAt kind file line => exact hplain kind _
  | ofErrno errno => exact regular_ofErrno errno
  | default => exact hplain .none none
  | wrap _ file line ih =>
    obtain ⟨hnonneg, hbounded, hruntime⟩ := ih
    exact ⟨by rwa [errno_wrap], by rwa [errno_wrap], by rwa [errno_wrap, kind_wrap]⟩

/-! ## One key -/

/-- Equality and hash look at the same of an error. -/
theorem beq_iff_digest (a b : Error) : a == b ↔ a.digest = b.digest := by
  have hbeq : (a == b) =
      if a.errno ≠ 0 ∨ b.errno ≠ 0 then decide (a.errno = b.errno) else decide (a.kind = b.kind) := rfl
  rw [hbeq, digest, digest]
  by_cases ha : a.errno = 0
  · by_cases hb : b.errno = 0
    · simp [ha, hb]
    · simp [ha, hb, Ne.symm hb]
  · by_cases hb : b.errno = 0
    · simp [ha, hb]
    · simp [ha, hb]

/-- Errors with the same keys compare alike. -/
theorem beq_congr {a b a' b' : Error} (h : a.digest = a'.digest) (h' : b.digest = b'.digest) :
    (a == b) = (a' == b') := by
  rw [Bool.eq_iff_iff, beq_iff_digest, beq_iff_digest, h, h']

/-- On regular errors the key decides the kind and the number. -/
theorem Regular.kind_errno {a b : Error} (ha : Regular a) (hb : Regular b) (h : a.digest = b.digest) :
    a.kind = b.kind ∧ a.errno = b.errno := by
  rw [digest, digest] at h
  by_cases hnumber : a.errno = 0
  · rw [if_neg (not_not_intro hnumber)] at h
    by_cases hnumber' : b.errno = 0
    · rw [if_neg (not_not_intro hnumber')] at h
      exact ⟨Digest.kind.inj h, hnumber.trans hnumber'.symm⟩
    · rw [if_pos hnumber'] at h
      cases h
  · rw [if_pos hnumber] at h
    by_cases hnumber' : b.errno = 0
    · rw [if_neg (not_not_intro hnumber')] at h
      cases h
    · rw [if_pos hnumber'] at h
      exact ⟨(ha.runtime hnumber).trans (hb.runtime hnumber').symm, Digest.errno.inj h⟩

/-! ## What errors show -/

/-- Two computations end alike: with one value, or with errors that are the same. -/
def EndAlike {α : Type} : Except Error α → Except Error α → Prop
  | .ok v, .ok w => v = w
  | .error a, .error b => a == b
  | _, _ => False

/-- Two errors that nobody can tell apart but by their places. A value that comes with them feeds a
hasher first, in a way of its own. -/
structure Congruent (a b : Error) : Prop where
  kind : a.kind = b.kind
  errno : a.errno = b.errno
  category : a.category = b.category
  message : ∀ describe, a.message describe = b.message describe
  isNone : a.isNone = b.isNone
  status : EndAlike a.status b.status
  digest : a.digest = b.digest
  result : ∀ {α : Type} (v : α), EndAlike (Status.mk v a).toExcept (Status.mk v b).toExcept
  paired : ∀ {α : Type} [BEq α] {v w : α}, v == w → Status.mk v a == Status.mk w b
  pairedDigest : ∀ {α δ : Type} (feed : α → δ) {v w : α}, feed v = feed w →
    Prod.map feed id (Status.mk v a).digest = Prod.map feed id (Status.mk w b).digest

theorem congruent_of_kind_errno {a b : Error} (hkind : a.kind = b.kind) (herrno : a.errno = b.errno) :
    Congruent a b := by
  have hdigest : a.digest = b.digest := by rw [Error.digest, Error.digest, hkind, herrno]
  have hsame : a == b := (beq_iff_digest a b).mpr hdigest
  have hnone : a.isNone = b.isNone := by rw [Error.isNone, Error.isNone, hkind]
  constructor
  case kind => exact hkind
  case errno => exact herrno
  case category => rw [Error.category, Error.category, hkind, herrno]
  case message =>
    intro describe
    rw [Error.message, Error.message, hkind, herrno]
  case isNone => exact hnone
  case status =>
    rw [Error.status, Error.status, hnone]
    split
    · exact rfl
    · exact hsame
  case digest => exact hdigest
  case result =>
    intro α v
    rw [Status.toExcept, Status.toExcept, hnone]
    split
    · exact rfl
    · exact hsame
  case paired =>
    intro α _ v w hvalue
    exact Bool.and_eq_true_iff.mpr ⟨hvalue, hsame⟩
  case pairedDigest =>
    intro α δ feed v w hfeed
    simp only [Status.digest, Prod.map_apply, hfeed, hdigest]

/-- On the errors that can be built, equality is an equivalence to which places do not matter, and all
that errors show respects it. -/
theorem equality_is_congruence {a b c : Error} (ha : Built a) (hb : Built b) (hc : Built c) :
    (Regular a ∧ Regular b ∧ Regular c) ∧ a == a ∧ (a == b) = (b == a) ∧ (a == b → b == c → a == c) ∧
      (∀ file line, (a.wrap file line == b) = (a == b) ∧ (a == b.wrap file line) = (a == b)) ∧
      (a == b → Congruent a b) := by
  refine ⟨⟨ha.regular, hb.regular, hc.regular⟩, (beq_iff_digest a a).mpr rfl, ?_, ?_, ?_, ?_⟩
  · rw [Bool.eq_iff_iff, beq_iff_digest, beq_iff_digest]
    exact eq_comm
  · intro hab hbc
    rw [beq_iff_digest] at hab hbc ⊢
    exact hab.trans hbc
  · intro file line
    constructor
    · exact beq_congr (digest_wrap a file line) rfl
    · exact beq_congr rfl (digest_wrap b file line)
  · intro hab
    obtain ⟨hkind, herrno⟩ := ha.regular.kind_errno hb.regular ((beq_iff_digest a b).mp hab)
    exact congruent_of_kind_errno hkind herrno

/-- The least number has no counterpart and is the same as the largest one, whatever places the two
have passed. -/
theorem equality_is_congruence_of_least :
    let least := ofErrno (-0x80000000)
    let largest := (ofErrno 0x7FFFFFFF).wrap "lookup.rs" 7
    let plain := ofKindAt .runtime "lookup.rs" 7
    (Built least ∧ Built largest ∧ Built plain) ∧ least == largest ∧ (least == plain) = false ∧
      Congruent least largest := by
  have hleast : Built (ofErrno (-0x80000000)) := .ofErrno _
  have hlargest : Built ((ofErrno 0x7FFFFFFF).wrap "lookup.rs" 7) := .wrap (.ofErrno _) _ _
  have hplain : Built (ofKindAt .runtime "lookup.rs" 7) := .ofKindAt _ _ _
  obtain ⟨-, -, -, -, -, hcongruent⟩ := equality_is_congruence hleast hlargest hplain
  have hsame : ofErrno (-0x80000000) == (ofErrno 0x7FFFFFFF).wrap "lookup.rs" 7 := by decide
  exact ⟨⟨hleast, hlargest, hplain⟩, hsame, by decide, hcongruent hsame⟩

end FixedCapacity.Error
