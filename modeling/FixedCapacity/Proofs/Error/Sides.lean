/-
  FixedCapacity.Proofs.Error.Sides — `is` reads the number of one side, equality those of both.

  Equal errors are each other. The other way round there is one exception: a plain error takes an
  error with a number of the same kind for itself, because it never looks at that number
  (`Overlooks`). `is_iff` says that there is no other, so that apart from it `is` and equality are
  one relation and `is` has no direction. Among the errors that can be built the exception is the
  plain error of kind `runtime`, which is every error with a number, and no such error is it.
-/

import FixedCapacity.Proofs.Error.Equality

namespace FixedCapacity.Error

/-- A plain error takes an error with a number for itself. -/
def Overlooks (a b : Error) : Prop := a.errno = 0 ∧ b.errno ≠ 0 ∧ a.kind = b.kind

variable {a b : Error}

/-- With a number on the receiver's side, or on neither, `is` reads what equality reads. -/
theorem is_eq_beq (h : a.errno ≠ 0 ∨ b.errno = 0) : a.is b = (a == b) := by
  have hbeq : (a == b) =
      if a.errno ≠ 0 ∨ b.errno ≠ 0 then decide (a.errno = b.errno) else decide (a.kind = b.kind) := rfl
  rw [hbeq, is]
  by_cases ha : a.errno = 0
  · have hb : b.errno = 0 := h.resolve_left (not_not_intro ha)
    simp [ha, hb]
  · simp [ha]

/-- A plain error asked about an error with a number compares the kinds. -/
theorem is_of_plain (ha : a.errno = 0) : a.is b ↔ a.kind = b.kind := by
  simp [is, ha]

/-- A plain error and one with a number are never equal. -/
theorem beq_eq_false_of_plain (ha : a.errno = 0) (hb : b.errno ≠ 0) : (a == b) = false := by
  rw [Bool.eq_false_iff]
  intro hsame
  rw [beq_iff_digest, digest, digest, if_neg (not_not_intro ha), if_pos hb] at hsame
  cases hsame

/-- An error with a number is no plain error, whatever their kinds. -/
theorem is_eq_false_of_number (ha : a.errno ≠ 0) (hb : b.errno = 0) : a.is b = false := by
  have hne : b.errno ≠ a.errno := fun hsame => ha (hsame.symm.trans hb)
  simp [is, ha, hne.symm]

theorem is_iff : a.is b ↔ a == b ∨ a.Overlooks b := by
  by_cases h : a.errno ≠ 0 ∨ b.errno = 0
  case pos =>
    have hnone : ¬ a.Overlooks b := by
      rintro ⟨ha, hb, -⟩
      exact h.elim (fun hnumber => hnumber ha) hb
    rw [is_eq_beq h]
    exact (or_iff_left hnone).symm
  case neg =>
    obtain ⟨ha, hb⟩ : a.errno = 0 ∧ b.errno ≠ 0 := by
      rw [not_or, Decidable.not_not] at h
      exact h
    rw [is_of_plain ha, beq_eq_false_of_plain ha hb]
    constructor
    · exact fun hkind => .inr ⟨ha, hb, hkind⟩
    · rintro (hsame | ⟨-, -, hkind⟩)
      · cases hsame
      · exact hkind

theorem beq_comm (a b : Error) : (a == b) = (b == a) := by
  rw [Bool.eq_iff_iff, beq_iff_digest, beq_iff_digest]
  exact eq_comm

/-! ## One relation, but for the exception -/

/-- How `is` and equality stand to each other. -/
structure Sided (a b : Error) : Prop where
  agree : ¬ a.Overlooks b → a.is b = (a == b)
  /-- In the exception `is` holds in one direction only, of errors that are not equal. -/
  differ : a.Overlooks b → a.is b = true ∧ (a == b) = false ∧ b.is a = false
  symmetric : a.is b = b.is a ↔ ¬ a.Overlooks b ∧ ¬ b.Overlooks a
  number : a.errno ≠ 0 → b.errno = 0 → a.is b = false
  /-- Of the errors that can be built, it is the plain ones of one kind that overlook numbers, all of
  them. -/
  exception : Built a → Built b → (a.Overlooks b ↔ a.errno = 0 ∧ a.kind = .runtime ∧ b.errno ≠ 0)

theorem Overlooks.differ (h : a.Overlooks b) : a.is b = true ∧ (a == b) = false ∧ b.is a = false := by
  have hthere : a.is b := is_iff.mpr (.inr h)
  obtain ⟨ha, hb, -⟩ := h
  exact ⟨hthere, beq_eq_false_of_plain ha hb, is_eq_false_of_number hb ha⟩

theorem is_eq_beq_of_not_overlooks (h : ¬ a.Overlooks b) : a.is b = (a == b) := by
  rw [Bool.eq_iff_iff, is_iff]
  exact or_iff_left h

theorem is_comm_iff : a.is b = b.is a ↔ ¬ a.Overlooks b ∧ ¬ b.Overlooks a := by
  constructor
  case mp =>
    intro hsame
    constructor
    · intro h
      obtain ⟨hthere, -, hback⟩ := h.differ
      rw [hthere, hback] at hsame
      cases hsame
    · intro h
      obtain ⟨hthere, -, hback⟩ := h.differ
      rw [hthere, hback] at hsame
      cases hsame
  case mpr =>
    rintro ⟨h, h'⟩
    rw [is_eq_beq_of_not_overlooks h, is_eq_beq_of_not_overlooks h', beq_comm]

/-- `is` is equality, except that a plain error takes an error with a number for itself if it has the
kind of those. -/
theorem is_agrees_unless_overlooked (a b : Error) : Sided a b := by
  constructor
  case agree => exact is_eq_beq_of_not_overlooks
  case differ => exact Overlooks.differ
  case symmetric => exact is_comm_iff
  case number => exact is_eq_false_of_number
  case exception =>
    intro ha hb
    constructor
    · rintro ⟨hplain, hnumber, hkind⟩
      exact ⟨hplain, hkind.trans (hb.regular.runtime hnumber), hnumber⟩
    · rintro ⟨hplain, hkind, hnumber⟩
      exact ⟨hplain, hnumber, hkind.trans (hb.regular.runtime hnumber).symm⟩

/-- One number noticed at two places agrees both ways; a plain error of the kind of numbers takes it for
itself, and one of another kind does not. -/
theorem is_agrees_unless_overlooked_of_five :
    let five := (ofErrno (-5)).wrap "read.rs" 3
    let late := ofKindAt .timeout "wait.rs" 8
    let plain := ofKind .runtime
    five.is (ofErrno 5) = true ∧ five == ofErrno 5 ∧ late.is five = false ∧ five.is late = false ∧
      plain.Overlooks five ∧ plain.is five = true ∧ (plain == five) = false ∧ five.is plain = false := by
  intro five late plain
  have hnone : ¬ five.Overlooks (ofErrno 5) := fun h => absurd h.1 (by decide)
  have hlate : ¬ late.Overlooks five := fun h => absurd h.2.2 (by decide)
  have hsame : five == ofErrno 5 := by decide
  have hplain : plain.Overlooks five :=
    ((is_agrees_unless_overlooked plain five).exception (.ofKind _) (.wrap (.ofErrno _) _ _)).mpr (by decide)
  exact ⟨((is_agrees_unless_overlooked five (ofErrno 5)).agree hnone).trans hsame, hsame,
    ((is_agrees_unless_overlooked late five).agree hlate).trans (by decide),
    (is_agrees_unless_overlooked five late).number (by decide) (by decide), hplain,
    (is_agrees_unless_overlooked plain five).differ hplain⟩

/-- A plain error of kind `runtime` is every error with a number, though it equals none of them and none
of them is it. -/
theorem plain_error_is_a_number :
    Built (ofKind .runtime) ∧ Built (ofErrno 5) ∧ (ofKind .runtime).is (ofErrno 5) = true ∧
      (ofKind .runtime == ofErrno 5) = false ∧ (ofErrno 5).is (ofKind .runtime) = false ∧
      ¬ ∀ a b : Error, Built a → Built b → (a.is b ↔ a == b) := by
  have hthere : (ofKind .runtime).is (ofErrno 5) = true := by decide
  have hdiffer : (ofKind .runtime == ofErrno 5) = false := by decide
  refine ⟨.ofKind _, .ofErrno _, hthere, hdiffer, by decide, fun h => ?_⟩
  have hsame := (h _ _ (.ofKind .runtime) (.ofErrno 5)).mp hthere
  rw [hdiffer] at hsame
  cases hsame

end FixedCapacity.Error
