/-
  FixedCapacity.Proofs.ListReport — calls on a plain list of elements.

  Arrays and strings are described by what their calls do to the list of their elements. The
  reports of such calls are the same for both; those of looking at an element and of looking
  for one are given here, with the search that both run.
-/

import FixedCapacity.Proofs.Call
import FixedCapacity.Proofs.Predicate

namespace FixedCapacity

open Predicate

/-- What a call answers with. -/
inductive Answer (α : Type) where
  | nothing
  | element (x : α)
  | number (n : Nat)
  | flag (yes : Bool)
  deriving DecidableEq, Repr

/-- A call on a list of elements. -/
abbrev ListReport (α : Type) := Report (List α) α (Answer α)

namespace ListReport

variable {α τ : Type}

/-- An element is found, or the call ends as told. -/
def found (element : Option α) (missing : Outcome (Answer α)) (left : List α) : ListReport α :=
  ⟨.of (element.map .element) missing, left, [], []⟩

/-- A predicate is asked about the elements until it accepts one. -/
def search (xs : List α) (test : τ → α → Bool × τ) (t : τ) : ListReport α :=
  ⟨.of ((first? test t xs).map .number) (.error .notFound), xs, [], (asked test t xs).map .tested⟩

/-- A call that fails, and that only a check can make fail, was refused by the check. -/
theorem eq_refused {c : Prop} [Decidable c] {refused done : ListReport α} {answer : Answer α}
    (hdone : done.outcome = .value answer)
    (hfail : ∀ answer, (if c then refused else done).outcome ≠ .value answer) :
    (if c then refused else done) = refused := by
  by_cases h : c
  · exact if_pos h
  · rw [if_neg h] at hfail
    exact absurd hdone (hfail answer)

end ListReport

theorem Call.searchFrom_apply {σ α τ : Type} (test : τ → α → Bool × τ) (position : Nat) (t : τ) (xs : List α)
    (s : σ) :
    searchFrom test position t xs s =
      ⟨.value ((first? test t xs).map (position + ·)), s, [], (asked test t xs).map .tested⟩ := by
  induction xs generalizing position t with
  | nil => rfl
  | cons x xs ih =>
    rw [searchFrom, first?_cons, asked_cons]
    simp only [bind_apply, record_apply, Report.andThen_value, ite_apply, ih]
    split
    · simp
    · cases first? test (test t x).2 xs <;> simp [Nat.add_assoc, Nat.add_comm 1]

end FixedCapacity
