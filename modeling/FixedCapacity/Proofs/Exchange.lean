/-
  FixedCapacity.Proofs.Exchange — the exchange sort on a list.

  A sweep carries the greater of each pair of neighbours on to the next pair. `sweep` and
  `sweeps` give the list it leaves, the pairs it compared in order, and the state of the
  comparison afterwards. Whatever the comparison answers, the list is a permutation.
-/

import Mathlib

namespace FixedCapacity.Exchange

/-- What comparing and exchanging neighbours comes to. -/
structure Result (α τ : Type) where
  items : List α
  pairs : List (α × α)
  state : τ

variable {α τ : Type} (compare : τ → α → α → Ordering × τ)

/-- The first `n` pairs of neighbours are compared and put in order. -/
def sweep : Nat → τ → List α → Result α τ
  | n + 1, t, x :: y :: rest =>
    let (order, t) := compare t x y
    let r := sweep n t ((if order = .gt then x else y) :: rest)
    ⟨(if order = .gt then y else x) :: r.items, (x, y) :: r.pairs, r.state⟩
  | _, t, xs => ⟨xs, [], t⟩

/-- A sweep over `n` pairs, then one over `n - 1`, and so on. -/
def sweeps : Nat → τ → List α → Result α τ
  | 0, t, xs => ⟨xs, [], t⟩
  | n + 1, t, xs =>
    let first := sweep compare (n + 1) t xs
    let r := sweeps n first.state first.items
    ⟨r.items, first.pairs ++ r.pairs, r.state⟩

/-- The whole sort. -/
def sort (t : τ) (xs : List α) : Result α τ := sweeps compare (xs.length - 1) t xs

variable {compare} {t : τ} {xs : List α} {n : Nat}

theorem sweep_perm : (sweep compare n t xs).items.Perm xs := by
  fun_induction sweep compare n t xs with
  | case1 n t x y rest order t' h r ih =>
    change r.items.Perm _ at ih
    by_cases hgt : order = .gt
    · rw [if_pos hgt] at ih ⊢
      exact (ih.cons y).trans (.swap x y rest)
    · rw [if_neg hgt] at ih ⊢
      exact ih.cons x
  | case2 => exact .refl _

theorem sweeps_perm : (sweeps compare n t xs).items.Perm xs := by
  induction n generalizing t xs with
  | zero => exact .refl _
  | succ n ih => exact ih.trans sweep_perm

theorem sort_perm : (sort compare t xs).items.Perm xs := sweeps_perm

end FixedCapacity.Exchange
