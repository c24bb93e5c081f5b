/-
  FixedCapacity.Proofs.Predicate — predicates that carry a state from one question to the
  next, asked about the elements of a list in order.
-/

import Mathlib

namespace FixedCapacity.Predicate

variable {α τ : Type} (test : τ → α → Bool × τ)

/-- The elements with the answers they get. -/
def answers : τ → List α → List (α × Bool)
  | _, [] => []
  | t, x :: rest => (x, (test t x).1) :: answers (test t x).2 rest

/-- The elements turned down. -/
def kept (t : τ) (xs : List α) : List α := ((answers test t xs).filter (!·.2)).map (·.1)

/-- The elements accepted. -/
def accepted (t : τ) (xs : List α) : List α := ((answers test t xs).filter (·.2)).map (·.1)

/-- The state after the last answer. -/
def final (t : τ) (xs : List α) : τ := xs.foldl (fun t x => (test t x).2) t

/-- The position of the first element accepted. -/
def first? (t : τ) (xs : List α) : Option Nat := (answers test t xs).findIdx? (·.2)

/-- The elements asked about until one is accepted. -/
def asked (t : τ) (xs : List α) : List α :=
  match first? test t xs with
  | some i => xs.take (i + 1)
  | none => xs

variable {test} {t : τ} {x : α} {xs : List α}

@[simp] theorem kept_nil : kept test t [] = [] := rfl
@[simp] theorem accepted_nil : accepted test t [] = [] := rfl
@[simp] theorem final_nil : final test t [] = t := rfl
@[simp] theorem final_cons : final test t (x :: xs) = final test (test t x).2 xs := rfl

theorem kept_cons : kept test t (x :: xs) =
    if (test t x).1 then kept test (test t x).2 xs else x :: kept test (test t x).2 xs := by
  cases h : (test t x).1 <;> simp [kept, answers, h]

theorem accepted_cons : accepted test t (x :: xs) =
    if (test t x).1 then x :: accepted test (test t x).2 xs else accepted test (test t x).2 xs := by
  cases h : (test t x).1 <;> simp [accepted, answers, h]

@[simp] theorem first?_nil : first? test t [] = none := rfl

theorem first?_cons : first? test t (x :: xs) =
    if (test t x).1 then some 0 else (first? test (test t x).2 xs).map (· + 1) := by
  simp [first?, answers, List.findIdx?_cons]

@[simp] theorem asked_nil : asked test t [] = [] := rfl

theorem asked_cons : asked test t (x :: xs) =
    if (test t x).1 then [x] else x :: asked test (test t x).2 xs := by
  unfold asked
  rw [first?_cons]
  cases (test t x).1
  · cases first? test (test t x).2 xs <;> simp
  · simp

/-- Each answer is that of the state which the elements in front of it have led to. -/
theorem getElem?_answers (test : τ → α → Bool × τ) (t : τ) (xs : List α) (i : Nat) :
    (answers test t xs)[i]? = xs[i]?.map fun x => (x, (test (final test t (xs.take i)) x).1) := by
  induction xs generalizing t i with
  | nil => rfl
  | cons x xs ih =>
    cases i with
    | zero => rfl
    | succ i => simp [answers, ih]

/-- Every element is either kept or accepted. -/
theorem length_kept_add_accepted (test : τ → α → Bool × τ) (t : τ) (xs : List α) :
    (kept test t xs).length + (accepted test t xs).length = xs.length := by
  induction xs generalizing t with
  | nil => rfl
  | cons x xs ih =>
    rw [kept_cons, accepted_cons]
    have := ih (test t x).2
    split <;> simp <;> omega

/-- The elements kept are some of those there were, in order. -/
theorem kept_sublist (test : τ → α → Bool × τ) (t : τ) (xs : List α) : (kept test t xs).Sublist xs := by
  induction xs generalizing t with
  | nil => exact .slnil
  | cons x xs ih =>
    rw [kept_cons]
    split
    · exact (ih _).cons x
    · exact (ih _).cons_cons x

end FixedCapacity.Predicate
