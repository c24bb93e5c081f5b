/-
  FixedCapacity.Proofs.SlotArray.Sort — the report of sorting an array: its elements are
  sorted as `Exchange.sort` sorts the list, and nothing but comparisons is recorded.

  A sweep is made of comparisons of one pair each (`ask`, `sweep_succ`).
-/

import FixedCapacity.Proofs.Exchange
import FixedCapacity.Proofs.SlotArray.Access

namespace FixedCapacity.SlotArray

open Call (wordLimit)

variable {α τ : Type}

theorem swap_laid (ys : List α) (x y : α) (zs : List α) (free : List (Option α)) :
    swap ys.length (ys.length + 1) (laid (ys ++ x :: y :: zs) free) =
      ⟨.value (), laid (ys ++ y :: x :: zs) free, [], []⟩ := by
  have hx : read ys.length (laid (ys ++ x :: y :: zs) free) =
      ⟨.value x, laid (ys ++ x :: y :: zs) free, [], []⟩ := read_apply (by simp) _
  have hy : read (ys.length + 1) (laid (ys ++ x :: y :: zs) free) =
      ⟨.value y, laid (ys ++ x :: y :: zs) free, [], []⟩ := read_apply (by simp) _
  have hin : ys.length < (ys ++ x :: y :: zs).length := by simp
  simp only [swap, Call.bind_apply, hx, hy, Report.andThen_value, Report.after_nil, write_laid y free hin]
  rw [write_laid x free (by simp)]
  simp

/-! ## One comparison -/

/-- Compares a pair of neighbours and exchanges them if the first one is greater. -/
def ask (compare : τ → α → α → Ordering × τ) (position : Nat) (t : τ) : Op α τ := do
  let next ← Call.add position 1
  let x ← index position
  let y ← index next
  Call.record (.compared x y)
  let (order, t) := compare t x y
  if order = .gt then swap position next
  pure t

theorem sweep_succ (compare : τ → α → α → Ordering × τ) (position : Nat) (t : τ) (n : Nat) :
    sweep compare position t (n + 1) =
      ask compare position t >>= fun t => sweep (α := α) compare (position + 1) t n := by
  by_cases hnext : position + 1 < wordLimit
  · have hadd : (Call.add position 1 : Op α Nat) = pure (position + 1) := Call.add_of_lt hnext
    simp only [sweep, ask, hadd, pure_bind, bind_assoc]
    congr 1
    funext x
    congr 1
    funext y
    congr 1
    funext _
    split
    · simp only [bind_assoc, pure_bind]
    · simp only [pure_bind]
  · funext a
    simp only [sweep, ask, Call.bind_apply, Call.add, if_neg hnext, Call.violate_apply, Report.andThen_violation]

theorem ask_laid (compare : τ → α → α → Ordering × τ) (t : τ) (ys : List α) (x y : α) (zs : List α)
    (free : List (Option α)) (hw : (ys ++ x :: y :: zs).length < wordLimit) :
    ask compare ys.length t (laid (ys ++ x :: y :: zs) free) =
      ⟨.value (compare t x y).2, laid (ys ++ if (compare t x y).1 = .gt then y :: x :: zs else x :: y :: zs) free,
        [], [.compared x y]⟩ := by
  simp only [List.length_append, List.length_cons] at hw
  have hx : index ys.length (laid (ys ++ x :: y :: zs) free) =
      ⟨.value x, laid (ys ++ x :: y :: zs) free, [], []⟩ := by simp [index_laid]
  have hy : index (ys.length + 1) (laid (ys ++ x :: y :: zs) free) =
      ⟨.value y, laid (ys ++ x :: y :: zs) free, [], []⟩ := by simp [index_laid]
  rw [ask]
  simp only [Call.bind_apply, Call.add_of_lt (show ys.length + 1 < wordLimit by omega), Call.done_apply,
    Report.andThen_value, Report.after_nil, hx, hy, Call.record_apply, Call.ite_apply]
  split
  · simp [swap_laid]
  · simp

/-! ## Sweeps -/

/-- The ledger entry of a comparison. -/
def compared (pair : α × α) : Event α := .compared pair.1 pair.2

theorem sweep_laid (compare : τ → α → α → Ordering × τ) (t : τ) (n : Nat) (ys xs : List α)
    (free : List (Option α)) (hn : n < xs.length) (hw : (ys ++ xs).length < wordLimit) :
    sweep compare ys.length t n (laid (ys ++ xs) free) =
      ⟨.value (Exchange.sweep compare n t xs).state, laid (ys ++ (Exchange.sweep compare n t xs).items) free,
        [], (Exchange.sweep compare n t xs).pairs.map compared⟩ := by
  induction n generalizing t ys xs with
  | zero => simp [sweep, Exchange.sweep]
  | succ n ih =>
    match xs, hn with
    | x :: y :: zs, hn =>
      have hask := ask_laid compare t ys x y zs free hw
      simp only [List.length_append, List.length_cons] at hn hw
      -- What the pair is left as, with the greater one as the head of the rest.
      have hrec (t : τ) (low high : α) := ih t (ys ++ [low]) (high :: zs) (by simp; omega) (by simp; omega)
      simp only [List.length_append, List.length_singleton, List.append_assoc, List.singleton_append] at hrec
      rw [sweep_succ, Call.bind_apply, hask, Report.andThen_value, Exchange.sweep]
      by_cases hgt : (compare t x y).1 = .gt
      · simp [hgt, hrec, compared]
      · simp [hgt, hrec, compared]

/-- With `n + 1` sweeps to make, `n + 1` pairs are not in place yet. -/
theorem sweeps_succ (compare : τ → α → α → Ordering × τ) {len pass n : Nat} (t : τ) (h : pass + (n + 1) + 1 = len) :
    sweeps compare len pass t (n + 1) =
      sweep compare 0 t (n + 1) >>= fun t => sweeps (α := α) compare len (pass + 1) t n := by
  have hswept : (Call.sub len pass : Op α Nat) = pure (n + 2) := by
    rw [Call.sub_of_le (show pass ≤ len by omega), show len - pass = n + 2 by omega]
    rfl
  have hpairs : (Call.sub (n + 2) 1 : Op α Nat) = pure (n + 1) := Call.sub_of_le (by omega)
  rw [sweeps, hswept, pure_bind, hpairs, pure_bind]

theorem sweeps_laid (compare : τ → α → α → Ordering × τ) (t : τ) (pass n : Nat) (xs : List α)
    (free : List (Option α)) (hn : pass + n + 1 = xs.length) (hw : xs.length < wordLimit) :
    sweeps compare xs.length pass t n (laid xs free) =
      ⟨.value (Exchange.sweeps compare n t xs).state, laid (Exchange.sweeps compare n t xs).items free,
        [], (Exchange.sweeps compare n t xs).pairs.map compared⟩ := by
  induction n generalizing t pass xs with
  | zero => rfl
  | succ n ih =>
    have hsweep := sweep_laid compare t (n + 1) [] xs free (by omega) (by simpa using hw)
    simp only [List.length_nil, List.nil_append] at hsweep
    have hlen : (Exchange.sweep compare (n + 1) t xs).items.length = xs.length :=
      Exchange.sweep_perm.length_eq
    have hrest := ih (Exchange.sweep compare (n + 1) t xs).state (pass + 1) _ (by omega) (hlen.trans_lt hw)
    rw [hlen] at hrest
    rw [sweeps_succ compare t hn, Call.bind_apply, hsweep, Report.andThen_value, hrest]
    simp [Exchange.sweeps]

theorem sortBy_laid (compare : τ → α → α → Ordering × τ) (t : τ) (xs : List α) (free : List (Option α))
    (hw : xs.length < wordLimit) :
    sortBy compare t (laid xs free) =
      ⟨.value (Exchange.sort compare t xs).state, laid (Exchange.sort compare t xs).items free,
        if xs.length < 2 then [] else [.span (.sort xs.length)],
        (Exchange.sort compare t xs).pairs.map compared⟩ := by
  simp only [sortBy, Call.bind_apply, Call.get_apply, Report.andThen_value, Report.after_nil, len_laid,
    Call.ite_apply]
  split
  · rw [Exchange.sort, show xs.length - 1 = 0 by omega]
    rfl
  · simp only [Call.enter_apply, Report.andThen_value, Call.bind_apply,
      Call.sub_of_le (show 1 ≤ xs.length by omega), Call.done_apply, Report.after_nil,
      sweeps_laid compare t 0 (xs.length - 1) xs free (by omega) hw]
    simp [Exchange.sort]

end FixedCapacity.SlotArray
