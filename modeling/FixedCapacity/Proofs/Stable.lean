/-
  FixedCapacity.Proofs.Stable — a sorted array, and ties in their old order.

  A comparison that orders (`Std.TransCmp`: its answer turns round with its arguments, and
  being at most passes on) need not tell all elements apart. `Arranged` says what becomes of
  those it does not: nobody comes before a smaller one, and the elements that tie with any
  given one follow each other as they did. There is one such arrangement only
  (`Arranged.unique`), which is why a sorted array is left alone.

  The exchange sort reaches it. A sweep carries the greatest element of the part it passes
  over to the end of that part (`sweep_carries`), so after each sweep one more place at the
  end is final (`sweeps_sorted`); and it never exchanges a tie (`sweep_ties`).
-/

import FixedCapacity.Proofs.SlotArray.Sort

namespace FixedCapacity

variable {α τ : Type} {cmp : α → α → Ordering}

/-- The elements that a comparison does not tell from a given one. -/
def ties (cmp : α → α → Ordering) (z : α) (xs : List α) : List α := xs.filter fun x => cmp z x = .eq

/-- A list in the order of a comparison, with what ties in its old order. -/
structure Arranged (cmp : α → α → Ordering) (xs ys : List α) : Prop where
  perm : ys.Perm xs
  sorted : ys.Pairwise fun x y => cmp x y ≠ .gt
  stable : ∀ z, ties cmp z ys = ties cmp z xs

/-! ## There is one arrangement -/

section Unique

variable [Std.TransCmp cmp]

theorem ne_gt_trans {x y z : α} (h : cmp x y ≠ .gt) (h' : cmp y z ≠ .gt) : cmp x z ≠ .gt := by
  exact Ordering.isLE_iff_ne_gt.mp
    (Std.TransCmp.isLE_trans (Ordering.isLE_iff_ne_gt.mpr h) (Ordering.isLE_iff_ne_gt.mpr h'))

theorem self_ne_gt (x : α) : cmp x x ≠ .gt := by
  have hsame : cmp x x = .eq := Std.ReflCmp.compare_self
  rw [hsame]
  nofun

theorem mem_ties_self {x : α} {xs : List α} : x ∈ ties cmp x xs ↔ x ∈ xs := by
  simp [ties, Std.ReflCmp.compare_self]

/-- Lists with the same ties have the same elements. -/
theorem mem_of_ties {xs ys : List α} (h : ∀ z, ties cmp z xs = ties cmp z ys) {x : α} (hx : x ∈ xs) : x ∈ ys := by
  have hown : x ∈ ties cmp x xs := mem_ties_self.mpr hx
  rw [h x] at hown
  exact mem_ties_self.mp hown

/-- The first element of a sorted list comes after none of its elements. -/
theorem head_ne_gt {x y : α} {xs : List α} (h : (x :: xs).Pairwise fun x y => cmp x y ≠ .gt) (hy : y ∈ x :: xs) :
    cmp x y ≠ .gt := by
  rcases List.mem_cons.mp hy with rfl | hy
  · exact self_ne_gt _
  · exact (List.pairwise_cons.mp h).1 y hy

theorem eq_of_ties {xs ys : List α} (hxs : xs.Pairwise fun x y => cmp x y ≠ .gt)
    (hys : ys.Pairwise fun x y => cmp x y ≠ .gt) (h : ∀ z, ties cmp z xs = ties cmp z ys) : xs = ys := by
  induction xs generalizing ys with
  | nil =>
    cases ys with
    | nil => rfl
    | cons y ys => exact absurd (mem_of_ties (fun z => (h z).symm) List.mem_cons_self) List.not_mem_nil
  | cons x xs ih =>
    cases ys with
    | nil => exact absurd (mem_of_ties h List.mem_cons_self) List.not_mem_nil
    | cons y ys =>
      -- Each head is in the other list, so neither comes after the other: they tie, and the ties
      -- of either begin with the head.
      have hxy : (cmp x y).isLE :=
        Ordering.isLE_iff_ne_gt.mpr (head_ne_gt hxs (mem_of_ties (fun z => (h z).symm) List.mem_cons_self))
      have hyx : (cmp y x).isLE :=
        Ordering.isLE_iff_ne_gt.mpr (head_ne_gt hys (mem_of_ties h List.mem_cons_self))
      have htie : cmp x y = .eq := Std.OrientedCmp.isLE_antisymm hxy hyx
      obtain rfl : x = y := by
        have hheads := h x
        simp only [ties, List.filter_cons, Std.ReflCmp.compare_self, htie] at hheads
        exact (List.cons.inj hheads).1
      have hrest (z : α) : ties cmp z xs = ties cmp z ys := by
        have hz := h z
        simp only [ties, List.filter_cons] at hz
        split at hz
        · exact (List.cons.inj hz).2
        · exact hz
      rw [ih (List.pairwise_cons.mp hxs).2 (List.pairwise_cons.mp hys).2 hrest]

theorem Arranged.unique {xs ys zs : List α} (hys : Arranged cmp xs ys) (hzs : Arranged cmp xs zs) : ys = zs :=
  eq_of_ties hys.sorted hzs.sorted fun z => (hys.stable z).trans (hzs.stable z).symm

end Unique

/-- A list in order is its own arrangement. -/
theorem Arranged.again {xs ys : List α} (h : Arranged cmp xs ys) : Arranged cmp ys ys :=
  ⟨.refl ys, h.sorted, fun _ => rfl⟩

/-! ## The exchange sort arranges -/

namespace Exchange

variable {compare : τ → α → α → Ordering × τ} {t : τ} {xs : List α} {n : Nat}

/-- The comparison answers as `cmp` does, whatever its state. -/
def Follows (compare : τ → α → α → Ordering × τ) (cmp : α → α → Ordering) : Prop :=
  ∀ t x y, (compare t x y).1 = cmp x y

/-- What ties is never exchanged. -/
theorem sweep_ties [Std.TransCmp cmp] (h : Follows compare cmp) (z : α) :
    ties cmp z (sweep compare n t xs).items = ties cmp z xs := by
  fun_induction sweep compare n t xs with
  | case1 n t x y rest order t' hanswer r ih =>
    have horder : order = cmp x y := by rw [← h t x y, hanswer]
    change ties cmp z r.items = _ at ih
    by_cases hgt : order = .gt
    · have hapart : ¬ (cmp z x = .eq ∧ cmp z y = .eq) := by
        rintro ⟨hx, hy⟩
        rw [horder, ← Std.TransCmp.congr_left hx, hy] at hgt
        cases hgt
      rw [if_pos hgt] at ih ⊢
      simp only [ties, List.filter_cons] at ih ⊢
      rw [ih]
      grind
    · rw [if_neg hgt] at ih ⊢
      simp only [ties, List.filter_cons] at ih ⊢
      rw [ih]
  | case2 => rfl

/-- Of two neighbours a sweep leaves the one that does not come after the other, and carries that one on. -/
theorem low_ne_gt [Std.TransCmp cmp] (x y : α) :
    cmp (if cmp x y = .gt then y else x) (if cmp x y = .gt then x else y) ≠ .gt := by
  by_cases hgt : cmp x y = .gt
  · rw [if_pos hgt, if_pos hgt, Std.OrientedCmp.gt_iff_lt.mp hgt]
    nofun
  · rw [if_neg hgt, if_neg hgt]
    exact hgt

/-- A sweep over `n` pairs carries the greatest of the first `n + 1` elements to the end of them and
leaves those behind alone. -/
theorem sweep_carries [Std.TransCmp cmp] (h : Follows compare cmp) (hn : n < xs.length) :
    ∃ front last, (sweep compare n t xs).items = front ++ last :: xs.drop (n + 1) ∧
      (front ++ [last]).Perm (xs.take (n + 1)) ∧ ∀ x ∈ front, cmp x last ≠ .gt := by
  induction n generalizing t xs with
  | zero =>
    obtain ⟨x, rest, rfl⟩ := List.exists_cons_of_length_pos hn
    exact ⟨[], x, by simp [sweep], by simp, by simp⟩
  | succ n ih =>
    obtain ⟨x, tail, rfl⟩ := List.exists_cons_of_length_pos (Nat.zero_lt_of_lt hn)
    have htail : n < tail.length := Nat.lt_of_succ_lt_succ hn
    obtain ⟨y, rest, rfl⟩ := List.exists_cons_of_length_pos (Nat.zero_lt_of_lt htail)
    have hanswer : (compare t x y).1 = cmp x y := h t x y
    obtain ⟨front, last, hitems, hperm, hlast⟩ :=
      @ih (compare t x y).2 ((if cmp x y = .gt then x else y) :: rest) htail
    refine ⟨(if cmp x y = .gt then y else x) :: front, last, ?_, ?_, ?_⟩
    · simp only [sweep, hanswer, hitems, List.cons_append, List.drop_succ_cons]
    · rw [List.cons_append, List.take_succ_cons]
      refine (hperm.cons _).trans ?_
      rw [List.take_succ_cons, List.take_succ_cons]
      split
      · exact .swap x y _
      · exact .refl _
    · -- What is carried on is one of the elements the rest of the sweep passes over.
      have hcarried : cmp (if cmp x y = .gt then x else y) last ≠ .gt := by
        have hmem := hperm.mem_iff.mpr List.mem_cons_self
        rcases List.mem_append.mp hmem with hfront | hend
        · exact hlast _ hfront
        · rw [List.mem_singleton.mp hend]
          exact self_ne_gt last
      rintro z hz
      rcases List.mem_cons.mp hz with rfl | hz
      · exact ne_gt_trans (low_ne_gt x y) hcarried
      · exact hlast z hz

/-- Sweeps put in order what is behind them already and comes after all that they pass over. -/
theorem sweeps_sorted [Std.TransCmp cmp] (h : Follows compare cmp) (hn : n < xs.length)
    (hrest : (xs.drop (n + 1)).Pairwise fun x y => cmp x y ≠ .gt)
    (hbelow : ∀ x ∈ xs.take (n + 1), ∀ y ∈ xs.drop (n + 1), cmp x y ≠ .gt) :
    (sweeps compare n t xs).items.Pairwise fun x y => cmp x y ≠ .gt := by
  induction n generalizing t xs with
  | zero =>
    obtain ⟨x, rest, rfl⟩ := List.exists_cons_of_length_pos hn
    exact List.pairwise_cons.mpr ⟨fun y hy => hbelow x (by simp) y hy, hrest⟩
  | succ n ih =>
    obtain ⟨front, last, hitems, hperm, hlast⟩ := sweep_carries (t := t) h hn
    have hlength : front.length = n + 1 := by
      have := hperm.length_eq
      rw [List.length_append, List.length_singleton, List.length_take] at this
      omega
    -- The place of the greatest is final: it comes after the elements in front and before the rest.
    have hbehind (x : α) (hx : x ∈ front ++ [last]) (y : α) (hy : y ∈ xs.drop (n + 2)) : cmp x y ≠ .gt :=
      hbelow x (hperm.mem_iff.mp hx) y hy
    rw [sweeps]
    refine ih ?_ ?_ ?_
    · rw [hitems, List.length_append, List.length_cons]
      omega
    · rw [hitems, List.drop_left' hlength]
      exact List.pairwise_cons.mpr ⟨fun y hy => hbehind last (by simp) y hy, hrest⟩
    · rw [hitems, List.take_left' hlength, List.drop_left' hlength]
      rintro x hx y hy
      rcases List.mem_cons.mp hy with rfl | hy
      · exact hlast x hx
      · exact hbehind x (by simp [hx]) y hy

theorem sweeps_ties [Std.TransCmp cmp] (h : Follows compare cmp) (z : α) :
    ties cmp z (sweeps compare n t xs).items = ties cmp z xs := by
  induction n generalizing t xs with
  | zero => rfl
  | succ n ih => exact ih.trans (sweep_ties h z)

theorem sort_arranged [Std.TransCmp cmp] (h : Follows compare cmp) (t : τ) (xs : List α) :
    Arranged cmp xs (sort compare t xs).items := by
  refine ⟨sort_perm, ?_, fun z => sweeps_ties h z⟩
  cases xs with
  | nil => exact .nil
  | cons x xs => exact sweeps_sorted h (by simp) (by simp) (by simp)

end Exchange

/-! ## Arrays -/

namespace SlotArray

/-- The array is sorted, and could not be sorted otherwise. -/
structure Sorted (cmp : α → α → Ordering) (a sorted : SlotArray α) : Prop where
  arranged : Arranged cmp a.toList sorted.toList
  unique : ∀ ys, Arranged cmp a.toList ys → ys = sorted.toList

variable {a : SlotArray α} {compare : τ → α → α → Ordering × τ}

theorem sortBy_sorted [Std.TransCmp cmp] (h : Exchange.Follows compare cmp) (ha : Sound a) (t : τ) :
    (sortBy compare t a).outcome = .value (Exchange.sort compare t a.toList).state ∧
      Sorted cmp a (sortBy compare t a).state := by
  obtain ⟨xs, free, rfl, hw⟩ := sound_iff.mp ha
  have harranged := Exchange.sort_arranged h t xs
  rw [sortBy_laid compare t xs free (by omega), toList_laid]
  refine ⟨rfl, ?_, fun ys hys => ?_⟩
  · rwa [toList_laid, toList_laid]
  · rw [toList_laid] at hys ⊢
    exact hys.unique harranged

/-- Sorting what is sorted changes nothing. -/
theorem sortBy_again [Std.TransCmp cmp] (h : Exchange.Follows compare cmp) (ha : Sound a) (t t' : τ) :
    (sortBy compare t' (sortBy compare t a).state).state = (sortBy compare t a).state := by
  obtain ⟨xs, free, rfl, hw⟩ := sound_iff.mp ha
  have harranged := Exchange.sort_arranged h t xs
  have hlength := harranged.perm.length_eq
  have hsame := (Exchange.sort_arranged h t' (Exchange.sort compare t xs).items).unique harranged.again
  rw [sortBy_laid compare t xs free (by omega), sortBy_laid compare t' _ free (by omega), hsame]

/-- Whatever state a comparison that orders carries along, sorting by it returns and leaves the one
arrangement of the elements in which ties keep their order; sorting again, from whatever state, changes
nothing. Sorting in the natural order is sorting by the comparison of the elements' type. -/
theorem sorting_is_stable :
    (∀ {α τ : Type} {cmp : α → α → Ordering} [Std.TransCmp cmp] {compare : τ → α → α → Ordering × τ},
      Exchange.Follows compare cmp → ∀ {a : SlotArray α}, Sound a → ∀ t : τ,
        (∃ t', (sortBy compare t a).outcome = .value t') ∧ Sorted cmp a (sortBy compare t a).state ∧
          ∀ t', (sortBy compare t' (sortBy compare t a).state).state = (sortBy compare t a).state) ∧
      ∀ {α : Type} [Ord α] [Std.TransOrd α] {a : SlotArray α}, Sound a →
        (sort a).outcome = .value () ∧ Sorted Ord.compare a (sort a).state ∧
          (sort (sort a).state).state = (sort a).state := by
  constructor
  case left =>
    intro α τ cmp _ compare h a ha t
    obtain ⟨hvalue, hsorted⟩ := sortBy_sorted h ha t
    exact ⟨⟨_, hvalue⟩, hsorted, sortBy_again h ha t⟩
  case right =>
    intro α _ _ a ha
    have hnatural : Exchange.Follows (fun (t : Unit) (x y : α) => (Ord.compare x y, t)) Ord.compare := fun _ _ _ => rfl
    obtain ⟨hvalue, hsorted⟩ := sortBy_sorted hnatural ha ()
    exact ⟨hvalue, hsorted, sortBy_again hnatural ha () ()⟩

/-- Pairs by their first parts only, compared by one that counts its questions: the two pairs that tie
keep their order. The natural order tells them apart. -/
theorem sorting_is_stable_of_pairs :
    let byFirst := compareOn (Prod.fst : Nat × Nat → Nat)
    let counting (count : Nat) (x y : Nat × Nat) := (byFirst x y, count + 1)
    let pairs : SlotArray (Nat × Nat) := .ofFull [(2, 0), (1, 1), (2, 2), (0, 3)]
    let numbers : SlotArray Nat := .ofFull [3, 1, 2]
    Std.TransCmp byFirst ∧ Exchange.Follows counting byFirst ∧ Sound pairs ∧
      Sorted byFirst pairs (sortBy counting 0 pairs).state ∧
      (sortBy counting 0 pairs).state.toList = [(0, 3), (1, 1), (2, 0), (2, 2)] ∧
      Sound numbers ∧ Sorted Ord.compare numbers (sort numbers).state ∧
      (sort numbers).state.toList = [1, 2, 3] := by
  intro byFirst counting pairs numbers
  have hfollows : Exchange.Follows counting byFirst := fun _ _ _ => rfl
  have hpairs : Sound pairs := sound_ofFull _ (by decide)
  have hnumbers : Sound numbers := sound_ofFull _ (by decide)
  obtain ⟨hby, hnatural⟩ := sorting_is_stable
  exact ⟨inferInstanceAs (Std.TransCmp (compareOn Prod.fst)), hfollows, hpairs, (hby hfollows hpairs 0).2.1,
    by decide +kernel, hnumbers, (hnatural hnumbers).2.1, by decide +kernel⟩

end SlotArray

end FixedCapacity
