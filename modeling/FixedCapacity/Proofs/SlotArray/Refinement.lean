/-
  FixedCapacity.Proofs.SlotArray.Refinement — an array is a list of bounded length.

  `Storage` are the arrays a caller starts from: slots inline, in an allocation, borrowed
  with whatever lies in them, or borrowed with an element in every one. `Shows` compares
  the report of a call on slots with that of the same call on a list. Over any sequence of
  calls each report shows what the list's does (`slots_refine_list`).
-/

import FixedCapacity.Proofs.SlotArray.Action

namespace FixedCapacity.SlotArray

open Call (wordLimit)

variable {α : Type}

/-! ## What one call does -/

/-- No call on the list goes beyond the capacity. -/
theorem length_onList_le (action : Action α) {capacity : Nat} {xs : List α} (h : xs.length ≤ capacity) :
    (action.onList capacity xs).state.length ≤ capacity := by
  cases action with
  | pushBack | emplaceBack | emplaceNew =>
    simp only [Action.onList, ListReport.push]
    split
    · exact h
    · simp; omega
  | popBack => simp [Action.onList, ListReport.found]; omega
  | truncate => simp [Action.onList, ListReport.truncate]; omega
  | clear => simp [Action.onList, ListReport.truncate]
  | resize | resizeDefault | resizeWith =>
    simp only [Action.onList, ListReport.resize]
    split
    · exact h
    · simp; omega
  | insert | extend | append =>
    simp only [Action.onList, ListReport.insert]
    repeat' split
    all_goals simp; omega
  | assign =>
    simp only [Action.onList, ListReport.assign]
    split
    · exact h
    · simp; omega
  | remove =>
    simp only [Action.onList, ListReport.found]
    exact (List.length_eraseIdx_le _ _).trans h
  | removeIf test t =>
    have := Predicate.length_kept_add_accepted test t xs
    simp only [Action.onList, ListReport.removeIf]
    omega
  | removeRange =>
    simp only [Action.onList, ListReport.removeRange]
    split
    · exact h
    · rename_i hr
      have := Bounds.resolve_le hr
      simp; omega
  | sort | sortBy =>
    simp only [Action.onList, ListReport.sort]
    exact (Exchange.sort_perm.length_eq).trans_le h
  | _ => simpa [Action.onList, ListReport.found, ListReport.search] using h

/-- The slots behind the elements make up the capacity. -/
theorem length_left (action : Action α) (xs : List α) (free : List (Option α)) :
    let ys := (action.onList (xs.length + free.length) xs).state
    ys.length + (action.left xs free ys).length = xs.length + free.length := by
  have h := length_onList_le action (Nat.le_add_right xs.length free.length)
  cases action with
  | removeIf test t =>
    have := Predicate.length_kept_add_accepted test t xs
    simp only [Action.onList, ListReport.removeIf, Action.left, List.length_append, List.length_replicate]
    omega
  | _ => simp only [Action.left, List.length_drop, List.length_append, List.length_map]; omega

/-- The report of a call on slots shows what that of a call on a list does: the slots below the length
read exactly the list, and all else is the same. -/
structure Shows (capacity : Nat) (r : Report (SlotArray α) α (Answer α)) (q : ListReport α) : Prop where
  outcome : r.outcome = q.outcome
  len : r.state.len = q.state.length
  slots : r.state.slots.take r.state.len = q.state.map some
  sized : r.state.capacity = capacity
  bounded : q.state.length ≤ capacity
  trace : r.trace = q.trace
  ledger : r.ledger = q.ledger

theorem run_shows (action : Action α) (xs : List α) (free : List (Option α))
    (hw : xs.length + free.length < wordLimit) :
    Shows (xs.length + free.length) (action.run (laid xs free))
      (action.onList (xs.length + free.length) xs) := by
  rw [Action.run_laid action xs free hw]
  exact ⟨rfl, rfl, taken_laid _ _, (capacity_laid _ _).trans (length_left action xs free),
    length_onList_le action (Nat.le_add_right _ _), rfl, rfl⟩

/-! ## Runs -/

theorem history_shows (actions : List (Action α)) (xs : List α) (free : List (Option α))
    (hw : xs.length + free.length < wordLimit) :
    List.Forall₂ (Shows (xs.length + free.length)) (Call.history (actions.map Action.run) (laid xs free))
      (Call.history (actions.map (Action.onList (xs.length + free.length))) xs) := by
  induction actions generalizing xs free with
  | nil => exact .nil
  | cons action actions ih =>
    refine .cons (run_shows action xs free hw) ?_
    -- The call leaves a laid array of the same capacity, from which the rest goes on.
    have hlen := length_left action xs free
    have hrest := ih (action.onList (xs.length + free.length) xs).state
      (action.left xs free (action.onList (xs.length + free.length) xs).state) (by rw [hlen]; exact hw)
    rw [hlen] at hrest
    rw [Action.run_laid action xs free hw]
    exact hrest

/-! ## The arrays to start from -/

/-- Where the slots of an array lie, and what they hold before the first call. -/
inductive Storage (α : Type) where
  | inline (capacity : Nat)
  | inlineOf (capacity : Nat) (items : List α)
  | allocated (capacity : Nat) (allocator : Memory.Allocator)
  | borrowed (memory : List (Option α))
  | filled (items : List α)

namespace Storage

/-- How many slots there are. -/
def size : Storage α → Nat
  | inline capacity | inlineOf capacity _ | allocated capacity _ => capacity
  | borrowed memory => memory.length
  | filled items => items.length

/-- The elements at the start. -/
def content : Storage α → List α
  | inline _ | allocated _ _ | borrowed _ => []
  | inlineOf _ items | filled items => items

/-- Makes the array; an allocation may be refused, and so may items that do not fit. -/
def create : Storage α → Call Unit α (SlotArray α)
  | inline capacity => pure (empty capacity)
  | inlineOf capacity items => ofList capacity items
  | allocated capacity allocator => allocate capacity allocator
  | borrowed memory => pure ⟨memory, 0⟩
  | filled items => pure (ofFull items)

theorem create_laid {storage : Storage α} (hw : storage.size < wordLimit) {a : SlotArray α}
    (ha : (storage.create ()).outcome = .value a) :
    ∃ free, a = laid storage.content free ∧ storage.content.length + free.length = storage.size := by
  cases storage with
  | inline capacity =>
    cases ha
    exact ⟨_, empty_eq_laid capacity, by simp [content, size]⟩
  | inlineOf capacity items =>
    simp only [create, ofList_apply capacity items hw] at ha
    split at ha
    · cases ha
    · cases ha
      exact ⟨_, rfl, by simp [content, size]; omega⟩
  | allocated capacity allocator =>
    simp only [create, allocate_apply] at ha
    repeat' split at ha
    all_goals cases ha
    exact ⟨_, empty_eq_laid capacity, by simp [content, size]⟩
  | borrowed memory =>
    cases ha
    exact ⟨memory, rfl, by simp [content, size]⟩
  | filled items =>
    cases ha
    exact ⟨[], ofFull_eq_laid items, by simp [content, size]⟩

end Storage

/-- Whatever storage an array starts from, after every call of every sequence its slots below the
length read exactly the list, and the call ended as it ends on the list. -/
theorem slots_refine_list (storage : Storage α) (hw : storage.size < wordLimit) {a : SlotArray α}
    (ha : (storage.create ()).outcome = .value a) (actions : List (Action α)) :
    List.Forall₂ (Shows storage.size) (Call.history (actions.map Action.run) a)
      (Call.history (actions.map (Action.onList storage.size)) storage.content) := by
  obtain ⟨free, rfl, hsize⟩ := Storage.create_laid hw ha
  rw [← hsize]
  exact history_shows actions _ free (by omega)

/-- An insertion into the middle, one too long, a removal at either end of the elements, and a length
beyond the capacity. -/
theorem slots_refine_list_of_three :
    (Storage.inline 3 : Storage Nat).size < wordLimit ∧
      ((Storage.inline 3 : Storage Nat).create ()).outcome = .value (empty 3) ∧
      let actions : List (Action Nat) :=
        [.insert 0 [4, 6], .insert 1 [5], .insert 3 [7], .remove 3, .remove 0, .resize 4 0]
      List.Forall₂ (Shows 3) (Call.history (actions.map Action.run) (empty 3))
        (Call.history (actions.map (Action.onList 3)) []) :=
  ⟨by decide, rfl, slots_refine_list (.inline 3) (by decide) rfl _⟩

end FixedCapacity.SlotArray
