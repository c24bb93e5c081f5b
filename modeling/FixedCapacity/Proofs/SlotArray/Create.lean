/-
  FixedCapacity.Proofs.SlotArray.Create — reports of the calls that make arrays. A made
  array is laid out over slots that were never written, and holds copies of what it was
  made from.
-/

import FixedCapacity.Proofs.SlotArray.Insert

namespace FixedCapacity.SlotArray

open Call (wordLimit)

variable {α σ : Type}

theorem build_value {τ : Type} {start made : τ} {c : Call τ α Unit} {trace : List Trace.Entry}
    {ledger : List (Event α)} (h : c start = ⟨.value (), made, trace, ledger⟩) (s : σ) :
    Call.build start c s = ⟨.value made, s, trace, ledger⟩ := by
  simp [Call.build, h]

theorem build_error {τ : Type} {start left : τ} {c : Call τ α Unit} {kind : Error.Kind}
    {trace : List Trace.Entry} {ledger : List (Event α)}
    (h : c start = ⟨.error kind, left, trace, ledger⟩) (s : σ) :
    Call.build start c s = ⟨.error kind, s, trace, ledger⟩ := by
  simp [Call.build, h]

theorem copyEach_laid (items xs : List α) (free : List (Option α)) (hroom : items.length ≤ free.length)
    (hw : xs.length + free.length < wordLimit) :
    copyEach items (laid xs free) =
      ⟨.value (), laid (xs ++ items) (free.drop items.length), [], items.map .cloned⟩ := by
  induction items generalizing xs free with
  | nil => simp [copyEach]
  | cons x items ih =>
    rw [List.length_cons] at hroom
    obtain ⟨slot, free, rfl⟩ : ∃ slot rest, free = slot :: rest :=
      List.exists_cons_of_length_pos (by omega)
    rw [List.length_cons] at hroom hw
    rw [copyEach]
    simp only [Call.bind_apply, Call.record_apply, Report.andThen_value,
      place_laid x xs slot free (by omega), ih (xs ++ [x]) free (by omega) (by simp; omega)]
    simp

theorem clone_laid (xs : List α) (free : List (Option α)) (hw : xs.length + free.length < wordLimit)
    (s : σ) :
    clone (laid xs free) s =
      ⟨.value (laid xs (List.replicate free.length none)), s, [], xs.map .cloned⟩ := by
  rw [clone, capacity_laid, toList_laid, empty_eq_laid]
  refine build_value ?_ s
  rw [copyEach_laid xs [] _ (by simp) (by simpa using hw)]
  simp

theorem ofList_apply (capacity : Nat) (items : List α) (hw : capacity < wordLimit) (s : σ) :
    ofList capacity items s =
      if capacity < items.length then
        ⟨.error .noMemory, s, [.alert (.insertOverflow .array 0 items.length capacity)], []⟩
      else
        ⟨.value (laid items (List.replicate (capacity - items.length) none)), s,
          if items = [] then [] else [.span (.insert .array 0 items.length capacity)],
          items.map .cloned⟩ := by
  have h := extend_laid items [] (List.replicate capacity none) (by simpa using hw)
  simp only [List.length_nil, List.length_replicate, List.nil_append, List.drop_replicate, Nat.zero_add] at h
  rw [ofList, empty_eq_laid]
  by_cases hover : capacity < items.length
  · rw [if_pos hover] at h ⊢
    exact build_error h s
  · rw [if_neg hover] at h ⊢
    exact build_value h s

theorem allocate_apply (capacity : Nat) (allocator : Memory.Allocator) (s : σ) :
    (allocate capacity allocator : Call σ α _) s =
      if capacity = 0 then ⟨.error .invalidArgument, s, [], []⟩
      else if allocator capacity then
        ⟨.value (empty capacity), s, [.span (.allocate .array capacity)], []⟩
      else
        ⟨.error .noMemory, s,
          [.span (.allocate .array capacity), .alert (.allocationFailed .array capacity)], []⟩ := by
  simp only [allocate, Call.ite_apply, Call.refuse_apply, Call.bind_apply, Call.enter_apply,
    Report.andThen_value, Call.pure_apply, Call.alert_apply]
  repeat' split
  all_goals rfl

/-- A copy in an allocation of its own, or no copy and nothing copied. -/
theorem cloneAllocated_laid (xs : List α) (free : List (Option α)) (allocator : Memory.Allocator)
    (hw : xs.length + free.length < wordLimit) (s : σ) :
    cloneAllocated (laid xs free) allocator s =
      if xs.length + free.length = 0 then ⟨.error .invalidArgument, s, [], []⟩
      else if allocator (xs.length + free.length) then
        ⟨.value (laid xs (List.replicate free.length none)), s,
          .span (.allocate .array (xs.length + free.length)) ::
            if xs = [] then [] else [.span (.insert .array 0 xs.length (xs.length + free.length))],
          xs.map .cloned⟩
      else
        ⟨.error .noMemory, s,
          [.span (.allocate .array (xs.length + free.length)),
            .alert (.allocationFailed .array (xs.length + free.length))], []⟩ := by
  rw [cloneAllocated, Call.bind_apply, capacity_laid, allocate_apply, toList_laid]
  split
  · rfl
  split
  · have h := extend_laid xs [] (List.replicate (xs.length + free.length) none) (by simpa using hw)
    rw [if_neg (by simp)] at h
    rw [Report.andThen_value, empty_eq_laid, build_value h]
    simp
  · rfl

end FixedCapacity.SlotArray
