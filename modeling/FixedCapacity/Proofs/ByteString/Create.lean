/-
  FixedCapacity.Proofs.ByteString.Create — reports of the calls that make strings. A made
  string holds what it was made from, with zeros behind it up to its capacity; it takes
  nothing else from its original.
-/

import FixedCapacity.Proofs.ByteString.Edit

namespace FixedCapacity.ByteString

open Call (wordLimit)

variable {σ α : Type}

theorem allocate_apply (capacity : Nat) (allocator : Memory.Allocator) (u : σ) :
    (allocate capacity allocator : Call σ α ByteString) u =
      if capacity + 1 < wordLimit then
        if allocator (capacity + 1) then
          ⟨.value (empty capacity), u, [.span (.allocate .string (capacity + 1))], []⟩
        else
          ⟨.error .noMemory, u,
            [.span (.allocate .string (capacity + 1)), .alert (.allocationFailed .string (capacity + 1))],
            []⟩
      else ⟨.error .noMemory, u, [], []⟩ := by
  simp only [allocate, Call.ite_apply, Call.bind_apply, Call.enter_apply, Report.andThen_value,
    Call.pure_apply, Call.alert_apply, Call.refuse_apply]
  repeat' split
  all_goals rfl

/-- The storage is fresh and fits its text whatever the capacity is: no position is a sum that could
leave the words. -/
theorem ofBytes_apply (capacity : Nat) (text : List UInt8) (u : σ) :
    (ofBytes capacity text : Call σ α ByteString) u =
      if capacity < text.length then ⟨.error .noMemory, u, [], []⟩
      else ⟨.value (closed text (List.replicate (capacity - text.length) 0)), u, [], []⟩ := by
  have hsize : (empty capacity).capacity = capacity := by simp [empty, ByteString.capacity]
  have hstorage : (empty capacity).storage.length = capacity + 1 := by simp [empty]
  by_cases h : capacity < text.length
  · rw [if_pos h]
    simp [ofBytes, Call.buildPlain, assign, hsize, h]
  · rw [if_neg h]
    have hstored := store_behind (s := empty capacity) text List.length_nil (by omega)
    have hclosed := setLen_written (s := empty capacity) (rfl : text.length = _) (by omega)
    have hheld : (empty capacity).holding text = closed text (List.replicate (capacity - text.length) 0) := by
      simp [holding, empty, List.drop_replicate]
    rw [written_nil, List.nil_append] at hstored
    simp [ofBytes, Call.buildPlain, assign, hsize, h, hstored, hclosed, hheld]

theorem cloneAllocated_apply {s : ByteString} (hs : Sound s) (allocator : Memory.Allocator) (u : σ) :
    (s.cloneAllocated allocator : Call σ α ByteString) u =
      if allocator (s.capacity + 1) then
        ⟨.value (closed s.content (List.replicate (s.capacity - s.len) 0)), u,
          [.span (.allocate .string (s.capacity + 1))], []⟩
      else
        ⟨.error .noMemory, u,
          [.span (.allocate .string (s.capacity + 1)), .alert (.allocationFailed .string (s.capacity + 1))],
          []⟩ := by
  have hlen := length_content hs
  have hfits := len_le_capacity hs
  have hword : s.capacity + 1 < wordLimit := by
    have hpos := hs.fits
    have hsize := hs.addressable
    simp only [capacity]
    omega
  have hcopy := ofBytes_apply (α := α) s.capacity s.content u
  rw [if_neg (by omega), hlen, ofBytes] at hcopy
  rw [cloneAllocated, Call.bind_apply, allocate_apply, if_pos hword]
  by_cases hgrant : allocator (s.capacity + 1)
  · rw [if_pos hgrant, if_pos hgrant, Report.andThen_value, hcopy]
    rfl
  · rw [if_neg hgrant, if_neg hgrant]
    rfl

/-- A copy has the capacity and the content of its original. -/
theorem sound_copy {s : ByteString} (hs : Sound s) :
    Sound (closed s.content (List.replicate (s.capacity - s.len) 0)) ∧
      (closed s.content (List.replicate (s.capacity - s.len) 0)).capacity = s.capacity := by
  have hlen := length_content hs
  have hfits := len_le_capacity hs
  have hpos := hs.fits
  have hsize := hs.addressable
  refine ⟨sound_closed _ _ ?_, ?_⟩
  · simp only [List.length_replicate, capacity] at hfits ⊢
    omega
  · rw [capacity_closed, List.length_replicate]
    omega

end FixedCapacity.ByteString
