/-
  FixedCapacity.Proofs.SlotArray.Layout — arrays as a list of elements and a rest of free
  slots.

  `laid xs free` is the array whose elements are `xs` and whose free slots, with whatever
  is left in them, are `free`. `Sound` is what every array keeps: the length is within the
  slots, every slot below it holds an element, and positions are words. Sound arrays are
  exactly the laid ones (`sound_iff`), so a call is described by what it makes of `xs` and
  of `free`; each of the modules after this one gives the reports of its calls so.
-/

import FixedCapacity.Proofs.Call
import FixedCapacity.SlotArray.Create
import FixedCapacity.SlotArray.Remove
import FixedCapacity.SlotArray.Sort

namespace FixedCapacity.SlotArray

open Call (wordLimit)

variable {α : Type}

/-- The array with these elements and these free slots behind them. -/
def laid (xs : List α) (free : List (Option α)) : SlotArray α := ⟨xs.map some ++ free, xs.length⟩

/-- What every array keeps between calls. -/
structure Sound (a : SlotArray α) : Prop where
  fits : a.len ≤ a.capacity
  live : ∀ x ∈ a.slots.take a.len, x.isSome
  addressable : a.capacity < wordLimit

section Laid

variable (xs : List α) (free : List (Option α))

-- Not by `rfl`: `simp` must rewrite the length inside conditions together with their instances.
@[simp] theorem slots_laid : (laid xs free).slots = xs.map some ++ free := by simp only [laid]
@[simp] theorem len_laid : (laid xs free).len = xs.length := by simp only [laid]

@[simp] theorem capacity_laid : (laid xs free).capacity = xs.length + free.length := by
  simp [capacity]

@[simp] theorem toList_laid : (laid xs free).toList = xs := by
  simp [toList]

theorem taken_laid : (laid xs free).slots.take (laid xs free).len = xs.map some := by
  simp

theorem empty_eq_laid (capacity : Nat) :
    (empty capacity : SlotArray α) = laid [] (List.replicate capacity none) := rfl

theorem ofFull_eq_laid : ofFull xs = laid xs [] := by simp [ofFull, laid]

theorem sound_laid (h : xs.length + free.length < wordLimit) : Sound (laid xs free) := by
  refine ⟨by simp, ?_, by simpa using h⟩
  rw [taken_laid]
  simp

theorem sound_ofFull (h : xs.length < wordLimit) : Sound (ofFull xs) := by
  rw [ofFull_eq_laid]
  exact sound_laid xs [] h

end Laid

theorem sound_iff {a : SlotArray α} :
    Sound a ↔ ∃ xs free, a = laid xs free ∧ xs.length + free.length < wordLimit := by
  constructor
  · intro h
    obtain ⟨slots, len⟩ := a
    have hlen : len ≤ slots.length := h.fits
    have hxs : (((slots.take len).filterMap id).map some) = slots.take len := by
      rw [List.map_filterMap_some_eq_filter_map_isSome]
      simpa using h.live
    have hn : ((slots.take len).filterMap id).length = len := by
      have := congrArg List.length hxs
      simp only [List.length_map, List.length_take] at this
      omega
    refine ⟨(slots.take len).filterMap id, slots.drop len, ?_, ?_⟩
    · simp only [laid, hxs, hn, List.take_append_drop]
    · have : slots.length < wordLimit := h.addressable
      rw [hn, List.length_drop]
      omega
  · rintro ⟨xs, free, rfl, h⟩
    exact sound_laid xs free h

/-! ## Single slots -/

theorem read_apply {slots : List (Option α)} {i : Nat} {x : α} (h : slots[i]? = some (some x))
    (len : Nat) : read i ⟨slots, len⟩ = ⟨.value x, ⟨slots, len⟩, [], []⟩ := by
  simp [read, h]

theorem write_apply {slots : List (Option α)} {i : Nat} (h : i < slots.length) (x : α) (len : Nat) :
    write i x ⟨slots, len⟩ = ⟨.value (), ⟨slots.set i (some x), len⟩, [], []⟩ := by
  simp [write, capacity, h]

@[simp] theorem setLen_apply (slots : List (Option α)) (len len' : Nat) :
    setLen len' ⟨slots, len⟩ = ⟨.value (), ⟨slots, len'⟩, [], []⟩ := rfl

theorem move_apply {slots : List (Option α)} {i j : Nat} {x : α} (hi : slots[i]? = some (some x))
    (hj : j < slots.length) (len : Nat) :
    move i j ⟨slots, len⟩ = ⟨.value (), ⟨slots.set j (some x), len⟩, [], []⟩ := by
  simp [move, read_apply hi, write_apply hj]

/-! ## Rows of slots -/

/-- Writing over the last slot of a row. -/
theorem set_row_last (pre row rest : List (Option α)) (v : Option α) (i : Nat)
    (hi : pre.length + row.length = i + 1) (hrow : row ≠ []) :
    (pre ++ (row ++ rest)).set i v = pre ++ (row.take (row.length - 1) ++ v :: rest) := by
  have hpos := List.length_pos_iff.mpr hrow
  obtain rfl : i = pre.length + (row.length - 1) := by omega
  rw [List.set_append_right _ _ (by omega), Nat.add_sub_cancel_left,
    List.set_append_left _ _ (by omega), List.set_eq_take_append_cons_drop, if_pos (by omega),
    List.drop_eq_nil_of_le (by omega)]
  simp

end FixedCapacity.SlotArray
