/-
  FixedCapacity.SlotArray.Create — making arrays.

  An array has its slots inline (`SlotArray.empty`), in one allocation (`allocate`), or
  borrowed. A copy has the capacity of what it was copied from.
-/

import FixedCapacity.Memory
import FixedCapacity.SlotArray.Insert

namespace FixedCapacity.SlotArray

variable {α σ : Type}

/-- An array with inline slots that holds copies of some elements. -/
def ofList (capacity : Nat) (items : List α) : Call σ α (SlotArray α) :=
  Call.build (empty capacity) (extend items)

/-- An empty array whose slots are allocated. -/
def allocate (capacity : Nat) (allocator : Memory.Allocator := Memory.grants) :
    Call σ α (SlotArray α) :=
  if capacity = 0 then Call.refuse .invalidArgument
  else do
    Call.enter (.allocate .array capacity)
    if allocator capacity then pure (empty capacity)
    else
      Call.alert (.allocationFailed .array capacity)
      Call.refuse .noMemory

/-- Appends copies of elements one by one. -/
def copyEach : List α → Op α Unit
  | [] => pure ()
  | x :: rest => do
    Call.record (.cloned x)
    place x
    copyEach rest

/-- A copy of an array with inline slots. -/
def clone (a : SlotArray α) : Call σ α (SlotArray α) :=
  Call.build (empty a.capacity) (copyEach a.toList)

/-- A copy of an array with allocated slots, in an allocation of its own. -/
def cloneAllocated (a : SlotArray α) (allocator : Memory.Allocator := Memory.grants) :
    Call σ α (SlotArray α) := do
  let copy ← allocate a.capacity allocator
  Call.build copy (extend a.toList)

end FixedCapacity.SlotArray
