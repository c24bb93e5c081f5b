/-
  FixedCapacity.Region.Basic — a run of bytes at an address.

  A region has a size that no call changes, except that an allocated one can be assigned
  a copy of another. Of the address only the remainder by sixteen is known; regions of
  their own start at zero.
-/

import FixedCapacity.Call
import FixedCapacity.Memory

namespace FixedCapacity

structure Region where
  bytes : List UInt8
  address : Nat
  deriving DecidableEq, Repr

namespace Region

variable {σ α : Type}

abbrev Op (β : Type) := Call Region UInt8 β

/-- A region of zeros at an address. -/
def zeros (size : Nat) (address : Nat) : Region := ⟨List.replicate size 0, address⟩

def size (r : Region) : Nat := r.bytes.length

/-- Regions are equal when their bytes are, wherever they lie. -/
instance : BEq Region := ⟨fun a b => a.bytes == b.bytes⟩

/-- Writes bytes over those from a position on. -/
def store (position : Nat) (bytes : List UInt8) : Op Unit := fun r =>
  let stop := position + bytes.length
  if stop ≤ r.size then
    Call.set { r with bytes := r.bytes.take position ++ bytes ++ r.bytes.drop stop } r
  else Call.violate (.indexOutOfBounds r.size stop) r

/-- Copies another region over the start of this one. -/
def copyFrom (source : Region) : Op Unit := do
  let r ← Call.get
  if source.size > r.size then
    Call.alert (.copyOverflow source.size r.size)
    Call.refuse .noMemory
  else store 0 source.bytes

/-- A region of zeros in an allocation of its own. -/
def allocate (size : Nat) (allocator : Memory.Allocator := Memory.grants) : Call σ α Region := do
  Call.enter (.allocate .buffer size)
  if allocator size then pure (zeros size 0)
  else
    Call.alert (.allocationFailed .buffer size)
    Call.refuse .noMemory

/-- A copy of a region in an allocation of its own. -/
def cloneAllocated (r : Region) (allocator : Memory.Allocator := Memory.grants) :
    Call σ α Region := do
  let fresh ← allocate r.size allocator
  Call.buildPlain fresh (store 0 r.bytes)

/-- Replaces an allocated region by a copy of another. -/
def assign (source : Region) (allocator : Memory.Allocator := Memory.grants) : Op Unit := do
  let fresh ← cloneAllocated source allocator
  Call.set fresh

end Region

end FixedCapacity
