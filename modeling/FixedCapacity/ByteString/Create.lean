/-
  FixedCapacity.ByteString.Create — making strings.

  A string has its storage inline (`ByteString.empty`), in one allocation (`allocate`), or
  over bytes that lie elsewhere (`borrow`). A copy of an inline string is the same value,
  left-over bytes included; a copy of an allocated one has fresh storage.
-/

import FixedCapacity.Memory
import FixedCapacity.ByteString.Edit

namespace FixedCapacity.ByteString

variable {σ α : Type}

/-- A string with inline storage and a given content. -/
def ofBytes (capacity : Nat) (text : List UInt8) : Call σ α ByteString :=
  Call.buildPlain (empty capacity) (assign text)

/-- An empty string whose storage is allocated. -/
def allocate (capacity : Nat) (allocator : Memory.Allocator := Memory.grants) :
    Call σ α ByteString :=
  if capacity + 1 < Call.wordLimit then do
    Call.enter (.allocate .string (capacity + 1))
    if allocator (capacity + 1) then pure (empty capacity)
    else
      Call.alert (.allocationFailed .string (capacity + 1))
      Call.refuse .noMemory
  else Call.refuse .noMemory

/-- An empty string over bytes that lie elsewhere; there must be room for the NUL. -/
def borrow (bytes : List UInt8) : Call σ α ByteString :=
  if bytes.isEmpty then Call.refuse .invalidArgument
  else Call.buildPlain ⟨bytes, 0⟩ clear

/-- A copy of a string in an allocation of its own. -/
def cloneAllocated (s : ByteString) (allocator : Memory.Allocator := Memory.grants) :
    Call σ α ByteString := do
  let copy ← allocate s.capacity allocator
  Call.buildPlain copy (assign s.content)

end FixedCapacity.ByteString
