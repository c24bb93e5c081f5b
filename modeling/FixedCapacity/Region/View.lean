/-
  FixedCapacity.Region.View — arrays and strings laid over a region.

  An array of integers starts at the first address in the region that is aligned to the
  width of an element, and has as many slots as there are whole elements behind it. It
  starts empty. Only slots that were written change bytes: `flush` puts the bytes of
  every written slot in place and leaves all others as they were.

  A string takes the whole region.
-/

import FixedCapacity.ByteString.Create
import FixedCapacity.Region.Basic
import FixedCapacity.Region.Integer
import FixedCapacity.SlotArray.Basic

namespace FixedCapacity.Region

variable {σ α : Type}

/-- How many bytes lie between the start of a region and the first address aligned for a type. -/
def padding (t : IntType) (r : Region) : Nat := (t.width - r.address % t.width) % t.width

/-- How many whole elements fit behind the padding. -/
def slotCount (t : IntType) (r : Region) : Nat := (r.size - padding t r) / t.width

/-- An empty array of integers over a region. -/
def bindArray (t : IntType) (r : Region) : Call σ α (SlotArray Int) := do
  Call.enter (.bind .array r.size)
  if slotCount t r = 0 then
    Call.alert .bufferTooSmall
    Call.refuse .invalidArgument
  else pure (.empty (slotCount t r))

/-- The bytes under a row of slots: those of the elements in written slots, the old ones under the
others and behind the last slot. -/
def laySlots (t : IntType) : List (Option Int) → List UInt8 → List UInt8
  | [], bytes => bytes
  | some n :: slots, bytes => t.encode n ++ laySlots t slots (bytes.drop t.width)
  | none :: slots, bytes => bytes.take t.width ++ laySlots t slots (bytes.drop t.width)

/-- The region under an array of integers that was bound to it. -/
def flush (t : IntType) (array : SlotArray Int) (r : Region) : Region :=
  let pad := padding t r
  { r with bytes := r.bytes.take pad ++ laySlots t array.slots (r.bytes.drop pad) }

/-- An empty string over a region. -/
def bindString (r : Region) : Call σ α ByteString := do
  Call.enter (.bind .string r.size)
  ByteString.borrow r.bytes

/-- The region under a string that was bound to it. -/
def underString (s : ByteString) (r : Region) : Region := { r with bytes := s.storage }

end FixedCapacity.Region
