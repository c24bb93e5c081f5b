/-
  FixedCapacity.Memory — what an allocator answers to a request.

  A request is met or it is not, and an answer of either kind can have any reason: the size of a unit, a
  limit, the memory that happens to be left. So a call that allocates takes its allocator as a parameter,
  and nothing is assumed of it. `grants` is the one of an address space of 47 bits with all its memory
  free: it turns down what asks for more units than there are bytes.
-/

namespace FixedCapacity.Memory

/-- Whether a request for so many units is met; the units of an array are its slots, and else bytes. -/
abbrev Allocator := Nat → Bool

def limit : Nat := 0x800000000000

def grants : Allocator := fun size => size < limit

end FixedCapacity.Memory
