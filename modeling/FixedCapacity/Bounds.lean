/-
  FixedCapacity.Bounds — ranges of positions.

  A range is given by two bounds, each absent, included or excluded. `Bounds.resolve`
  turns it into the half-open range `[start, stop)` of a container of a given length and
  refuses one that is inverted, reaches past the end, or whose bound has no successor
  among the words.
-/

import FixedCapacity.Call

namespace FixedCapacity

/-- One end of a range. -/
inductive Bound where
  | unbounded
  | included (n : Nat)
  | excluded (n : Nat)
  deriving DecidableEq, Repr

structure Bounds where
  first : Bound
  last : Bound
  deriving DecidableEq, Repr

namespace Bounds

/-- The position behind a bound. -/
def successor? (n : Nat) : Except Error.Kind Nat :=
  if n + 1 < Call.wordLimit then .ok (n + 1) else .error .invalidArgument

/-- The range as positions `[start, stop)` of a container with `len` elements. -/
def resolve (bounds : Bounds) (len : Nat) : Except Error.Kind (Nat × Nat) := do
  let start ← match bounds.first with
    | .included n => .ok n
    | .excluded n => successor? n
    | .unbounded => .ok 0
  let stop ← match bounds.last with
    | .included n => successor? n
    | .excluded n => .ok n
    | .unbounded => .ok len
  if start > stop ∨ stop > len then .error .invalidArgument else .ok (start, stop)

/-- The range of one position. -/
def single (index : Nat) : Bounds := ⟨.included index, .included index⟩

end Bounds

/-- A result that only looked, as a call. -/
def Call.ofExcept {σ α β : Type} : Except Error.Kind β → Call σ α β
  | .ok b => done b
  | .error kind => refuse kind

end FixedCapacity
