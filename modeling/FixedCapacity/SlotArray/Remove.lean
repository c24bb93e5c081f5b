/-
  FixedCapacity.SlotArray.Remove — taking elements out.

  The elements behind a gap move down one slot at a time, first slot first; the slots
  they leave keep their values. `removeIf` asks its predicate about every element once,
  in order: after a removal the next element has moved to the position just asked about.
-/

import FixedCapacity.Bounds
import FixedCapacity.SlotArray.Basic

namespace FixedCapacity.SlotArray

variable {α : Type}

/-- Moves the `n` slots from `source` on down by `count`, the first one first. -/
def shiftDown (source count : Nat) : Nat → Op α Unit
  | 0 => pure ()
  | n + 1 => do
    let target ← Call.sub source count
    move source target
    shiftDown (source + 1) count n

/-- Takes out the element at a position. -/
def remove (position : Nat) : Op α α := do
  let a ← Call.get
  if position ≥ a.len then Call.refuse .invalidArgument
  else
    let removed ← read position
    let next ← Call.add position 1
    shiftDown next 1 (a.len - next)
    let len ← Call.sub a.len 1
    setLen len
    pure removed

/-- Asks about `n` elements from `position` on, removing those the predicate accepts; `removed`
counts them. -/
def removeIfFrom {τ : Type} (test : τ → α → Bool × τ) (position removed : Nat) (t : τ) :
    Nat → Op α (Nat × τ)
  | 0 => pure (removed, t)
  | n + 1 => do
    let x ← index position
    Call.record (.tested x)
    let (yes, t) := test t x
    if yes then
      let gone ← remove position
      Call.record (.dropped gone)
      let removed ← Call.add removed 1
      removeIfFrom test position removed t n
    else
      let position ← Call.add position 1
      removeIfFrom test position removed t n

/-- Removes and destroys every element that a predicate accepts. The predicate carries a state of
its own; the answer is the number of removed elements and the last state. -/
def removeIf {τ : Type} (test : τ → α → Bool × τ) (t : τ) : Op α (Nat × τ) := do
  let a ← Call.get
  removeIfFrom test 0 0 t a.len

/-- Destroys the values of `n` slots from `position` on, in order. -/
def dropFrom (position : Nat) : Nat → Op α Unit
  | 0 => pure ()
  | n + 1 => do
    let x ← read position
    Call.record (.dropped x)
    dropFrom (position + 1) n

/-- Removes and destroys the elements in a range. -/
def removeRange (bounds : Bounds) : Op α Unit := do
  let a ← Call.get
  let (start, stop) ← Call.ofExcept (bounds.resolve a.len)
  let count ← Call.sub stop start
  if count = 0 then pure ()
  else
    setLen start
    dropFrom start count
    let tail ← Call.sub a.len stop
    shiftDown stop count tail
    let len ← Call.sub a.len count
    setLen len

end FixedCapacity.SlotArray
