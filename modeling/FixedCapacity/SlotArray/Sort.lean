/-
  FixedCapacity.SlotArray.Sort — sorting by exchanges.

  A sweep compares neighbours from the front and exchanges a pair that compares greater;
  after it the last element of the swept part is in its place, and the next sweep is one
  pair shorter. Nothing is assumed of the comparison, which carries a state of its own.
-/

import FixedCapacity.SlotArray.Basic

namespace FixedCapacity.SlotArray

variable {α τ : Type}

/-- Exchanges two slots. -/
def swap (i j : Nat) : Op α Unit := do
  let x ← read i
  let y ← read j
  write i y
  write j x

/-- Compares `n` pairs of neighbours, the first one at `position`. -/
def sweep (compare : τ → α → α → Ordering × τ) (position : Nat) (t : τ) : Nat → Op α τ
  | 0 => pure t
  | n + 1 => do
    let next ← Call.add position 1
    let x ← index position
    let y ← index next
    Call.record (.compared x y)
    let (order, t) := compare t x y
    if order = .gt then swap position next
    sweep compare next t n

/-- Makes `n` sweeps over `len` elements, numbered from `pass` on: each leaves out what the ones
before it put in place. -/
def sweeps (compare : τ → α → α → Ordering × τ) (len pass : Nat) (t : τ) : Nat → Op α τ
  | 0 => pure t
  | n + 1 => do
    let swept ← Call.sub len pass
    let pairs ← Call.sub swept 1
    let t ← sweep compare 0 t pairs
    sweeps compare len (pass + 1) t n

/-- Sorts by a comparison; the answer is the comparison's last state. -/
def sortBy (compare : τ → α → α → Ordering × τ) (t : τ) : Op α τ := do
  let a ← Call.get
  if a.len < 2 then pure t
  else
    Call.enter (.sort a.len)
    let passes ← Call.sub a.len 1
    sweeps compare a.len 0 t passes

/-- Sorts in the natural order of the elements. -/
def sort [Ord α] : Op α Unit := sortBy (fun t x y => (compare x y, t)) ()

end FixedCapacity.SlotArray
