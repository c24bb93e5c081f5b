/-
  FixedCapacity.SlotArray.Insert — adding elements.

  Every call here first checks that its result fits and leaves the array alone when it
  does not. `insert` moves the tail up one slot at a time, last slot first, so that no
  element is written over before it was moved, and then copies the new elements into the
  gap in order.
-/

import FixedCapacity.SlotArray.Basic

namespace FixedCapacity.SlotArray

variable {α : Type}

/-- Puts a value into the first free slot and counts it in. -/
def place (x : α) : Op α Unit := do
  let a ← Call.get
  write a.len x
  let len ← Call.add a.len 1
  setLen len

/-- Appends the element of a maker, which runs only if there is room; `unused` is what becomes of
one that does not run. -/
def emplaceBy (make : Op α α) (unused : Op α Unit) : Op α α := do
  let a ← Call.get
  if a.isFull then
    Call.alert (.arrayFull a.capacity)
    unused
    Call.refuse .noMemory
  else
    let x ← make
    place x
    pure x

/-- Appends an element that a maker owns and drops with itself if it does not run. -/
def emplaceBack (x : α) : Op α α :=
  emplaceBy (do
    Call.record (.handed x)
    pure x) (Call.record (.dropped x))

/-- Appends an element that a maker builds. -/
def emplaceNew (x : α) : Op α α :=
  emplaceBy (do
    Call.record (.made x)
    pure x) (pure ())

/-- Appends an element. -/
def pushBack (x : α) : Op α Unit := do
  let _ ← emplaceBack x
  pure ()

/-- Takes off the last element. -/
def popBack : Op α α := do
  let a ← Call.get
  if a.len = 0 then Call.refuse .notFound
  else
    let last ← Call.sub a.len 1
    setLen last
    read last

/-- Destroys the last `n` elements, the last one first. -/
def dropLast : Nat → Op α Unit
  | 0 => pure ()
  | n + 1 => do
    let a ← Call.get
    let last ← Call.sub a.len 1
    setLen last
    let x ← read last
    Call.record (.dropped x)
    dropLast n

/-- Destroys elements from the end until at most `len` are left. -/
def truncate (len : Nat) : Op α Unit := do
  let a ← Call.get
  dropLast (a.len - len)

/-- Destroys all elements. -/
def clear : Op α Unit := truncate 0

/-! ## Setting the length -/

/-- Appends the results of `n` calls of a maker, which carries a state of its own. -/
def grow {τ : Type} (make : τ → Op α (α × τ)) : Nat → τ → Op α τ
  | 0, t => pure t
  | n + 1, t => do
    let (x, t) ← make t
    place x
    grow make n t

/-- Sets the length: elements behind it are destroyed, new ones come from the maker. -/
def resizeBy {τ : Type} (len : Nat) (make : τ → Op α (α × τ)) (t : τ) : Op α τ := do
  let a ← Call.get
  if len > a.capacity then
    Call.alert (.resizeOverflow .array len a.capacity)
    Call.refuse .noMemory
  else
    truncate len
    grow make (len - a.len) t

/-- Sets the length, with the results of a maker in the new slots. -/
def resizeWith {τ : Type} (len : Nat) (make : τ → α × τ) (t : τ) : Op α τ :=
  resizeBy len (fun t => do
    let (x, t) := make t
    Call.record (.made x)
    pure (x, t)) t

/-- Sets the length, with a default in the new slots. -/
def resizeDefault [Inhabited α] (len : Nat) : Op α Unit :=
  resizeWith len (fun t => (default, t)) ()

/-- Sets the length, with copies of `fill` in the new slots. The argument itself is destroyed
when the call ends. -/
def resize (len : Nat) (fill : α) : Op α Unit :=
  Call.closing (.dropped fill) <|
    resizeBy len (fun t => do
      Call.record (.cloned fill)
      pure (fill, t)) ()

/-! ## Inserting -/

/-- Moves the `n` slots from `position` on up by `count`, the last one first. -/
def shiftUp (position count : Nat) : Nat → Op α Unit
  | 0 => pure ()
  | n + 1 => do
    let target ← Call.add (position + n) count
    move (position + n) target
    shiftUp position count n

/-- Copies elements into the slots from `position` on. -/
def copyInto (position : Nat) : List α → Op α Unit
  | [] => pure ()
  | x :: rest => do
    Call.record (.cloned x)
    write position x
    copyInto (position + 1) rest

/-- Inserts copies of elements before a position. -/
def insert (position : Nat) (items : List α) : Op α Unit := do
  let a ← Call.get
  let count := items.length
  let room ← Call.sub a.capacity a.len
  if count > room then
    Call.alert (.insertOverflow .array a.len count a.capacity)
    Call.refuse .noMemory
  else if position > a.len then
    Call.refuse .invalidArgument
  else if count = 0 then
    pure ()
  else
    Call.enter (.insert .array a.len count a.capacity)
    setLen position
    let tail ← Call.sub a.len position
    shiftUp position count tail
    copyInto position items
    let len ← Call.add a.len count
    setLen len

/-- Appends copies of elements. -/
def extend (items : List α) : Op α Unit := do
  let a ← Call.get
  insert a.len items

/-- Appends copies of the elements of another array. -/
def append (other : SlotArray α) : Op α Unit := extend other.toList

/-- Replaces the elements by copies of others. -/
def assign (items : List α) : Op α Unit := do
  let a ← Call.get
  if items.length > a.capacity then
    Call.refuse .noMemory
  else
    clear
    extend items

end FixedCapacity.SlotArray
