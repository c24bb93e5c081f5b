/-
  FixedCapacity.SlotArray.Basic — a sequence of fixed capacity.

  An array is a row of slots and a length. The slots below the length hold the elements,
  in order; `toList` reads them. A slot at or above the length is free: it holds nothing
  that counts, though whatever was last moved or destroyed there is still to be seen in
  `slots`, and `none` marks a slot that was never written.

  Elements are reached by position. `get` and its fellows refuse a position that has no
  element; `index` and `exchangeIndex` make it a violation.
-/

import FixedCapacity.Call

namespace FixedCapacity

structure SlotArray (α : Type) where
  slots : List (Option α)
  len : Nat
  deriving DecidableEq, Repr

namespace SlotArray

variable {α : Type}

/-- A call on an array. -/
abbrev Op (α β : Type) := Call (SlotArray α) α β

/-- An array without elements. -/
def empty (capacity : Nat) : SlotArray α := ⟨List.replicate capacity none, 0⟩

/-- An array over elements that are there already: it starts full. -/
def ofFull (items : List α) : SlotArray α := ⟨items.map some, items.length⟩

def capacity (a : SlotArray α) : Nat := a.slots.length

def isEmpty (a : SlotArray α) : Bool := a.len = 0

def isFull (a : SlotArray α) : Bool := a.capacity ≤ a.len

/-- The elements, in order. -/
def toList (a : SlotArray α) : List α := (a.slots.take a.len).filterMap id

/-- What an array feeds a hasher: its length, then its elements. -/
def digest (a : SlotArray α) : Nat × List α := (a.len, a.toList)

/-- Arrays are equal when their elements are, whatever their capacities. -/
instance [BEq α] : BEq (SlotArray α) := ⟨fun a b => a.toList == b.toList⟩

/-! ## Single slots -/

/-- The value in a slot. -/
def read (index : Nat) : Op α α := fun a =>
  match a.slots[index]? with
  | none => Call.violate (.indexOutOfBounds a.capacity index) a
  | some none => Call.violate (.deadSlot index) a
  | some (some x) => Call.done x a

/-- Puts a value into a slot. -/
def write (index : Nat) (x : α) : Op α Unit := fun a =>
  if index < a.capacity then
    Call.set { a with slots := a.slots.set index (some x) } a
  else Call.violate (.indexOutOfBounds a.capacity index) a

def setLen (len : Nat) : Op α Unit := fun a => Call.set { a with len := len } a

/-- Moves the value of one slot into another and leaves it behind as well. -/
def move (source target : Nat) : Op α Unit := do
  let x ← read source
  write target x

/-! ## Elements by position -/

/-- The element at a position. -/
def get (index : Nat) : Op α α := do
  let a ← Call.get
  match a.toList[index]? with
  | some x => pure x
  | none => Call.refuse .outOfRange

/-- The element at a position that the caller vouches for. -/
def index (index : Nat) : Op α α := do
  let a ← Call.get
  match a.toList[index]? with
  | some x => pure x
  | none => Call.violate (.indexOutOfBounds a.len index)

def front : Op α α := do
  let a ← Call.get
  match a.toList.head? with
  | some x => pure x
  | none => Call.refuse .notFound

def back : Op α α := do
  let a ← Call.get
  match a.toList.getLast? with
  | some x => pure x
  | none => Call.refuse .notFound

/-- Puts an element in the place of another, which is handed out. -/
def exchange (position : Nat) (x : α) : Op α α := do
  let old ← get position
  write position x
  pure old

/-- The same at a position that the caller vouches for. -/
def exchangeIndex (position : Nat) (x : α) : Op α α := do
  let old ← index position
  write position x
  pure old

def exchangeFront (x : α) : Op α α := do
  let old ← front
  write 0 x
  pure old

def exchangeBack (x : α) : Op α α := do
  let old ← back
  let a ← Call.get
  let last ← Call.sub a.len 1
  write last x
  pure old

/-- Writes elements into the slots from a position on. -/
def writeFrom (position : Nat) : List α → Op α Unit
  | [] => pure ()
  | x :: rest => do
    write position x
    writeFrom (position + 1) rest

/-- Turns the elements round. -/
def reverse : Op α Unit := do
  let a ← Call.get
  writeFrom 0 a.toList.reverse

/-- Makes every element a copy of one value. -/
def fill (x : α) : Op α Unit := do
  let a ← Call.get
  a.toList.forM fun old => do
    Call.record (.cloned x)
    Call.record (.dropped old)
  writeFrom 0 (a.toList.map fun _ => x)

/-! ## Looking for elements -/

/-- The position of the first element that a predicate accepts. -/
def findIf {τ : Type} (test : τ → α → Bool × τ) (t : τ) : Op α Nat := do
  let a ← Call.get
  match ← Call.searchFrom test 0 t a.toList with
  | some position => pure position
  | none => Call.refuse .notFound

/-- The position of the first element equal to a value. -/
def find [BEq α] (x : α) : Op α Nat := findIf (fun t y => (y == x, t)) ()

end SlotArray

end FixedCapacity
