/-
  FixedCapacity.ByteString.Edit — changing the content.

  A change that would not fit is refused before anything is written. `removeIf` passes
  over the content once and keeps the bytes in place that its predicate turns down.
-/

import FixedCapacity.Bounds
import FixedCapacity.ByteString.Basic

namespace FixedCapacity.ByteString

def clear : Op Unit := setLen 0

/-- Sets the length, with NULs in the new places. -/
def resize (len : Nat) : Op Unit := do
  let s ← Call.get
  if len > s.capacity then
    Call.alert (.resizeOverflow .string len s.capacity)
    Call.refuse .noMemory
  else
    if len > s.len then store s.len (List.replicate (len - s.len) 0)
    setLen len

/-- Inserts bytes before a position. -/
def insert (position : Nat) (text : List UInt8) : Op Unit := do
  let s ← Call.get
  let count := text.length
  let room ← Call.sub s.capacity s.len
  if count > room then
    Call.alert (.insertOverflow .string s.len count s.capacity)
    Call.refuse .noMemory
  else if position > s.len then
    Call.refuse .invalidArgument
  else
    let target ← Call.add position count
    copyWithin position s.len target
    store position text
    let len ← Call.add s.len count
    setLen len

/-- Appends bytes. -/
def append (text : List UInt8) : Op Unit := do
  let s ← Call.get
  insert s.len text

/-- Appends one byte. -/
def push (b : UInt8) : Op Unit := append [b]

/-- Appends texts one after another, up to the first that does not fit; the answer is the length
reached. -/
def appendAll : List (List UInt8) → Op Nat
  | [] => do
    let s ← Call.get
    pure s.len
  | text :: rest => do
    append text
    appendAll rest

/-- Replaces the content. -/
def assign (text : List UInt8) : Op Unit := do
  let s ← Call.get
  if text.length > s.capacity then Call.refuse .noMemory
  else
    store 0 text
    setLen text.length

/-- Takes off the last byte. -/
def popBack : Op UInt8 := do
  let last ← back
  let s ← Call.get
  let len ← Call.sub s.len 1
  setLen len
  pure last

/-- Removes the bytes in a range. -/
def removeRange (bounds : Bounds) : Op Unit := do
  let s ← Call.get
  let (start, stop) ← Call.ofExcept (bounds.resolve s.len)
  copyWithin stop s.len start
  let count ← Call.sub stop start
  let len ← Call.sub s.len count
  setLen len

/-- Takes out the byte at a position. -/
def remove (position : Nat) : Op UInt8 := do
  let s ← Call.get
  match s.content[position]? with
  | none => Call.refuse .invalidArgument
  | some b =>
    removeRange (.single position)
    pure b

/-- Asks about `n` bytes from `position` on and moves those to keep to `kept`; the answer is the
number kept in all and the predicate's last state. -/
def keepFrom {τ : Type} (test : τ → UInt8 → Bool × τ) (position kept : Nat) (t : τ) :
    Nat → Op (Nat × τ)
  | 0 => pure (kept, t)
  | n + 1 => do
    let b ← read position
    Call.record (.tested b)
    let (yes, t) := test t b
    if yes then keepFrom test (position + 1) kept t n
    else
      store kept [b]
      let kept ← Call.add kept 1
      keepFrom test (position + 1) kept t n

/-- Removes every byte that a predicate accepts. The predicate carries a state of its own; the
answer is the number of removed bytes and the last state. -/
def removeIf {τ : Type} (test : τ → UInt8 → Bool × τ) (t : τ) : Op (Nat × τ) := do
  let s ← Call.get
  let (kept, t) ← keepFrom test 0 0 t s.len
  setLen kept
  let removed ← Call.sub s.len kept
  pure (removed, t)

end FixedCapacity.ByteString
