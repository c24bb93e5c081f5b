/-
  FixedCapacity.ByteString.Basic — a string of bytes of fixed capacity, closed by a NUL.

  The storage has one byte more than the capacity. The bytes below the length are the
  content; the byte at the length is NUL, so that the storage is a C string at any
  time; what lies behind it is left over and means nothing. The content may hold any
  bytes, NUL included: a reader of C strings then stops early (`cString`).

  Every change goes through `setLen`, which writes the NUL.
-/

import FixedCapacity.Call
import FixedCapacity.Text.Utf8

namespace FixedCapacity

structure ByteString where
  storage : List UInt8
  len : Nat
  deriving DecidableEq, Repr

namespace ByteString

/-- A call on a string. -/
abbrev Op (β : Type) := Call ByteString UInt8 β

/-- An empty string. -/
def empty (capacity : Nat) : ByteString := ⟨List.replicate (capacity + 1) 0, 0⟩

def capacity (s : ByteString) : Nat := s.storage.length - 1

def isEmpty (s : ByteString) : Bool := s.len = 0

def isFull (s : ByteString) : Bool := s.capacity ≤ s.len

/-- The bytes of a string, the NUL excluded. -/
def content (s : ByteString) : List UInt8 := s.storage.take s.len

/-- Strings are equal when their contents are, whatever their storage. -/
instance : BEq ByteString := ⟨fun a b => a.content == b.content⟩

/-- What a string feeds a hasher: the length of its content, then the content. -/
def digest (s : ByteString) : Nat × List UInt8 := (s.len, s.content)

/-- The storage up to and without the first NUL, searched through the byte at the length. -/
def cString (s : ByteString) : List UInt8 :=
  let closed := s.storage.take (s.len + 1)
  if closed.contains 0 then closed.takeWhile fun b => b ≠ 0 else []

/-- The content as text, if it is UTF-8. -/
def text? (s : ByteString) : Except Error.Kind (List Char) :=
  match Text.decode? s.content with
  | some cs => .ok cs
  | none => .error .invalidArgument

/-- The content as text in the pieces a writer receives, replacements included. -/
def pieces (s : ByteString) : List (List Char) := Text.runs s.content

/-- The content as text, replacements included. -/
def display (s : ByteString) : String := String.ofList (Text.lossy s.content)

/-- The same between quotes, with nothing escaped. -/
def debug (s : ByteString) : String :=
  String.ofList (['"'] ++ Text.lossy s.content ++ ['"'])

/-! ## The storage -/

/-- The byte in the storage at a position. -/
def read (index : Nat) : Op UInt8 := fun s =>
  match s.storage[index]? with
  | some b => Call.done b s
  | none => Call.violate (.indexOutOfBounds s.storage.length index) s

/-- Writes bytes into the storage from a position on. -/
def store (position : Nat) (bytes : List UInt8) : Op Unit := fun s =>
  let stop := position + bytes.length
  if stop ≤ s.storage.length then
    Call.set { s with
      storage := s.storage.take position ++ bytes ++ s.storage.drop stop } s
  else Call.violate (.indexOutOfBounds s.storage.length stop) s

/-- Copies the bytes `[start, stop)` of the storage to another position; the two places may
overlap. -/
def copyWithin (start stop target : Nat) : Op Unit := fun s =>
  if start ≤ stop ∧ stop ≤ s.storage.length then
    store target ((s.storage.drop start).take (stop - start)) s
  else Call.violate (.indexOutOfBounds s.storage.length stop) s

/-- Sets the length and closes the content with a NUL. -/
def setLen (len : Nat) : Op Unit := do
  store len [0]
  let s ← Call.get
  Call.set { s with len := len }

/-- The content of a string, sliced out of its storage. -/
def bytes {σ α : Type} (s : ByteString) : Call σ α (List UInt8) := Call.slice s.storage 0 s.len

/-! ## Bytes by position -/

def get (index : Nat) : Op UInt8 := do
  let s ← Call.get
  match s.content[index]? with
  | some b => pure b
  | none => Call.refuse .outOfRange

/-- The byte at a position that the caller vouches for. -/
def index (index : Nat) : Op UInt8 := do
  let s ← Call.get
  match s.content[index]? with
  | some b => pure b
  | none => Call.violate (.indexOutOfBounds s.len index)

def front : Op UInt8 := do
  let s ← Call.get
  match s.content.head? with
  | some b => pure b
  | none => Call.refuse .notFound

def back : Op UInt8 := do
  let s ← Call.get
  match s.content.getLast? with
  | some b => pure b
  | none => Call.refuse .notFound

/-- Puts a byte in the place of another, which is handed out. -/
def exchange (position : Nat) (b : UInt8) : Op UInt8 := do
  let old ← get position
  store position [b]
  pure old

/-- The same at a position that the caller vouches for. -/
def exchangeIndex (position : Nat) (b : UInt8) : Op UInt8 := do
  let old ← index position
  store position [b]
  pure old

/-- Writes other bytes in the place of those of the content, from the first one on. -/
def rewrite (change : List UInt8 → List UInt8) : Op Unit := do
  let s ← Call.get
  store 0 ((change s.content).take s.len)

/-- Turns the content round. -/
def reverse : Op Unit := rewrite List.reverse

/-- Makes every byte of the content the same. -/
def fill (b : UInt8) : Op Unit := rewrite (List.map fun _ => b)

/-! ## Looking for bytes -/

/-- The position of the first byte that a predicate accepts. -/
def findIf {τ : Type} (test : τ → UInt8 → Bool × τ) (t : τ) : Op Nat := do
  let s ← Call.get
  match ← Call.searchFrom test 0 t s.content with
  | some position => pure position
  | none => Call.refuse .notFound

/-- The position of the first byte equal to a given one. -/
def find (b : UInt8) : Op Nat := findIf (fun t c => (c == b, t)) ()

end ByteString

end FixedCapacity
