/-
  FixedCapacity.ByteString.Split — cutting the content at separators.

  Separators next to each other give empty pieces between them; one at the very end
  gives none. The pieces go into an array of strings, each with the same capacity; the
  first piece that does not fit there ends the call, and those before it stay.

  A piece is held by two positions and sliced out of the content when it ends.
-/

import FixedCapacity.ByteString.Create
import FixedCapacity.SlotArray.Insert
import FixedCapacity.Text.Blank

namespace FixedCapacity.ByteString

/-- Whether a byte separates: the given one does, or else any blank of ASCII. -/
def separates (delimiter : Option UInt8) (b : UInt8) : Bool :=
  match delimiter with
  | some d => b = d
  | none => Text.isAsciiBlank b

/-- Appends a piece to an array of strings. -/
def pushPiece (capacity : Nat) (piece : List UInt8) : SlotArray.Op ByteString Unit := do
  let s ← ofBytes capacity piece
  SlotArray.pushBack s

/-- Appends the pieces that a separator ends, looking at the bytes from `index` on; the piece that
`index` lies in begins at `start`. The answer is where the last piece begins. -/
def splitFrom (capacity : Nat) (delimiter : Option UInt8) (bytes : List UInt8) (start index : Nat) :
    List UInt8 → SlotArray.Op ByteString Nat
  | [] => pure start
  | b :: rest =>
    if separates delimiter b then do
      let piece ← Call.slice bytes start index
      pushPiece capacity piece
      let start ← Call.add index 1
      splitFrom capacity delimiter bytes start (index + 1) rest
    else splitFrom capacity delimiter bytes start (index + 1) rest

/-- Appends the piece that begins at `start` and ends with the bytes, if there is anything of it. -/
def pushRest (capacity : Nat) (bytes : List UInt8) (start : Nat) : SlotArray.Op ByteString Unit :=
  if start < bytes.length then do
    let piece ← Call.slice bytes start bytes.length
    pushPiece capacity piece
  else pure ()

/-- Replaces the elements of an array by the pieces of the content. -/
def split (s : ByteString) (capacity : Nat) (delimiter : Option UInt8) :
    SlotArray.Op ByteString Unit := do
  SlotArray.clear
  let bytes ← s.bytes
  let start ← splitFrom capacity delimiter bytes 0 0 bytes
  pushRest capacity bytes start

end FixedCapacity.ByteString
