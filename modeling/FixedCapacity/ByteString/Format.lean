/-
  FixedCapacity.ByteString.Format — writing formatted text.

  A string takes text from a value in pieces and turns down a piece that does not fit. What
  it took stays when the pieces are appended (`print`); `formatValue` takes it back, so that
  its result is all of the text or none. A text that is given by its pieces stops at the
  first that does not fit (`write`, `format`, `convert`).
-/

import FixedCapacity.ByteString.Edit
import FixedCapacity.Text.Printing

namespace FixedCapacity.ByteString

/-! ## Values -/

/-- Has a value append its pieces; the answer is the value's own. -/
def print : Text.Printing → Op Bool
  | .done well => pure well
  | .give piece next => do
    let taken ← Call.attempt (append (Text.encode piece))
    print (next taken.isSome)

/-- Replaces the content by the text of a value. -/
def formatValue (value : Text.Printing) : Op Unit := do
  clear
  if ← print value then pure ()
  else
    clear
    Call.refuse .noMemory

/-- Replaces the content by the text of a value that the caller vouches will fit. -/
def convertValue (value : Text.Printing) : Op Unit := do
  match ← Call.attempt (formatValue value) with
  | some _ => pure ()
  | none =>
    let s ← Call.get
    Call.violate (.conversionTooLong s.capacity)

/-! ## Pieces -/

/-- Appends pieces until one does not fit; the answer says whether all did. -/
def write (pieces : List (List Char)) : Op Bool := print (.ofPieces pieces)

/-- Replaces the content by formatted text. -/
def format (pieces : List (List Char)) : Op Unit := formatValue (.ofPieces pieces)

/-- Replaces the content by formatted text that the caller vouches will fit. -/
def convert (pieces : List (List Char)) : Op Unit := convertValue (.ofPieces pieces)

end FixedCapacity.ByteString
