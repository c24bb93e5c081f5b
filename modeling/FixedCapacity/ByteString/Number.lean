/-
  FixedCapacity.ByteString.Number — the content read as a decimal number.

  The whole content must be UTF-8 and, blanks at its ends aside, an optionally signed
  numeral in the range asked for.
-/

import FixedCapacity.ByteString.Basic
import FixedCapacity.Text.Blank
import FixedCapacity.Text.Decimal

namespace FixedCapacity.ByteString

def int32 : Text.IntRange := ⟨-0x80000000, 0x7FFFFFFF⟩

def int64 : Text.IntRange := ⟨-0x8000000000000000, 0x7FFFFFFFFFFFFFFF⟩

def uint64 : Text.IntRange := ⟨0, 0xFFFFFFFFFFFFFFFF⟩

/-- The number that the content denotes. -/
def toInteger (range : Text.IntRange) (s : ByteString) : Except Error.Kind Int := do
  let cs ← s.text?
  match Text.parse? range (Text.trim cs) with
  | some n => .ok n
  | none => .error .invalidArgument

end FixedCapacity.ByteString
