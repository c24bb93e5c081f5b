/-
  FixedCapacity.Pattern.Encoding — the encoded characters of a set, as ranges of bytes.

  The characters between two of the same encoded length fill whole blocks, but for what
  is cut off at either end. A block is a sequence of byte ranges: any byte of the first,
  then any of the second, and so on. Sequences come in ascending order, and no two of
  them share an encoding.
-/

import FixedCapacity.Pattern.CodeSet
import FixedCapacity.Text.Utf8

namespace FixedCapacity.Pattern

/-- A range for each byte: first and last. -/
abbrev ByteSequence := List (Nat × Nat)

namespace CodeSet

/-- The characters of each encoded length: first and last. Surrogates are left out. -/
def lengthRanges : List (Nat × Nat) :=
  [(0x00, 0x7F), (0x80, 0x7FF), (0x800, 0xD7FF), (0xE000, 0xFFFF), (0x10000, 0x10FFFF)]

/-- How many characters the blocks hold that are cut at one, two and three bytes from the end. -/
def blockSizes : List Nat := [0x40, 0x1000, 0x40000]

/-- Cuts a range into parts that are blocks of bytes: what does not fill the first block and the
last one of a size goes by itself, and the blocks between are cut by the next size. -/
def carve : List Nat → Nat → Nat → List (Nat × Nat)
  | [], low, high => [(low, high)]
  | size :: sizes, low, high =>
    if low / size = high / size then [(low, high)]
    else
      let low' := if low % size = 0 then low else (low / size + 1) * size
      let high' := if high % size = size - 1 then high + 1 else high / size * size
      (if low < low' then [(low, low' - 1)] else [])
        ++ (if low' < high' then carve sizes low' (high' - 1) else [])
        ++ (if high' ≤ high then [(high', high)] else [])

/-- The bytes of a character. -/
def encoded (n : Nat) : List Nat := (Text.encode [Char.ofNat n]).map (·.toNat)

/-- The byte sequences of characters of one encoded length. -/
def blockSequences (range : Nat × Nat) : List ByteSequence :=
  (if range.2 < 0x80 then [range] else carve blockSizes range.1 range.2).map fun (low, high) =>
    (encoded low).zip (encoded high)

/-- The byte sequences of the characters of a set. -/
def byteSequences (s : CodeSet) : List ByteSequence :=
  s.ranges.flatMap fun range => (lengthRanges.filterMap (meet range)).flatMap blockSequences

end CodeSet

end FixedCapacity.Pattern
