/-
  FixedCapacity.ByteString.Hex — bytes written as hexadecimal digits and read back.

  Writing needs room for all digits. Reading needs room for all bytes, an odd last digit
  taking one of its own; a character that is no digit stops it, and the bytes read up to
  there stay in the destination. What digits denote is said by `Text.Hex`; here they are read
  with the arithmetic of bytes.
-/

import FixedCapacity.ByteString.Edit
import FixedCapacity.SlotArray.Insert
import FixedCapacity.Text.Hex

namespace FixedCapacity.ByteString

/-- Writes the digits of bytes into the storage; `index` counts the bytes before them. -/
def storeHex (index : Nat) : List UInt8 → Op Unit
  | [] => pure ()
  | b :: rest => do
    let low ← Call.add (index * 2) 1
    store (index * 2) [Text.Hex.digit (b >>> 4)]
    store low [Text.Hex.digit (b &&& 0x0F)]
    storeHex (index + 1) rest

/-- Replaces the content by the upper-case digits of bytes. -/
def encodeHex (source : List UInt8) : Op Unit := do
  let s ← Call.get
  if source.length > s.capacity / 2 then Call.refuse .noMemory
  else
    storeHex 0 source
    setLen (source.length * 2)

/-- The value of a digit of either case, counted from the first digit of its kind. -/
def hexValue {σ α : Type} (digit : UInt8) : Call σ α UInt8 :=
  if 0x30 ≤ digit ∧ digit ≤ 0x39 then Call.subByte digit 0x30
  else if 0x61 ≤ digit ∧ digit ≤ 0x66 then do Call.addByte (← Call.subByte digit 0x61) 10
  else if 0x41 ≤ digit ∧ digit ≤ 0x46 then do Call.addByte (← Call.subByte digit 0x41) 10
  else Call.refuse .invalidArgument

/-- The byte of a high digit and, if there is one, a low digit. -/
def pairValue {σ α : Type} (pair : List UInt8) : Call σ α UInt8 := do
  let first ← Call.item pair 0
  let high ← hexValue first
  let low ← match pair[1]? with
    | some second => hexValue second
    | none => pure 0
  pure ((high <<< 4) ||| low)

/-- Digits two at a time, and an odd last one alone. -/
def pairs : List UInt8 → List (List UInt8)
  | [] => []
  | [high] => [[high]]
  | high :: low :: rest => [high, low] :: pairs rest

/-- Appends to an array the bytes that pairs of digits denote. -/
def appendPairs : List (List UInt8) → SlotArray.Op UInt8 Unit
  | [] => pure ()
  | pair :: rest => do
    let b ← pairValue pair
    SlotArray.pushBack b
    appendPairs rest

/-- Replaces the elements of an array by the bytes that the content denotes. -/
def decodeHex (s : ByteString) : SlotArray.Op UInt8 Unit := do
  let digits ← s.bytes
  let target ← Call.get
  if (digits.length + 1) / 2 > target.capacity then Call.refuse .noMemory
  else
    SlotArray.clear
    appendPairs (pairs digits)

end FixedCapacity.ByteString
