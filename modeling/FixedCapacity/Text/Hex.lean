/-
  FixedCapacity.Text.Hex — hexadecimal digits of bytes.

  `Hex.encode` writes two upper-case digits for a byte. `Hex.digit?` reads a digit
  of either case, and `Hex.pair?` one byte from two digits or from a last single
  digit, which is the high half of its byte.
-/

namespace FixedCapacity.Text.Hex

/-- The upper-case digit of a value below sixteen. -/
def digit (n : UInt8) : UInt8 := if n < 10 then 0x30 + n else 0x41 + (n - 10)

/-- The two digits of a byte. -/
def ofByte (b : UInt8) : List UInt8 := [digit (b >>> 4), digit (b &&& 0x0F)]

/-- The digits of a byte sequence. -/
def encode (bs : List UInt8) : List UInt8 := bs.flatMap ofByte

/-- The value of a digit of either case. -/
def digit? (c : UInt8) : Option UInt8 :=
  if 0x30 ≤ c ∧ c ≤ 0x39 then some (c - 0x30)
  else if 0x61 ≤ c ∧ c ≤ 0x66 then some (c - 0x61 + 10)
  else if 0x41 ≤ c ∧ c ≤ 0x46 then some (c - 0x41 + 10)
  else none

/-- The byte of a high digit and, if there is one, a low digit. -/
def pair? (high : UInt8) (low : Option UInt8) : Option UInt8 := do
  let h ← digit? high
  let l ← match low with
    | some c => digit? c
    | none => some 0
  some ((h <<< 4) ||| l)

end FixedCapacity.Text.Hex
