/-
  FixedCapacity.Text.Decimal — decimal numerals.

  `digits` writes a number with no leading zero; `signed` and `padded` are the pieces
  in which a number reaches a writer. `parse?` reads an optional sign and one or more
  digits, leading zeros included, and keeps the value inside given bounds.
-/

namespace FixedCapacity.Text

/-- The digits of a number, most significant first. -/
def digits (n : Nat) : List Char :=
  if n < 10 then [Char.ofNat (0x30 + n)]
  else digits (n / 10) ++ [Char.ofNat (0x30 + n % 10)]

/-- A number as text. -/
def decimal (n : Nat) : String := String.ofList (digits n)

/-- The sign of an integer as a piece of its own, if it has one. -/
def sign (n : Int) : List (List Char) := if n < 0 then [['-']] else []

/-- The pieces of an integer: its sign, then its digits. -/
def signed (n : Int) : List (List Char) := sign n ++ [digits n.natAbs]

/-- An integer as text. -/
def integer (n : Int) : String := String.ofList (signed n).flatten

/-- The pieces of an integer filled up to `width` with zeros between its sign and its digits,
the sign counting toward the width. -/
def padded (n : Int) (width : Nat) : List (List Char) :=
  sign n ++ List.replicate (width - (signed n).flatten.length) ['0'] ++ [digits n.natAbs]

def isDigit (c : Char) : Bool := '0' ≤ c && c ≤ '9'

/-- The value of a numeral: one or more digits and nothing else. -/
def natural? (cs : List Char) : Option Nat :=
  if cs.isEmpty || !cs.all isDigit then none
  else some (cs.foldl (fun n c => 10 * n + (c.toNat - 0x30)) 0)

/-- Which integers a numeral may denote. Without a negative bound, `-` is not a sign. -/
structure IntRange where
  low : Int
  high : Int
  deriving DecidableEq, Repr

/-- The value of an optionally signed numeral, if it lies in the range. -/
def parse? (range : IntRange) (cs : List Char) : Option Int := do
  let value ←
    match cs with
    | '+' :: rest => (natural? rest).map Int.ofNat
    | '-' :: rest =>
      if range.low < 0 then (natural? rest).map fun n => -Int.ofNat n else none
    | _ => (natural? cs).map Int.ofNat
  if range.low ≤ value ∧ value ≤ range.high then some value else none

end FixedCapacity.Text
