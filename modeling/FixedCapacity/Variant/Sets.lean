/-
  FixedCapacity.Variant.Sets — three closed sets of alternatives.

  `scalars` holds a number, a truth value or a short text. `shapes` holds a square or a
  rectangle and gives both an area and a scale. `cells` holds a tracked resource, whose
  end is worth noting, or a plain byte.

  Each set has a visitor that describes what is stored and numbers its answers from one.
-/

import FixedCapacity.ByteString.Basic
import FixedCapacity.Text.Listing
import FixedCapacity.Variant.Basic

namespace FixedCapacity

/-- Numbers the answers of a visitor, counting those given before. -/
def numbered (text : String) (given : Nat) : String × Nat :=
  (text ++ " #" ++ Text.decimal (given + 1), given + 1)

/-! ## Scalars -/

inductive Scalar where
  | int
  | flag
  | text
  deriving DecidableEq, Repr

/-- A number, a truth value or a text. -/
def scalars : Alternatives where
  Name := Scalar
  names := [.int, .flag, .text]
  Payload
    | .int => Int
    | .flag => Bool
    | .text => ByteString
  nodup := by decide
  complete i := by cases i <;> decide

namespace Scalar

/-- How many bytes a text among the scalars may have. -/
def textCapacity : Nat := 16

instance : ∀ i, BEq (scalars.Payload i)
  | .int => inferInstanceAs (BEq Int)
  | .flag => inferInstanceAs (BEq Bool)
  | .text => inferInstanceAs (BEq ByteString)

def boolText (b : Bool) : String := if b then "true" else "false"

def describe : (i : scalars.Name) → scalars.Payload i → Nat → String × Nat
  | .int, (n : Int) => numbered ("int " ++ Text.integer n)
  | .flag, (b : Bool) => numbered ("flag " ++ boolText b)
  | .text, (s : ByteString) => numbered ("text " ++ s.display)

def debug : (i : scalars.Name) → scalars.Payload i → String
  | .int, (n : Int) => Text.tuple "Int" [Text.integer n]
  | .flag, (b : Bool) => Text.tuple "Flag" [boolText b]
  | .text, (s : ByteString) => Text.tuple "Text" [s.debug]

end Scalar

/-! ## Shapes -/

inductive Shape where
  | square
  | rect
  deriving DecidableEq, Repr

/-- A square or a rectangle, by the lengths of the sides. -/
def shapes : Alternatives where
  Name := Shape
  names := [.square, .rect]
  Payload
    | .square => UInt32
    | .rect => UInt32 × UInt32
  nodup := by decide
  complete i := by cases i <;> decide

namespace Shape

instance : ∀ i, BEq (shapes.Payload i)
  | .square => inferInstanceAs (BEq UInt32)
  | .rect => inferInstanceAs (BEq (UInt32 × UInt32))

/-- The product of the sides, which a 64-bit word always has room for. -/
def area : (i : shapes.Name) → shapes.Payload i → Nat
  | .square, (s : UInt32) => s.toNat * s.toNat
  | .rect, (r : UInt32 × UInt32) => r.1.toNat * r.2.toNat

/-- Multiplies every side, modulo the size of a word. -/
def scale (factor : UInt32) : (i : shapes.Name) → shapes.Payload i → shapes.Payload i
  | .square, (s : UInt32) => s * factor
  | .rect, (r : UInt32 × UInt32) => (r.1 * factor, r.2 * factor)

def describe : (i : shapes.Name) → shapes.Payload i → Nat → String × Nat
  | .square, (s : UInt32) => numbered ("square " ++ Text.decimal s.toNat)
  | .rect, (r : UInt32 × UInt32) =>
    numbered ("rect " ++ Text.decimal r.1.toNat ++ "x" ++ Text.decimal r.2.toNat)

def debug : (i : shapes.Name) → shapes.Payload i → String
  | .square, (s : UInt32) => Text.tuple "Square" [Text.tuple "Square" [Text.decimal s.toNat]]
  | .rect, (r : UInt32 × UInt32) =>
    Text.tuple "Rect" [Text.tuple "Rect" [Text.decimal r.1.toNat, Text.decimal r.2.toNat]]

end Shape

/-! ## Cells -/

inductive Cell where
  | tracked
  | plain
  deriving DecidableEq, Repr

/-- A resource known by a number, or a plain byte. -/
def cells : Alternatives where
  Name := Cell
  names := [.tracked, .plain]
  Payload
    | .tracked => Int
    | .plain => UInt8
  nodup := by decide
  complete i := by cases i <;> decide

namespace Cell

def describe : (i : cells.Name) → cells.Payload i → Nat → String × Nat
  | .tracked, (id : Int) => numbered ("tracked " ++ Text.integer id)
  | .plain, (b : UInt8) => numbered ("plain " ++ Text.decimal b.toNat)

end Cell

end FixedCapacity
