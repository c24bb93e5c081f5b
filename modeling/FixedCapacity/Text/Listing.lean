/-
  FixedCapacity.Text.Listing — lists and tuples as text, on one line or spread out with
  one item to a line.

  Spread out, every line of an item is moved in by four columns, so items nest.
-/

namespace FixedCapacity.Text

/-- Moves every line in by four columns; `fresh` says that a line is about to begin. -/
def indentFrom (fresh : Bool) : List Char → List Char
  | [] => []
  | c :: rest =>
    (if fresh then [' ', ' ', ' ', ' '] else []) ++ c :: indentFrom (c = '\n') rest

/-- The lines of spread-out items, each item closed by a comma. -/
def spreadItems (items : List String) : String :=
  String.ofList (items.flatMap fun item => indentFrom true (item.toList ++ [',', '\n']))

/-- A list on one line. -/
def listing (items : List String) : String := "[" ++ ", ".intercalate items ++ "]"

/-- A list with one item to a line. -/
def listingSpread (items : List String) : String :=
  if items.isEmpty then "[]" else "[\n" ++ spreadItems items ++ "]"

/-- A named tuple on one line. -/
def tuple (name : String) (items : List String) : String :=
  name ++ "(" ++ ", ".intercalate items ++ ")"

/-- A named tuple with one field to a line. -/
def tupleSpread (name : String) (items : List String) : String :=
  name ++ "(\n" ++ spreadItems items ++ ")"

end FixedCapacity.Text
