/-
  FixedCapacity.Error.Text — an error as text.

  `pieces` is the text in the pieces a writer receives: the message, then, if a place
  is known, ` (file:line)`. `debug` spells out the fields.
-/

import FixedCapacity.Error.Basic
import FixedCapacity.Text.Decimal
import FixedCapacity.Text.Quoted

namespace FixedCapacity

namespace Location

def pieces (l : Location) : List (List Char) := [l.file.toList, [':'], Text.digits l.line]

def display (l : Location) : String := String.ofList l.pieces.flatten

/-- The fields of a place, the file name quoted. -/
def debug (l : Location) : String :=
  s!"Location \x7b file: {Text.quoted l.file}, line: {Text.decimal l.line} \x7d"

end Location

namespace Error

/-- The text of an error, piece by piece. -/
def pieces (e : Error) (describe : Descriptions := Error.describe) : List (List Char) :=
  (e.message describe).toList ::
    match e.location with
    | none => []
    | some l => [" (".toList] ++ l.pieces ++ [[')']]

def display (e : Error) (describe : Descriptions := Error.describe) : String :=
  String.ofList (e.pieces describe).flatten

/-- The fields of an error. -/
def debug (e : Error) : String :=
  let place := match e.location with
    | none => "None"
    | some l => "Some(" ++ l.debug ++ ")"
  s!"Error \x7b kind: {e.kind.name}, errno: {Text.integer e.errno}, location: {place} \x7d"

end Error

end FixedCapacity
