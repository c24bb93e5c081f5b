/-
  FixedCapacity.Error.Path — the base name of a path.

  The path is searched from its end for `/` or `\`; the name is what follows the last
  one. The search runs over bytes, so the cut is checked: a name that does not decode
  would be refused and the whole path returned.
-/

import FixedCapacity.Text.Utf8

namespace FixedCapacity.Error

def isSeparator (b : UInt8) : Bool := b = 0x2F || b = 0x5C

/-- The bytes behind the last separator. -/
def nameBytes (path : List UInt8) : List UInt8 :=
  (path.reverse.takeWhile fun b => !isSeparator b).reverse

def baseName (path : String) : String :=
  match Text.decode? (nameBytes (Text.bytes path)) with
  | some name => String.ofList name
  | none => path

end FixedCapacity.Error
