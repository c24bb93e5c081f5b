/-
  FixedCapacity.SlotArray.Text — an array as text: its elements in brackets, on one line
  or one to a line.
-/

import FixedCapacity.SlotArray.Basic
import FixedCapacity.Text.Listing

namespace FixedCapacity.SlotArray

variable {α : Type}

/-- The elements on one line, each as `text` has it. -/
def debug (text : α → String) (a : SlotArray α) : String := Text.listing (a.toList.map text)

/-- The elements one to a line, each as `text` has it. -/
def debugSpread (text : α → String) (a : SlotArray α) : String :=
  Text.listingSpread (a.toList.map text)

end FixedCapacity.SlotArray
