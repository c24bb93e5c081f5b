/-
  FixedCapacity.Text.Printing — values that write themselves out.

  A value gives a writer one piece of text after another, learns of each whether the writer
  took it, and says itself in the end whether all went well. It is `Honest` if it says so
  exactly when the writer took every piece. Values that stop at the first piece that is
  turned down and are honest are those told by their pieces alone (`ofPieces`).
-/

namespace FixedCapacity.Text

/-- What a value does with a writer. -/
inductive Printing where
  | done (well : Bool)
  | give (piece : List Char) (next : Bool → Printing)

namespace Printing

/-- The value that gives these pieces as long as they are taken. -/
def ofPieces : List (List Char) → Printing
  | [] => .done true
  | piece :: rest => .give piece fun taken => if taken then ofPieces rest else .done false

/-- The pieces for a writer that takes them all. -/
def pieces : Printing → List (List Char)
  | .done _ => []
  | .give piece next => piece :: (next true).pieces

/-- The value says that all went well exactly if all of its pieces are taken and `before` says that
those before were. -/
def HonestAfter (before : Bool) : Printing → Prop
  | .done well => well = before
  | .give _ next => ∀ taken, (next taken).HonestAfter (before && taken)

/-- The value fails if the writer does, and never else. -/
def Honest (value : Printing) : Prop := value.HonestAfter true

/-- The value stops at the first piece that is turned down. -/
def Prompt : Printing → Prop
  | .done _ => True
  | .give _ next => (∃ well, next false = .done well) ∧ (next true).Prompt

end Printing

end FixedCapacity.Text
