/-
  FixedCapacity.Pattern.Syntax — what a pattern asks for.

  A pattern is matched against bytes. It consumes the bytes of a literal, one encoded
  character of a set (`char`) or one byte of a set (`byte`), or it looks at a position
  without consuming. Of two branches the left one is preferred, and so is one more
  repetition of a greedy node and one less of a lazy one.

  Longer sequences and longer lists of branches are nested to the right, which `items`
  and `choices` undo.
-/

import FixedCapacity.Pattern.CodeSet

namespace FixedCapacity.Pattern

/-- Which characters count as parts of words: letters and digits of all scripts, or of ASCII. -/
inductive Script where
  | all
  | ascii
  deriving DecidableEq, Repr

/-- A condition on a position between bytes. -/
inductive Look where
  | textStart
  | textEnd
  | lineStart
  | lineEnd
  /-- Lines may also end in a carriage return, or in one followed by a line feed. -/
  | lineStartAny
  | lineEndAny
  | wordBoundary (script : Script)
  | notWordBoundary (script : Script)
  | wordStart (script : Script)
  | wordEnd (script : Script)
  | wordStartHalf (script : Script)
  | wordEndHalf (script : Script)
  deriving DecidableEq, Repr

inductive Node where
  | empty
  | literal (bytes : List UInt8)
  | char (set : CodeSet)
  | byte (set : CodeSet)
  | look (condition : Look)
  | group (index : Nat) (node : Node)
  | concat (first second : Node)
  | branch (left right : Node)
  | loop (least : Nat) (most : Option Nat) (greedy : Bool) (node : Node)
  deriving DecidableEq, Repr

namespace Node

/-- A node that matches nothing. -/
def nothing : Node := .byte .empty

/-- The nodes one after another. -/
def items : Node → List Node
  | .concat first second => first :: second.items
  | node => [node]

/-- The branches in order of preference. -/
def choices : Node → List Node
  | .branch left right => left :: right.choices
  | node => [node]

/-- Whether a node can only look. -/
def consumesNothing : Node → Bool
  | .empty | .look _ => true
  | .literal bytes => bytes.isEmpty
  | .char _ | .byte _ => false
  | .group _ node => node.consumesNothing
  | .concat a b | .branch a b => a.consumesNothing && b.consumesNothing
  | .loop _ most _ node => most.isSome && node.consumesNothing

/-- The least number of bytes a node consumes, counting one for a character. There is none where
some part matches nothing. -/
def leastLength : Node → Option Nat
  | .empty | .look _ => some 0
  | .literal bytes => some bytes.length
  | .char set | .byte set => if set.isEmpty then none else some 1
  | .group _ node => node.leastLength
  | .concat a b => return (← a.leastLength) + (← b.leastLength)
  | .branch a b => return min (← a.leastLength) (← b.leastLength)
  | .loop least _ _ node => node.leastLength.map (least * ·)

/-- Whether a node cannot be passed without consuming something. -/
def mustConsume (node : Node) : Bool := node.leastLength.any (0 < ·)

end Node

end FixedCapacity.Pattern
