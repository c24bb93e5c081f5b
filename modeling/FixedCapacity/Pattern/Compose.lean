/-
  FixedCapacity.Pattern.Compose — nodes built from their parts, in plain form.

  Adjacent literals join into one, sequences and branches within their like are taken
  apart, and a set of one member is a literal. Branches that take one character each
  become one set; branches that are all sequences and begin alike have the beginning
  taken out in front. That last rule is felt: in `.*b|.*c` the two share one `.*`, so
  the longest of all matches wins, and not the one that ends in `b`.
-/

import FixedCapacity.Pattern.Syntax
import FixedCapacity.Text.Utf8

namespace FixedCapacity.Pattern.Node

/-- One encoded character of a set. -/
def ofChars (set : CodeSet) : Node :=
  match set.only? with
  | some n => .literal (Text.encode [Char.ofNat n])
  | none => if set.isEmpty then nothing else .char set

/-- One byte of a set. -/
def ofBytes (set : CodeSet) : Node :=
  match set.only? with
  | some n => .literal [n.toUInt8]
  | none => .byte set

/-- A node that is no sequence in front of one that may be. -/
def attach : Node → Node → Node
  | .empty, b => b
  | a, .empty => a
  | .literal s, .literal t => .literal (s ++ t)
  | .literal s, .concat (.literal t) b => .concat (.literal (s ++ t)) b
  | a, b => .concat a b

/-- Nodes one after another. -/
def sequence (nodes : List Node) : Node := (nodes.flatMap items).foldr attach .empty

/-- The character a literal encodes, if it is just one. -/
def oneChar? : Node → Option (Nat × Nat)
  | .literal bytes =>
    match Text.decode? bytes with
    | some [c] => some (c.toNat, c.toNat)
    | _ => none
  | _ => none

/-- The byte of a literal, if it is just one. -/
def oneByte? : Node → Option (Nat × Nat)
  | .literal [b] => some (b.toNat, b.toNat)
  | _ => none

/-- The characters a set takes; of sets of bytes, those of ASCII will do. -/
def charSet? : Node → Option CodeSet
  | .char set => some set
  | .byte set => if set.isAscii then some set else none
  | _ => none

/-- The bytes a set takes; of sets of characters, those of ASCII will do. -/
def byteSet? : Node → Option CodeSet
  | .byte set => some set
  | .char set => if set.isAscii then some set else none
  | _ => none

/-- The set that stands for branches that take one character or one byte each. -/
def gathered? (branches : List Node) : Option Node :=
  (branches.mapM oneChar?).map (fun ranges => ofChars (.ofRanges ranges))
    <|> (branches.mapM oneByte?).map (fun ranges => ofBytes (.ofRanges ranges))
    <|> (branches.mapM charSet?).map (fun sets => ofChars (sets.foldl .union .empty))
    <|> (branches.mapM byteSet?).map (fun sets => ofBytes (sets.foldl .union .empty))

/-- The nodes two lists begin with alike. -/
def common : List Node → List Node → List Node
  | a :: as, b :: bs => if a = b then a :: common as bs else []
  | _, _ => []

/-- The items of a sequence, and none of any other node. -/
def sequenceItems : Node → List Node
  | .concat a b => a :: b.items
  | _ => []

/-- What branches begin with alike, if all are sequences. -/
def commonFront : List Node → List Node
  | [] => []
  | node :: rest => rest.foldl (fun front b => common front b.sequenceItems) node.sequenceItems

/-- Branches in order of preference. -/
def either : List Node → Node
  | [] => nothing
  | [node] => node
  | node :: rest => .branch node (either rest)

/-- Branches in order of preference in plain form, taking out at most `fuel` beginnings. -/
def branchesWithin : Nat → List Node → Node
  | 0, nodes => either nodes
  | fuel + 1, nodes =>
    match nodes.flatMap choices with
    | [] => nothing
    | [node] => node
    | branches =>
      match gathered? branches with
      | some node => node
      | none =>
        let front := commonFront branches
        if front.isEmpty then either branches
        else
          let rest := branches.map fun b => sequence (b.items.drop front.length)
          sequence (front ++ [branchesWithin fuel rest])

/-- How many nodes a node is made of. -/
def count : Node → Nat
  | .empty | .literal _ | .char _ | .byte _ | .look _ => 1
  | .group _ node | .loop _ _ _ node => node.count + 1
  | .concat a b | .branch a b => a.count + b.count + 1

/-- Branches in order of preference, in plain form. Taking out a beginning leaves fewer nodes. -/
def branches (nodes : List Node) : Node :=
  branchesWithin (nodes.foldl (fun sum node => sum + node.count) 0) nodes

/-- Repeats a node. Repeating what only looks is of no use beyond the first time, no repetition is
nothing at all, and one repetition is the node itself. -/
def repeated (least : Nat) (most : Option Nat) (greedy : Bool) (node : Node) : Node :=
  let (least, most) :=
    if node.consumesNothing then (min least 1, some ((most.map (min 1)).getD 1))
    else (least, most)
  if least = 0 ∧ most = some 0 then .empty
  else if least = 1 ∧ most = some 1 then node
  else .loop least most greedy node

end FixedCapacity.Pattern.Node
