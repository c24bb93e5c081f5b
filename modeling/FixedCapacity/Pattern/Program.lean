/-
  FixedCapacity.Pattern.Program — a pattern as instructions.

  An instruction moves on to the next one, to another, or to either of two in order of
  preference; `char` and `byte` consume. A repetition with a least count is laid out that
  many times, and one without a most count ends in a way back. Where a body could consume
  nothing, going round again is decided behind it, not before it, so that one round without
  progress still counts as taking part.
-/

import FixedCapacity.Pattern.Syntax

namespace FixedCapacity.Pattern

inductive Instruction where
  | char (set : CodeSet)
  | byte (set : CodeSet)
  | look (condition : Look)
  /-- Notes the position: even slots begin a group, odd ones end it. -/
  | save (slot : Nat)
  | jump (target : Nat)
  | split (first second : Nat)
  | accept
  deriving Repr

abbrev Program := Array Instruction

/-- Goes on with a body or leaves it, the first if greedy. -/
def Instruction.choose (greedy : Bool) (body leave : Nat) : Instruction :=
  if greedy then .split body leave else .split leave body

namespace Node

/-- How many instructions a node takes. -/
def size : Node → Nat
  | .empty => 0
  | .literal bytes => bytes.length
  | .char _ | .byte _ | .look _ => 1
  | .group _ node => node.size + 2
  | .concat a b => a.size + b.size
  | .branch a b => a.size + b.size + 2
  | .loop least (some most) _ node => least * node.size + (most - least) * (node.size + 1)
  | .loop 0 none _ node => node.size + 2
  | .loop least none _ node => least * node.size + 1

/-- Lays a node out behind a program. -/
def layOut : Node → Program → Program
  | .empty, p => p
  | .literal bytes, p => bytes.foldl (fun p b => p.push (.byte (.single b.toNat))) p
  | .char set, p => p.push (.char set)
  | .byte set, p => p.push (.byte set)
  | .look condition, p => p.push (.look condition)
  | .group index node, p => (layOut node (p.push (.save (2 * index)))).push (.save (2 * index + 1))
  | .concat a b, p => layOut b (layOut a p)
  | .branch a b, p =>
    let right := p.size + a.size + 2
    layOut b ((layOut a (p.push (.split (p.size + 1) right))).push (.jump (right + b.size)))
  | .loop least (some most) greedy node, p =>
    let fixed := Nat.repeat (layOut node) least p
    let leave := fixed.size + (most - least) * (node.size + 1)
    Nat.repeat (fun q => layOut node (q.push (.choose greedy (q.size + 1) leave))) (most - least)
      fixed
  | .loop 0 none greedy node, p =>
    let body := p.size + 1
    let leave := body + node.size + 1
    let again : Instruction :=
      if node.mustConsume then .jump p.size else .choose greedy body leave
    (layOut node (p.push (.choose greedy body leave))).push again
  | .loop (least + 1) none greedy node, p =>
    let fixed := Nat.repeat (layOut node) least p
    let leave := fixed.size + node.size + 1
    (layOut node fixed).push (.choose greedy fixed.size leave)

/-- The program of a whole pattern, whose match is group zero. -/
def program (node : Node) : Program := (layOut (.group 0 node) #[]).push .accept

end Node

end FixedCapacity.Pattern
