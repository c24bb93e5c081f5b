/-
  FixedCapacity.Pattern.Match — finding the first match of a pattern.

  The search follows a program with a stack of ways not yet tried, the preferred one on
  top, from one starting position after another. An instruction is tried at a position only
  once in the whole search: a second way to it could end only as the first one did, and the
  first was preferred. So the number of steps is bounded by twice the instructions times the
  positions.
-/

import FixedCapacity.Pattern.Footprint
import FixedCapacity.Pattern.Program
import FixedCapacity.Pattern.Subject
import FixedCapacity.Pattern.Written

namespace FixedCapacity.Pattern

/-- A way through the program: where it stands and the positions it has noted. -/
structure Way where
  next : Nat
  position : Nat
  slots : Array (Option Nat)

/-- The ways on from an instruction, the preferred one first. -/
def Way.onward (w : Way) (s : Subject) : Instruction → List Way
  | .char set =>
    match (s.chars[w.position]?).join with
    | some (c, length) =>
      if set.contains c then [{ w with next := w.next + 1, position := w.position + length }]
      else []
    | none => []
  | .byte set =>
    if (s.byteAt? w.position).any set.contains then
      [{ w with next := w.next + 1, position := w.position + 1 }]
    else []
  | .look condition => if s.holds w.position condition then [{ w with next := w.next + 1 }] else []
  | .save slot =>
    [{ w with next := w.next + 1, slots := w.slots.setIfInBounds slot (some w.position) }]
  | .jump target => [{ w with next := target }]
  | .split first second => [{ w with next := first }, { w with next := second }]
  | .accept => []

/-- Which instructions have been tried at which positions: a row of marks for each position, as long
as the program, or still empty. -/
structure Tried where
  rows : Array ByteArray

namespace Tried

def start (positions : Nat) : Tried := ⟨Array.replicate positions .empty⟩

def contains (tried : Tried) (position instruction : Nat) : Bool :=
  (tried.rows[position]?).any fun row => row[instruction]? = some 1

/-- Marks an instruction of a program of some length. -/
def insert (tried : Tried) (length position instruction : Nat) : Tried :=
  ⟨tried.rows.modify position fun row =>
    let row := if row.isEmpty then ⟨Array.replicate length 0⟩ else row
    if h : instruction < row.size then row.set instruction 1 h else row⟩

end Tried

/-- Tries the ways on a stack, in at most `fuel` steps: what the first to be accepted has noted,
and what has been tried by then. -/
def tryWays (p : Program) (s : Subject) :
    Nat → Tried → List Way → Option (Array (Option Nat)) × Tried
  | 0, tried, _ => (none, tried)
  | _ + 1, tried, [] => (none, tried)
  | fuel + 1, tried, w :: ways =>
    if tried.contains w.position w.next then tryWays p s fuel tried ways
    else
      let tried := tried.insert p.size w.position w.next
      match p[w.next]? with
      | none => tryWays p s fuel tried ways
      | some .accept => (some w.slots, tried)
      | some instruction => tryWays p s fuel tried (w.onward s instruction ++ ways)

/-- Tries one starting position after another. -/
def tryStarts (p : Program) (s : Subject) (slots : Nat) :
    Tried → List Nat → Option (Array (Option Nat))
  | _, [] => none
  | tried, start :: starts =>
    let fuel := 2 * p.size * (s.bytes.size + 1) + 2
    match tryWays p s fuel tried [⟨0, start, Array.replicate slots none⟩] with
    | (some found, _) => some found
    | (none, tried) => tryStarts p s slots tried starts

/-- The range of each group, from the positions noted for it. -/
def captures (found : Array (Option Nat)) : Nat → List (Option (Nat × Nat))
  | 0 => []
  | groups + 1 =>
    captures found groups ++
      [match (found[2 * groups]?).join, (found[2 * groups + 1]?).join with
        | some start, some stop => some (start, stop)
        | _, _ => none]

/-- The ranges that the first match takes, the whole match first and then each of so many groups. -/
def search (p : Program) (groups : Nat) (bytes : List UInt8) : Option (List (Option (Nat × Nat))) :=
  let s := Subject.ofBytes bytes
  let starts := List.range (bytes.length + 1)
  (tryStarts p s (2 * (groups + 1)) (.start starts.length) starts).map (captures · (groups + 1))

/-- What a pattern means, if it is one and not too large: a search through bytes. -/
def engine (pattern : String) : Option (List UInt8 → Option (List (Option (Nat × Nat)))) :=
  match Node.ofText? pattern with
  | none => none
  | some (node, groups) =>
    if node.fits then some (search node.program groups) else none

end FixedCapacity.Pattern
