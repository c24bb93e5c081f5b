/-
  FixedCapacity.Pattern.Footprint — the memory a pattern takes.

  A pattern is searched for with two automata, one that reads forward and one that reads
  backward, and it is turned down if either takes more than 10 MiB. A state takes 32
  bytes, with 8 more for each range of bytes that it sorts by and 4 more for each way it
  branches. Nothing is matched here: states are only numbered and counted, and counting
  ends where the limit is passed.

  A set of characters beyond ASCII is spelled out in byte sequences, which share states:
  going forward, for what they begin with or end in alike; going backward, for what they
  begin with. The states to share are remembered in a table of fixed size, where a newer
  one drives out an older one of the same place, so that some are laid down twice.
-/

import FixedCapacity.Pattern.Compose
import FixedCapacity.Pattern.Encoding
import Std.Data.HashMap

namespace FixedCapacity.Pattern

/-- Which way an automaton reads. -/
inductive Direction where
  | forward
  | backward
  deriving DecidableEq, Repr

structure Footprint where
  states : Nat
  bytes : Nat
  deriving DecidableEq, Repr

namespace Footprint

/-- The most bytes an automaton may take. -/
def limit : Nat := 0xA00000

/-- What laying down states comes to, unless it is too much. -/
abbrev Laying := StateT Footprint Option

/-- Takes more bytes. -/
def grow (bytes : Nat) : Laying Unit := fun f =>
  if f.bytes + bytes ≤ limit then some ((), { f with bytes := f.bytes + bytes }) else none

/-- Lays down a state that sorts by so many ranges and branches so many ways: its number. -/
def state (ranges ways : Nat) : Laying Nat := do
  grow (32 + 8 * ranges + 4 * ways)
  modifyGet fun f => (f.states, { f with states := f.states + 1 })

/-- A state that leads straight on. -/
def plain : Laying Unit := discard (state 0 0)

/-- A state with two ways on. -/
def fork : Laying Unit := discard (state 0 2)

/-- The same so many times. -/
def times (one : Laying Unit) : Nat → Laying Unit
  | 0 => fun f => some ((), f)
  | n + 1 => fun f =>
    match one f with
    | none => none
    | some (_, f) => times one n f

/-- States that can be shared, each at the place of what it does. A state whose place is taken
drives out the one before it. -/
structure Memo where
  places : Nat
  kept : Std.HashMap Nat (List Nat × Nat)

namespace Memo

/-- The place of a key, by the hash known as FNV-1a. -/
def place (m : Memo) (key : List Nat) : Nat :=
  (key.foldl (fun hash n => (hash ^^^ n.toUInt64) * 0x100000001B3)
    (0xCBF29CE484222325 : UInt64)).toNat % m.places

def find? (m : Memo) (key : List Nat) : Option Nat :=
  match m.kept[m.place key]? with
  | some (kept, number) => if kept = key then some number else none
  | none => none

def insert (m : Memo) (key : List Nat) (number : Nat) : Memo :=
  { m with kept := m.kept.insert (m.place key) (key, number) }

end Memo

/-- Laying down states that may have been laid down before. -/
abbrev Sharing := StateT Memo Laying

/-- The state that a key stands for, laid down unless it is still kept. -/
def shared (key : List Nat) (ranges : Nat) : Sharing Nat := do
  match (← get).find? key with
  | some number => pure number
  | none =>
    let number ← state ranges 0
    modify (·.insert key number)
    pure number

/-- Neighbouring sequences that begin with the same range: the range, and what follows it. -/
def byFront (sequences : List ByteSequence) : List ((Nat × Nat) × List ByteSequence) :=
  (sequences.splitBy fun a b => a.head? == b.head?).filterMap fun group =>
    (group.head?.bind (·.head?)).map fun range => (range, group.map (·.tail))

/-- The state that reads what is left of byte sequences, at most `depth` bytes, on the way to the
state `stop`. Sequences that begin with the same range go on together. -/
def readOn (stop : Nat) : Nat → List ByteSequence → Sharing Nat
  | 0, _ => pure stop
  | depth + 1, sequences =>
    if sequences.all (·.isEmpty) then pure stop
    else do
      let steps ← (byFront sequences).mapM fun ((low, high), rests) => do
        let next ← readOn stop depth rests
        pure [low, high, next]
      shared steps.flatten steps.length

/-- The state that reads a byte sequence from its end, on the way to the state `stop`. -/
def readBack (stop : Nat) (sequence : ByteSequence) : Sharing Nat :=
  sequence.foldlM (fun next (low, high) => shared [next, low, high] 0) stop

/-- The states for one byte of so many ranges. -/
def ranges (count : Nat) : Laying Unit := do
  plain
  discard (state count 0)

/-- The states for one character of a set. No character takes more than four bytes. -/
def chars (direction : Direction) (set : CodeSet) : Laying Unit :=
  if set.isAscii then ranges set.ranges.length
  else
    match direction with
    | .forward => do
      let stop ← state 0 0
      discard ((readOn stop 4 set.byteSequences).run ⟨10000, ∅⟩)
    | .backward => do
      plain
      let stop ← state 0 0
      let each : Sharing Unit := set.byteSequences.forM fun sequence => do
        let _ ← readBack stop sequence
        grow 4
      discard (each.run ⟨1000, ∅⟩)

/-- Cuts a list of words where one ends, which is where it is empty. -/
def sections : List (List UInt8) → List (List (List UInt8))
  | [] => [[]]
  | [] :: words => [] :: sections words
  | word :: words =>
    match sections words with
    | [] => [[word]]
    | first :: others => (word :: first) :: others

/-- The states below one of a trie of words at most `depth` bytes long. What comes after a word
that ends is apart from what came before it, for the order of the words is kept; only at the front
does it make no difference how many end. -/
def trie : Nat → List (List UInt8) → Laying Unit
  | 0, _ => pure ()
  | depth + 1, words => do
    let parts := match words with
      | [] :: rest => [] :: sections (rest.dropWhile (·.isEmpty))
      | words => sections words
    let laid ← parts.mapM fun part => do
      let heads := (part.filterMap (·.head?)).eraseDups
      heads.forM fun head => do
        let tails := (part.filter (·.head? == some head)).map (·.tail)
        if tails.all (·.isEmpty) then pure () else trie depth tails
      if heads.isEmpty then pure false
      else do
        let _ ← state (if heads.length = 1 then 0 else heads.length) 0
        pure true
    discard (state 0 (laid.count true + parts.length - 1))

/-- The states for one of several words. -/
def words (direction : Direction) (words : List (List UInt8)) : Laying Unit := do
  plain
  trie ((words.map (·.length)).foldl max 0)
    (match direction with
      | .forward => words
      | .backward => words.map (·.reverse))

/-- The states for one of several branches. -/
def branches : List (Laying Unit) → Laying Unit
  | [] => pure ()
  | [one] => one
  | first :: second :: rest => do
    first
    second
    fork
    plain
    rest.forM fun one => do
      one
      grow 4

/-- The states for repetitions of what `one` lays down. A loop that may be left out and may consume
nothing decides behind its body whether to go on, which takes two states more. -/
def loop (least : Nat) (most : Option Nat) (consumes : Bool) (one : Laying Unit) : Laying Unit :=
  match least, most with
  | 0, some 1 => do fork; one; plain
  | 0, none => if consumes then do fork; one else do one; fork; fork; plain
  | least, none => do times one least; fork
  | least, some most => do
    if least = 0 then plain else times one least
    if least < most then do
      plain
      times (do fork; one) (most - least)

end Footprint

namespace Node

/-- The words a node lists, if it has several branches and all are literals. -/
def words? (node : Node) : Option (List (List UInt8)) :=
  if node.choices.length < 2 then none
  else node.choices.mapM fun
    | .literal bytes => some bytes
    | _ => none

/-- The states for a node, given those for each of its branches. -/
def statesOf (direction : Direction) (node : Node) (branches : List (Footprint.Laying Unit)) :
    Footprint.Laying Unit :=
  match node.words? with
  | some words => Footprint.words direction words
  | none => Footprint.branches branches

/-- The states for each branch of a node. -/
def branchStates (direction : Direction) : Node → List (Footprint.Laying Unit)
  | .empty | .look _ => [Footprint.plain]
  | .literal bytes => [Footprint.times Footprint.plain bytes.length]
  | .char set => [Footprint.chars direction set]
  | .byte set => [Footprint.ranges set.ranges.length]
  | .group _ node =>
    let inner := statesOf direction node (branchStates direction node)
    [match direction with
      | .forward => do Footprint.plain; inner; Footprint.plain
      | .backward => inner]
  | .concat a b =>
    let first := statesOf direction a (branchStates direction a)
    let second := statesOf direction b (branchStates direction b)
    [match direction with
      | .forward => do first; second
      | .backward => do second; first]
  | .branch a b => statesOf direction a (branchStates direction a) :: branchStates direction b
  | .loop least most _ node =>
    let one := statesOf direction node (branchStates direction node)
    [Footprint.loop least most node.mustConsume one]

/-- Whether every match begins where a condition holds. -/
def beginsAt (condition : Look) : Node → Bool
  | .look c => c = condition
  | .group _ node => node.beginsAt condition
  | .concat a b => a.beginsAt condition || (a.consumesNothing && b.beginsAt condition)
  | .branch a b => a.beginsAt condition && b.beginsAt condition
  | .loop least _ _ node => 0 < least && node.beginsAt condition
  | _ => false

/-- Whether every match ends where a condition holds. -/
def endsAt (condition : Look) : Node → Bool
  | .look c => c = condition
  | .group _ node => node.endsAt condition
  | .concat a b => b.endsAt condition || (b.consumesNothing && a.endsAt condition)
  | .branch a b => a.endsAt condition && b.endsAt condition
  | .loop least _ _ node => 0 < least && node.endsAt condition
  | _ => false

/-- Whether the search need only try one end of the text. -/
def isAnchored (direction : Direction) (node : Node) : Bool :=
  match direction with
  | .forward => node.beginsAt .textStart
  | .backward => node.endsAt .textEnd

/-- The states of the automaton that searches for a pattern: what passes over the text before the
match, the pattern as group zero, and the state that accepts. -/
def states (direction : Direction) (node : Node) : Footprint.Laying Unit := do
  if node.isAnchored direction then Footprint.plain
  else do
    Footprint.fork
    Footprint.ranges 1
  statesOf direction (.group 0 node) (branchStates direction (.group 0 node))
  Footprint.plain

/-- How many words are looked up in a table of their own, and not by an automaton. -/
def manyWords : Nat := 3000

/-- Whether a pattern takes no more memory than it may. -/
def fits (node : Node) : Bool :=
  node.words?.any (manyWords ≤ ·.length)
    || [Direction.forward, .backward].all fun direction =>
      ((node.states direction).run ⟨0, 0⟩).isSome

end Node

end FixedCapacity.Pattern
