/-
  FixedCapacity.Pattern.CodeSet — sets of numbers, held as ranges.

  The numbers are code points or bytes; the ranges are in ascending order and neither
  overlap nor touch. Surrogates are no characters: the ends of a range never lie among
  them, though a range may reach across.
-/

import FixedCapacity.Text.CaseFold

namespace FixedCapacity.Pattern

structure CodeSet where
  ranges : List (Nat × Nat)
  deriving DecidableEq, Repr

namespace CodeSet

/-- The last code point. -/
def lastChar : Nat := 0x10FFFF

/-- The last byte. -/
def lastByte : Nat := 0xFF

def empty : CodeSet := ⟨[]⟩

def single (n : Nat) : CodeSet := ⟨[(n, n)]⟩

def isEmpty (s : CodeSet) : Bool := s.ranges.isEmpty

/-- Whether all numbers are ASCII. -/
def isAscii (s : CodeSet) : Bool := s.ranges.all fun range => range.2 < 0x80

/-- The only number of a set, if it has just one. -/
def only? (s : CodeSet) : Option Nat :=
  match s.ranges with
  | [(low, high)] => if low = high then some low else none
  | _ => none

/-- The number after another, surrogates left out. -/
def next (n : Nat) : Nat := if n = 0xD7FF then 0xE000 else n + 1

/-- The number before another, surrogates left out. -/
def previous (n : Nat) : Nat := if n = 0xE000 then 0xD7FF else n - 1

/-- Joins ranges that overlap or touch, in a list sorted by first number, to a range before them. -/
def joinFrom (low high : Nat) : List (Nat × Nat) → List (Nat × Nat)
  | [] => [(low, high)]
  | (low', high') :: rest =>
    if low' ≤ high + 1 then joinFrom low (max high high') rest
    else (low, high) :: joinFrom low' high' rest

/-- Joins ranges that overlap or touch, in a list sorted by first number. -/
def join : List (Nat × Nat) → List (Nat × Nat)
  | [] => []
  | (low, high) :: rest => joinFrom low high rest

/-- The set of any list of ranges. -/
def ofRanges (ranges : List (Nat × Nat)) : CodeSet :=
  ⟨join (ranges.mergeSort fun a b => a.1 ≤ b.1)⟩

/-- Looks for a number among ascending ranges. -/
def containsIn (n : Nat) : List (Nat × Nat) → Bool
  | [] => false
  | (low, high) :: rest => if n < low then false else n ≤ high || containsIn n rest

def contains (s : CodeSet) (n : Nat) : Bool := containsIn n s.ranges

def union (a b : CodeSet) : CodeSet := ofRanges (a.ranges ++ b.ranges)

/-- What lies between two ranges, the first ending in `high` and the second beginning with `low`.
Where only surrogates do, it is the two characters beside them. -/
def between (high low : Nat) : Nat × Nat :=
  (min (next high) (previous low), max (next high) (previous low))

/-- The gaps among ascending ranges, from behind `high` up to `last`. -/
def gapsAfter (high last : Nat) : List (Nat × Nat) → List (Nat × Nat)
  | [] => if high < last then [(next high, last)] else []
  | (low', high') :: rest => between high low' :: gapsAfter high' last rest

/-- The numbers up to `last` that are not in the set. -/
def complement (last : Nat) (s : CodeSet) : CodeSet :=
  match s.ranges with
  | [] => ⟨[(0, last)]⟩
  | (low, high) :: rest =>
    ⟨(if 0 < low then [(0, previous low)] else []) ++ gapsAfter high last rest⟩

/-- What two ranges have in common. -/
def meet (a b : Nat × Nat) : Option (Nat × Nat) :=
  if max a.1 b.1 ≤ min a.2 b.2 then some (max a.1 b.1, min a.2 b.2) else none

def inter (a b : CodeSet) : CodeSet :=
  ⟨a.ranges.flatMap fun range => b.ranges.filterMap (meet range)⟩

/-- What is left of one range when another is taken out. -/
def without (a b : Nat × Nat) : List (Nat × Nat) :=
  if (meet a b).isNone then [a]
  else
    (if a.1 < b.1 then [(a.1, previous b.1)] else [])
      ++ (if b.2 < a.2 then [(next b.2, a.2)] else [])

def diff (a b : CodeSet) : CodeSet :=
  ⟨a.ranges.flatMap fun range =>
    b.ranges.foldl (fun left taken => left.flatMap (without · taken)) [range]⟩

/-- The numbers that are in one of two sets and not in both. -/
def symmDiff (a b : CodeSet) : CodeSet := (a.union b).diff (a.inter b)

/-- Adds the other case of every letter in the set, one step along the given pairs. -/
def foldOnce (pairs : List (Nat × Nat)) (s : CodeSet) : CodeSet :=
  let more := pairs.flatMap fun (n, folded) =>
    (if s.contains n then [(folded, folded)] else [])
      ++ (if s.contains folded then [(n, n)] else [])
  if more.isEmpty then s else ofRanges (s.ranges ++ more)

/-- Adds all cases of every letter in the set. From one case to another it is two steps at most:
to the folding, and on to what has the same one. -/
def foldCase (s : CodeSet) : CodeSet := foldOnce Text.foldings (foldOnce Text.foldings s)

/-- The pairs of ASCII letters that differ in case. -/
def asciiPairs : List (Nat × Nat) := (List.range 26).map fun i => (0x41 + i, 0x61 + i)

/-- Adds the other case of every ASCII letter in the set. -/
def foldAscii (s : CodeSet) : CodeSet := foldOnce asciiPairs s

end CodeSet

end FixedCapacity.Pattern
