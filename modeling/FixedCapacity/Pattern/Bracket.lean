/-
  FixedCapacity.Pattern.Bracket — classes in square brackets.

  A class lists characters, ranges, classes with a letter, named classes such as
  `[:alpha:]`, and further classes in brackets; two lists are intersected, subtracted or
  compared by a doubled sign, and the leftmost sign goes first. A dash that no range can
  use and a closing bracket in first place stand for themselves.
-/

import FixedCapacity.Pattern.Escape

namespace FixedCapacity.Pattern

/-- What a doubled sign does to the set before it and the set after it. -/
inductive SetOp where
  | inter
  | diff
  | symmDiff
  deriving DecidableEq, Repr

def SetOp.apply : SetOp → CodeSet → CodeSet → CodeSet
  | .inter => CodeSet.inter
  | .diff => CodeSet.diff
  | .symmDiff => CodeSet.symmDiff

/-- How deep a list of parts is nested, given how deep each part is: several parts are one level
more than the deepest of them. -/
def listDepth : List Nat → Nat
  | [] => 0
  | [depth] => depth
  | depths => depths.foldl max 0 + 1

/-- What stands before a doubled sign, and how deep it is nested. -/
structure LeftSide where
  set : CodeSet
  op : SetOp
  depth : Nat
  deriving DecidableEq, Repr

/-- A bracket that is open: what came before the last doubled sign, and the items since with how
deep each is nested. -/
structure Bracket where
  negated : Bool
  left : Option LeftSide
  items : CodeSet
  depths : List Nat
  deriving DecidableEq, Repr

namespace Bracket

def start (negated : Bool) : Bracket := ⟨negated, none, .empty, []⟩

def add (b : Bracket) (set : CodeSet) (depth : Nat) : Bracket :=
  { b with items := b.items.union set, depths := depth :: b.depths }

/-- The set listed so far. The two sides of a sign have their cases added first. -/
def listed (flags : Flags) (b : Bracket) : CodeSet :=
  match b.left with
  | none => b.items
  | some left => left.op.apply (flags.fold left.set) (flags.fold b.items)

/-- How deep the list so far is nested. A sign is one level above its two sides. -/
def depth (b : Bracket) : Nat :=
  match b.left with
  | none => listDepth b.depths
  | some left => max left.depth (listDepth b.depths) + 1

/-- Begins the list after a doubled sign. -/
def operate (flags : Flags) (b : Bracket) (op : SetOp) : Bracket :=
  { start b.negated with left := some ⟨b.listed flags, op, b.depth⟩ }

/-- The set of a bracket that closes. -/
def close (flags : Flags) (b : Bracket) : CodeSet := flags.foldAndNegate b.negated (b.listed flags)

end Bracket

/-- The members of a class with a name. -/
def namedRanges? : String → Option (List (Nat × Nat))
  | "alnum" => some [(0x30, 0x39), (0x41, 0x5A), (0x61, 0x7A)]
  | "alpha" => some [(0x41, 0x5A), (0x61, 0x7A)]
  | "ascii" => some [(0x00, 0x7F)]
  | "blank" => some [(0x09, 0x09), (0x20, 0x20)]
  | "cntrl" => some [(0x00, 0x1F), (0x7F, 0x7F)]
  | "digit" => some [(0x30, 0x39)]
  | "graph" => some [(0x21, 0x7E)]
  | "lower" => some [(0x61, 0x7A)]
  | "print" => some [(0x20, 0x7E)]
  | "punct" => some [(0x21, 0x2F), (0x3A, 0x40), (0x5B, 0x60), (0x7B, 0x7E)]
  | "space" => some [(0x09, 0x0D), (0x20, 0x20)]
  | "upper" => some [(0x41, 0x5A)]
  | "word" => some [(0x30, 0x39), (0x41, 0x5A), (0x5F, 0x5F), (0x61, 0x7A)]
  | "xdigit" => some [(0x30, 0x39), (0x41, 0x46), (0x61, 0x66)]
  | _ => none

/-- Reads a class with a name, `text` being what follows its opening bracket. -/
def readNamed (flags : Flags) (text : List Char) : Option (CodeSet × List Char) :=
  match text with
  | ':' :: text =>
    let negated := text.head? = some '^'
    let text := if negated then text.tail else text
    match text.dropWhile (· ≠ ':') with
    | ':' :: ']' :: rest =>
      (namedRanges? (String.ofList (text.takeWhile (· ≠ ':')))).map fun ranges =>
        (flags.foldAndNegate negated (.ofRanges ranges), rest)
    | _ => none
  | _ => none

/-- The number of a literal in a class. Where bytes are matched, only ASCII and escaped bytes
have one. -/
def Flags.code? (flags : Flags) (c : Char) (byte : Bool) : Option Nat :=
  if flags.unicode ∨ c.toNat < 0x80 then some c.toNat else flags.rawByte? c byte

/-- Reads one item or one end of a range. -/
def readItem (flags : Flags) : List Char → Option (Escape × List Char)
  | [] => none
  | '\\' :: rest => readEscape flags rest
  | c :: rest => some (.literal c false, rest)

/-- The set of a single item. Conditions have no place in a class. -/
def Escape.set? (flags : Flags) : Escape → Option CodeSet
  | .literal c byte => (flags.code? c byte).map .single
  | .shorthand kind negated => some (flags.shorthand kind negated)
  | .look _ => none

/-- The set of a range. Its ends are literals, and in order. -/
def rangeSet? (flags : Flags) : Escape → Escape → Option CodeSet
  | .literal a aByte, .literal b bByte => do
    let low ← flags.code? a aByte
    let high ← flags.code? b bByte
    if low ≤ high then some (.ofRanges [(low, high)]) else none
  | _, _ => none

/-- The character that decides whether a dash makes a range, `text` being what follows the dash.
In spaced patterns it is what stands behind blanks, where one `#` among them counts as a blank. -/
def afterDash (flags : Flags) (text : List Char) : Option Char :=
  if !flags.spaced then text.head?
  else
    match text.dropWhile Text.isBlank with
    | '#' :: rest => (rest.dropWhile Text.isBlank).head?
    | rest => rest.head?

/-- Reads an item, or a range if a dash follows that is not the last item or part of a sign. -/
def readRange (flags : Flags) (text : List Char) : Option (CodeSet × List Char) := do
  let (first, rest) ← readItem flags text
  match flags.skip rest with
  | '-' :: after =>
    if afterDash flags after = some ']' ∨ afterDash flags after = some '-' then
      some (← first.set? flags, flags.skip rest)
    else
      let (second, rest) ← readItem flags (flags.skip after)
      some (← rangeSet? flags first second, rest)
  | rest => some (← first.set? flags, rest)

/-- Reads the dashes at the front, at most `fuel` of them. -/
def readDashes (flags : Flags) : Nat → Bracket → List Char → Bracket × List Char
  | 0, bracket, text => (bracket, text)
  | _ + 1, bracket, [] => (bracket, [])
  | fuel + 1, bracket, c :: rest =>
    if c = '-' then readDashes flags fuel (bracket.add (.single 0x2D) 0) (flags.skip rest)
    else (bracket, c :: rest)

/-- Opens a bracket, reading its negation and what can stand for itself only at the front. -/
def openBracket (flags : Flags) (text : List Char) : Bracket × List Char :=
  let text := flags.skip text
  let negated := text.head? = some '^'
  let text := if negated then flags.skip text.tail else text
  match text with
  | ']' :: rest => ((Bracket.start negated).add (.single 0x5D) 0, flags.skip rest)
  | _ => readDashes flags (text.length + 1) (.start negated) text

/-- Reads up to the end of the outermost bracket, at most `fuel` items and signs: `bracket` is
open, and so are those of `outer` around it. The answer tells how deep the bracket is nested. -/
def readBrackets (flags : Flags) :
    Nat → List Bracket → Bracket → List Char → Option (CodeSet × Nat × List Char)
  | 0, _, _, _ => none
  | fuel + 1, outer, bracket, text =>
    match flags.skip text with
    | [] => none
    | '[' :: rest =>
      match readNamed flags rest with
      | some (set, rest) => readBrackets flags fuel outer (bracket.add set 0) rest
      | none =>
        let (inner, rest) := openBracket flags rest
        readBrackets flags fuel (bracket :: outer) inner rest
    | ']' :: rest =>
      match outer with
      | [] => some (bracket.close flags, bracket.depth + 1, rest)
      | up :: outer =>
        readBrackets flags fuel outer (up.add (bracket.close flags) (bracket.depth + 1)) rest
    | '&' :: '&' :: rest => readBrackets flags fuel outer (bracket.operate flags .inter) rest
    | '-' :: '-' :: rest => readBrackets flags fuel outer (bracket.operate flags .diff) rest
    | '~' :: '~' :: rest => readBrackets flags fuel outer (bracket.operate flags .symmDiff) rest
    | text =>
      match readRange flags text with
      | none => none
      | some (set, rest) => readBrackets flags fuel outer (bracket.add set 0) rest

/-- Reads a class, `text` being what follows its opening bracket: its set and how deep it is
nested. -/
def readBracket (flags : Flags) (text : List Char) : Option (CodeSet × Nat × List Char) :=
  let (bracket, rest) := openBracket flags text
  readBrackets flags (text.length + 1) [] bracket rest

end FixedCapacity.Pattern
