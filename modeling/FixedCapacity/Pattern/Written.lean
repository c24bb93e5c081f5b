/-
  FixedCapacity.Pattern.Written — patterns as they are written.

  A pattern lists branches between `|`; a branch lists items one after another, each with
  the repetitions behind it. Groups in brackets are patterns within the pattern: capturing
  ones are counted from one in the order they open, and a name may be given only once.
  Nesting has a limit: groups, repetitions, classes, and lists of several items or
  branches are a level each. `Node.ofText?` reads the whole pattern, or turns it down.
-/

import FixedCapacity.Pattern.Bracket

namespace FixedCapacity.Pattern

/-- What has been read as one item: its node, how deep it is nested, and whether it can be
repeated, which a change of flags cannot. -/
structure Part where
  node : Node
  depth : Nat
  repeatable : Bool
  deriving Repr

namespace Part

/-- A change of flags. -/
def switch : Part := ⟨.empty, 0, false⟩

/-- Parts one after another. -/
def sequence (parts : List Part) : Part :=
  ⟨.sequence (parts.map (·.node)), listDepth (parts.map (·.depth)), true⟩

/-- Parts to choose from. -/
def branches (parts : List Part) : Part :=
  ⟨.branches (parts.map (·.node)), listDepth (parts.map (·.depth)), true⟩

end Part

/-- A group that is open, or the pattern itself: its finished branches and the items of the
branch at hand, both latest first. -/
structure Branching where
  branches : List Part
  items : List Part
  deriving Repr

namespace Branching

def start : Branching := ⟨[], []⟩

def add (b : Branching) (part : Part) : Branching := { b with items := part :: b.items }

/-- Begins the next branch. -/
def split (b : Branching) : Branching := ⟨.sequence b.items.reverse :: b.branches, []⟩

/-- All branches, the one at hand being the last. -/
def part (b : Branching) : Part := .branches b.split.branches.reverse

/-- Repeats the last item. -/
def repeatLast (b : Branching) (least : Nat) (most : Option Nat) (greedy : Bool) :
    Option Branching :=
  match b.items with
  | [] => none
  | last :: items =>
    if last.repeatable then
      some { b with items := ⟨last.node.repeated least most greedy, last.depth + 1, true⟩ :: items }
    else none

end Branching

/-- A group around the one at hand: what it holds so far, and what closing the inner one needs,
its number if it captures, and the flags to return to. -/
structure Enclosing where
  holds : Branching
  index : Option Nat
  flags : Flags
  deriving Repr

/-- How far a pattern has been read. -/
structure Reading where
  flags : Flags
  here : Branching
  outer : List Enclosing
  /-- How many capturing groups have opened. -/
  groups : Nat
  names : List (List Char)
  deriving Repr

namespace Reading

def start : Reading := ⟨{}, .start, [], 0, []⟩

/-- Adds an item that nests so deep. -/
def add (r : Reading) (node : Node) (depth : Nat) : Reading :=
  { r with here := r.here.add ⟨node, depth, true⟩ }

/-- Opens a capturing group. -/
def capture (r : Reading) : Reading :=
  { r with
    here := .start
    outer := ⟨r.here, some (r.groups + 1), r.flags⟩ :: r.outer
    groups := r.groups + 1 }

/-- Opens a group that only groups, under flags of its own. -/
def enclose (r : Reading) (flags : Flags) : Reading :=
  { r with flags, here := .start, outer := ⟨r.here, none, r.flags⟩ :: r.outer }

/-- Closes the innermost group. -/
def close (r : Reading) : Option Reading :=
  match r.outer with
  | [] => none
  | up :: outer =>
    let part := r.here.part
    let node := match up.index with
      | some index => .group index part.node
      | none => part.node
    some { r with flags := up.flags, here := up.holds.add ⟨node, part.depth + 1, true⟩, outer }

/-- Repeats the last item, lazily if a question mark comes next. -/
def repeatLast (r : Reading) (least : Nat) (most : Option Nat) (rest : List Char) :
    Option (Reading × List Char) :=
  let isLazy := rest.head? = some '?'
  (r.here.repeatLast least most (isLazy = r.flags.swapGreed)).map fun here =>
    ({ r with here }, if isLazy then rest.tail else rest)

end Reading

/-- Whether a character is in ranges of a table. -/
def inRanges (ranges : List (Nat × Nat)) (c : Char) : Bool :=
  ranges.any fun range => range.1 ≤ c.toNat && c.toNat ≤ range.2

/-- Whether a character may begin a name. -/
def beginsName (c : Char) : Bool := c = '_' || inRanges Text.alphabeticRanges c

/-- Whether a character may go on a name. -/
def continuesName (c : Char) : Bool :=
  beginsName c || c = '.' || c = '[' || c = ']' || inRanges Text.numericRanges c

def isName : List Char → Bool
  | [] => false
  | c :: rest => beginsName c && rest.all continuesName

/-- Reads the name of a group up to its closing angle bracket. -/
def readGroupName (r : Reading) (text : List Char) : Option (Reading × List Char) :=
  let name := text.takeWhile (· ≠ '>')
  match text.dropWhile (· ≠ '>') with
  | [] => none
  | _ :: rest =>
    if isName name ∧ name ∉ r.names then some ({ r.capture with names := name :: r.names }, rest)
    else none

/-- Reads what an opening bracket begins: a group, or a change of flags. What looks around is
turned down. -/
def readOpening (r : Reading) (text : List Char) : Option (Reading × List Char) :=
  match r.flags.skip text with
  | '?' :: '=' :: _ | '?' :: '!' :: _ | '?' :: '<' :: '=' :: _ | '?' :: '<' :: '!' :: _ => none
  | '?' :: 'P' :: '<' :: rest => readGroupName r rest
  | '?' :: '<' :: rest => readGroupName r rest
  | '?' :: rest =>
    match r.flags.read rest with
    | none => none
    | some (flags, .group, rest) => some (r.enclose flags, rest)
    | some (flags, .onward, rest) => some ({ r with flags, here := r.here.add .switch }, rest)
  | rest => some (r.capture, rest)

/-- Reads digits, at most `fuel` of them, passing over what means nothing. -/
def readNumeral (flags : Flags) : Nat → List Char → List Char → List Char × List Char
  | 0, digits, text => (digits, text)
  | _ + 1, digits, [] => (digits, [])
  | fuel + 1, digits, c :: rest =>
    if Text.isDigit c then readNumeral flags fuel (digits ++ [c]) (flags.skip rest)
    else (digits, c :: rest)

/-- Reads a number of times, with blanks around it, below 2^32. -/
def readTimes (flags : Flags) (text : List Char) : Option (Nat × List Char) :=
  let (digits, rest) := readNumeral flags (text.length + 1) [] (text.dropWhile Text.isBlank)
  match Text.natural? digits with
  | none => none
  | some n => if n < 0x100000000 then some (n, rest.dropWhile Text.isBlank) else none

/-- Reads a counted repetition, `text` being what follows its opening brace. -/
def readCounted (flags : Flags) (text : List Char) : Option (Nat × Option Nat × List Char) :=
  match readTimes flags (flags.skip text) with
  | some (least, '}' :: rest) => some (least, some least, flags.skip rest)
  | some (least, ',' :: rest) =>
    match flags.skip rest with
    | '}' :: rest => some (least, none, flags.skip rest)
    | rest =>
      match readTimes flags rest with
      | some (most, '}' :: rest) =>
        if least ≤ most then some (least, some most, flags.skip rest) else none
      | _ => none
  | _ => none

/-- The node of a literal, in all its cases if case is ignored. Where bytes are matched, only ASCII
letters have cases. -/
def Flags.literal (flags : Flags) (c : Char) (byte : Bool) : Node :=
  match flags.rawByte? c byte with
  | some n => .ofBytes (.single n)
  | none =>
    if flags.unicode ∨ c.toNat < 0x80 then flags.one (flags.fold (.single c.toNat))
    else .ofChars (.single c.toNat)

/-- The node of an escape. -/
def Flags.escape (flags : Flags) : Escape → Node
  | .literal c byte => flags.literal c byte
  | .shorthand kind negated => flags.one (flags.shorthand kind negated)
  | .look condition => .look condition

/-- The node of a dot: anything but what ends a line. -/
def Flags.dot (flags : Flags) : Node :=
  let ends : CodeSet :=
    if flags.dotAll then .empty
    else if flags.anyLineEnd then .ofRanges [(0x0A, 0x0A), (0x0D, 0x0D)]
    else .single 0x0A
  flags.one (ends.complement flags.last)

def Flags.startLook (flags : Flags) : Look :=
  if !flags.multiLine then .textStart else if flags.anyLineEnd then .lineStartAny else .lineStart

def Flags.endLook (flags : Flags) : Look :=
  if !flags.multiLine then .textEnd else if flags.anyLineEnd then .lineEndAny else .lineEnd

/-- Reads what begins with the character `c`. -/
def readOne (r : Reading) (c : Char) (rest : List Char) : Option (Reading × List Char) :=
  match c with
  | '(' => readOpening r rest
  | ')' => r.close.map (·, rest)
  | '|' => some ({ r with here := r.here.split }, rest)
  | '[' =>
    (readBracket r.flags rest).map fun (set, depth, rest) => (r.add (r.flags.one set) depth, rest)
  | '?' => r.repeatLast 0 (some 1) rest
  | '*' => r.repeatLast 0 none rest
  | '+' => r.repeatLast 1 none rest
  | '{' => (readCounted r.flags rest).bind fun (least, most, rest) => r.repeatLast least most rest
  | '\\' =>
    (readEscape r.flags rest).map fun (escape, rest) => (r.add (r.flags.escape escape) 0, rest)
  | '.' => some (r.add r.flags.dot 0, rest)
  | '^' => some (r.add (.look r.flags.startLook) 0, rest)
  | '$' => some (r.add (.look r.flags.endLook) 0, rest)
  | c => some (r.add (r.flags.literal c false) 0, rest)

/-- Reads on to the end of the text, at most `fuel` steps. -/
def readAll : Nat → Reading → List Char → Option Reading
  | 0, _, _ => none
  | fuel + 1, r, text =>
    match r.flags.skip text with
    | [] => some r
    | c :: rest =>
      match readOne r c rest with
      | none => none
      | some (r, rest) => readAll fuel r rest

/-- How deep a pattern may be nested. -/
def depthLimit : Nat := 250

/-- The pattern a text stands for, and how many groups capture in it. Every step takes at least one
character, so there are enough of them. -/
def Node.ofText? (text : String) : Option (Node × Nat) :=
  match readAll (text.length + 1) .start text.toList with
  | none => none
  | some r =>
    let part := r.here.part
    if r.outer.isEmpty ∧ part.depth ≤ depthLimit then some (part.node, r.groups) else none

end FixedCapacity.Pattern
