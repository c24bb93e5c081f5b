/-
  FixedCapacity.Pattern.Flags — the switches of a pattern.

  A pattern turns switches on and off as it goes: `(?i)` from there to the end of the group
  around it, `(?i:...)` within a group of its own. In spaced patterns blanks mean nothing,
  and `#` starts a comment that ends with the line.
-/

import FixedCapacity.Text.Blank

namespace FixedCapacity.Pattern

structure Flags where
  ignoreCase : Bool := false
  /-- `^` and `$` also stand at the ends of lines. -/
  multiLine : Bool := false
  /-- `.` also stands for the end of a line. -/
  dotAll : Bool := false
  /-- Repetitions are lazy unless marked. -/
  swapGreed : Bool := false
  /-- Whole characters are matched, otherwise single bytes. -/
  unicode : Bool := true
  /-- A carriage return ends a line too. -/
  anyLineEnd : Bool := false
  spaced : Bool := false
  deriving DecidableEq, Repr

namespace Flags

/-- The flags with the switch of one letter set, if the letter has a switch. -/
def set? (flags : Flags) (letter : Char) (value : Bool) : Option Flags :=
  match letter with
  | 'i' => some { flags with ignoreCase := value }
  | 'm' => some { flags with multiLine := value }
  | 's' => some { flags with dotAll := value }
  | 'U' => some { flags with swapGreed := value }
  | 'u' => some { flags with unicode := value }
  | 'R' => some { flags with anyLineEnd := value }
  | 'x' => some { flags with spaced := value }
  | _ => none

/-- How a list of switches ends: the switches hold for a new group, or from here on. -/
inductive Scope where
  | group
  | onward
  deriving DecidableEq, Repr

/-- Reads letters up to their end, `seen` being those before, latest first. A letter may come
once, and so may the dash that turns off what follows it; a dash may not come last, and switches
that hold onward may not be none at all. -/
def readAfter (seen : List Char) (flags : Flags) : List Char → Option (Flags × Scope × List Char)
  | [] => none
  | c :: rest =>
    if c = ':' then if seen.head? = some '-' then none else some (flags, .group, rest)
    else if c = ')' then
      if seen.head? = some '-' ∨ seen = [] then none else some (flags, .onward, rest)
    else if seen.contains c then none
    else if c = '-' then readAfter (c :: seen) flags rest
    else
      match flags.set? c (!seen.contains '-') with
      | none => none
      | some flags => readAfter (c :: seen) flags rest

/-- Reads a list of switches. -/
def read (flags : Flags) (text : List Char) : Option (Flags × Scope × List Char) :=
  readAfter [] flags text

/-- The text behind blanks and comments. -/
def dropBlanks (inComment : Bool) : List Char → List Char
  | [] => []
  | c :: rest =>
    if inComment then dropBlanks (c ≠ '\n') rest
    else if c = '#' then dropBlanks true rest
    else if Text.isBlank c then dropBlanks false rest
    else c :: rest

/-- The text behind what means nothing under these flags. -/
def skip (flags : Flags) (text : List Char) : List Char :=
  if flags.spaced then dropBlanks false text else text

end Flags

end FixedCapacity.Pattern
