/-
  FixedCapacity.Pattern.Subject — the bytes a pattern is matched against.

  A subject answers what can be consumed at a position and which conditions hold there.
  Bytes need not be UTF-8: where no character is encoded, a `char` consumes nothing and
  there is no word.
-/

import FixedCapacity.Pattern.Escape
import FixedCapacity.Text.Utf8

namespace FixedCapacity.Pattern

structure Subject where
  bytes : Array UInt8
  /-- For each position the character encoded from there on and the bytes it takes. -/
  chars : Array (Option (Nat × Nat))

namespace Subject

/-- The character at the front of a byte sequence and the bytes it takes. -/
def charAtFront? : List UInt8 → Option (Nat × Nat)
  | [] => none
  | b :: rest =>
    match Text.Segment.read b rest with
    | (.char c, more) => some (c.toNat, more + 1)
    | (.invalid _, _) => none

/-- The characters encoded at each position. -/
def charsOf : List UInt8 → List (Option (Nat × Nat))
  | [] => []
  | b :: rest => charAtFront? (b :: rest) :: charsOf rest

def ofBytes (bytes : List UInt8) : Subject := ⟨bytes.toArray, (charsOf bytes).toArray⟩

def byteAt? (s : Subject) (i : Nat) : Option Nat := s.bytes[i]?.map (·.toNat)

/-- The byte before a position. -/
def byteBefore? (s : Subject) (i : Nat) : Option Nat := if i = 0 then none else s.byteAt? (i - 1)

/-- The character encoded from a position on. -/
def charAt? (s : Subject) (i : Nat) : Option Nat := ((s.chars[i]?).join).map (·.1)

/-- Where the last character before a position would begin: going back over bytes that continue a
character, four bytes at most. -/
def startBefore (s : Subject) (i : Nat) : Nat → Nat
  | 0 => i - 1
  | back + 1 =>
    let start := s.startBefore i back
    if start ≤ i - 4 then start
    else if (s.bytes[start]?).any Text.isContinuation then start - 1
    else start

/-- The last character before a position, reading no further than the position. -/
def charBefore? (s : Subject) (i : Nat) : Option Nat :=
  if i = 0 then none
  else (charAtFront? (s.bytes.extract (s.startBefore i 3) i).toList).map (·.1)

def wordAll : CodeSet := Shorthand.word.members .all

def wordAscii : CodeSet := Shorthand.word.members .ascii

/-- Whether a word character stands right before a position. -/
def wordBefore (s : Subject) : Script → Nat → Bool
  | .all, i => (s.charBefore? i).any wordAll.contains
  | .ascii, i => (s.byteBefore? i).any wordAscii.contains

/-- Whether a word character stands right after a position. -/
def wordAfter (s : Subject) : Script → Nat → Bool
  | .all, i => (s.charAt? i).any wordAll.contains
  | .ascii, i => (s.byteAt? i).any wordAscii.contains

/-- Whether what stands before a position, if anything, is a character. -/
def readableBefore (s : Subject) : Script → Nat → Bool
  | .all, i => i = 0 || (s.charBefore? i).isSome
  | .ascii, _ => true

/-- Whether what stands after a position, if anything, is a character. -/
def readableAfter (s : Subject) : Script → Nat → Bool
  | .all, i => s.bytes.size ≤ i || (s.charAt? i).isSome
  | .ascii, _ => true

/-- Whether a condition holds at a position. One that denies a word needs to read what it
denies. -/
def holds (s : Subject) (i : Nat) : Look → Bool
  | .textStart => i = 0
  | .textEnd => i = s.bytes.size
  | .lineStart => i = 0 || s.byteBefore? i = some 0x0A
  | .lineEnd => i = s.bytes.size || s.byteAt? i = some 0x0A
  | .lineStartAny =>
    i = 0 || s.byteBefore? i = some 0x0A
      || (s.byteBefore? i = some 0x0D && s.byteAt? i ≠ some 0x0A)
  | .lineEndAny =>
    i = s.bytes.size || s.byteAt? i = some 0x0D
      || (s.byteAt? i = some 0x0A && s.byteBefore? i ≠ some 0x0D)
  | .wordBoundary script => s.wordBefore script i != s.wordAfter script i
  | .notWordBoundary script =>
    s.readableBefore script i && s.readableAfter script i
      && s.wordBefore script i == s.wordAfter script i
  | .wordStart script => !s.wordBefore script i && s.wordAfter script i
  | .wordEnd script => s.wordBefore script i && !s.wordAfter script i
  | .wordStartHalf script => s.readableBefore script i && !s.wordBefore script i
  | .wordEndHalf script => s.readableAfter script i && !s.wordAfter script i

end Subject

end FixedCapacity.Pattern
