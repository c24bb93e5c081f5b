/-
  FixedCapacity.Pattern.Escape — what a backslash begins.

  An escape is a character, a class such as `\d`, or a condition such as `\b`. Digits and
  letters without a meaning of their own are no escapes; every other ASCII character but the
  angle brackets stands for itself.
-/

import FixedCapacity.Pattern.Compose
import FixedCapacity.Pattern.Flags
import FixedCapacity.Text.Decimal
import FixedCapacity.Text.Hex
import FixedCapacity.Text.Property

namespace FixedCapacity.Pattern

/-- The classes that have a letter. -/
inductive Shorthand where
  | digit
  | space
  | word
  deriving DecidableEq, Repr

/-- The members of a class: by the properties of characters, or among ASCII. -/
def Shorthand.members : Shorthand → Script → CodeSet
  | .digit, .all => .ofRanges Text.digitRanges
  | .space, .all => .ofRanges Text.blankRanges
  | .word, .all => .ofRanges Text.wordRanges
  | .digit, .ascii => .ofRanges [(0x30, 0x39)]
  | .space, .ascii => .ofRanges [(0x09, 0x0D), (0x20, 0x20)]
  | .word, .ascii => .ofRanges [(0x30, 0x39), (0x41, 0x5A), (0x5F, 0x5F), (0x61, 0x7A)]

/-- What an escape stands for. -/
inductive Escape where
  /-- A character; `byte` if it was written as two hexadecimal digits. -/
  | literal (c : Char) (byte : Bool)
  | shorthand (kind : Shorthand) (negated : Bool)
  | look (condition : Look)
  deriving DecidableEq, Repr

namespace Flags

/-- Which characters the flags let count. -/
def script (flags : Flags) : Script := if flags.unicode then .all else .ascii

/-- The last number a set may hold. -/
def last (flags : Flags) : Nat := if flags.unicode then CodeSet.lastChar else CodeSet.lastByte

/-- A set with all cases of its letters, if case is ignored. -/
def fold (flags : Flags) (set : CodeSet) : CodeSet :=
  if !flags.ignoreCase then set else if flags.unicode then set.foldCase else set.foldAscii

/-- A set or what it leaves out, cases first. -/
def foldAndNegate (flags : Flags) (negated : Bool) (set : CodeSet) : CodeSet :=
  if negated then (flags.fold set).complement flags.last else flags.fold set

/-- The members of a class with a letter, or what it leaves out. -/
def shorthand (flags : Flags) (kind : Shorthand) (negated : Bool) : CodeSet :=
  let set := kind.members flags.script
  if negated then set.complement flags.last else set

/-- A node for one character or one byte of a set. -/
def one (flags : Flags) (set : CodeSet) : Node :=
  if flags.unicode then .ofChars set else .ofBytes set

/-- The byte a literal stands for, if bytes are matched and it names one above ASCII. -/
def rawByte? (flags : Flags) (c : Char) (byte : Bool) : Option Nat :=
  if !flags.unicode ∧ byte ∧ 0x80 ≤ c.toNat then some c.toNat else none

end Flags

/-- The value of a hexadecimal digit of either case. -/
def hexDigit? (c : Char) : Option Nat :=
  if c.toNat < 0x80 then (Text.Hex.digit? c.toNat.toUInt8).map (·.toNat) else none

/-- The character with a number, if there is one. -/
def char? (n : Nat) : Option Char := if n.isValidChar then some (Char.ofNat n) else none

/-- Reads a number of exactly so many digits. -/
def readDigits (flags : Flags) : Nat → Nat → List Char → Option (Nat × List Char)
  | 0, value, text => some (value, text)
  | _ + 1, _, [] => none
  | count + 1, value, c :: rest =>
    match hexDigit? c with
    | none => none
    | some d => readDigits flags count (16 * value + d) (flags.skip rest)

/-- Reads digits up to a closing brace, at most `fuel` characters of text: the digits so far. -/
def readBraced (flags : Flags) : Nat → List Nat → List Char → Option (List Nat × List Char)
  | 0, _, _ => none
  | _ + 1, _, [] => none
  | fuel + 1, digits, c :: rest =>
    if c = '}' then some (digits, flags.skip rest)
    else
      match hexDigit? c with
      | none => none
      | some d => readBraced flags fuel (digits ++ [d]) (flags.skip rest)

/-- Reads the number of a character, as so many digits or in braces. -/
def readHex (flags : Flags) (count : Nat) (text : List Char) : Option (Escape × List Char) :=
  match flags.skip text with
  | '{' :: rest => do
    let (digits, rest) ← readBraced flags (rest.length + 1) [] (flags.skip rest)
    if digits.isEmpty then none
    else some (.literal (← char? (digits.foldl (16 * · + ·) 0)) false, rest)
  | text => do
    let (value, rest) ← readDigits flags count 0 text
    some (.literal (← char? value) (count = 2), rest)

def isLetter (c : Char) : Bool := ('a' ≤ c && c ≤ 'z') || ('A' ≤ c && c ≤ 'Z')

/-- Reads letters and dashes, at most `fuel` of them, passing over what means nothing. -/
def readName (flags : Flags) : Nat → List Char → List Char → List Char × List Char
  | 0, name, text => (name, text)
  | _ + 1, name, [] => (name, [])
  | fuel + 1, name, c :: rest =>
    if isLetter c ∨ c = '-' then readName flags fuel (name ++ [c]) (flags.skip rest)
    else (name, c :: rest)

/-- Reads what may follow `\b`: a kind of word boundary in braces. Braces around anything that
cannot be a kind are left for a repetition. -/
def readBoundary (flags : Flags) (text : List Char) : Option (Look × List Char) :=
  let plain := some (Look.wordBoundary flags.script, text)
  match text with
  | '{' :: rest =>
    match flags.skip rest with
    | [] => none
    | c :: rest =>
      if isLetter c ∨ c = '-' then
        match readName flags (rest.length + 1) [] (c :: rest) with
        | (name, '}' :: rest) =>
          match String.ofList name with
          | "start" => some (.wordStart flags.script, rest)
          | "end" => some (.wordEnd flags.script, rest)
          | "start-half" => some (.wordStartHalf flags.script, rest)
          | "end-half" => some (.wordEndHalf flags.script, rest)
          | _ => none
        | _ => none
      else plain
  | _ => plain

/-- Reads the rest of an escape, `text` being what follows the backslash. -/
def readEscape (flags : Flags) (text : List Char) : Option (Escape × List Char) :=
  match text with
  | [] => none
  | c :: rest =>
    match c with
    | 'x' => readHex flags 2 rest
    | 'u' => readHex flags 4 rest
    | 'U' => readHex flags 8 rest
    | 'd' => some (.shorthand .digit false, rest)
    | 'D' => some (.shorthand .digit true, rest)
    | 's' => some (.shorthand .space false, rest)
    | 'S' => some (.shorthand .space true, rest)
    | 'w' => some (.shorthand .word false, rest)
    | 'W' => some (.shorthand .word true, rest)
    | 'a' => some (.literal '\x07' false, rest)
    | 'f' => some (.literal '\x0C' false, rest)
    | 't' => some (.literal '\t' false, rest)
    | 'n' => some (.literal '\n' false, rest)
    | 'r' => some (.literal '\r' false, rest)
    | 'v' => some (.literal '\x0B' false, rest)
    | 'A' => some (.look .textStart, rest)
    | 'z' => some (.look .textEnd, rest)
    | 'b' => (readBoundary flags rest).map fun (condition, rest) => (.look condition, rest)
    | 'B' => some (.look (.notWordBoundary flags.script), rest)
    | '<' => some (.look (.wordStart flags.script), rest)
    | '>' => some (.look (.wordEnd flags.script), rest)
    | c =>
      if c.toNat < 0x80 ∧ !isLetter c ∧ !Text.isDigit c then some (.literal c false, rest)
      else none

end FixedCapacity.Pattern
