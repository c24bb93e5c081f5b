/-
  FixedCapacity.Proofs.ByteString.Parse — which contents are read as integers.

  A content denotes an integer if it is the UTF-8 of a text that is a literal once the blanks at its ends
  are off, and the range has the value (`Denotes`). Exactly that is read (`toInteger_eq_ok_iff`), and every
  other content is refused. Which signs there are is the one thing that ranges differ in otherwise
  (`literal_congr`), so the readings of one content agree as far as their ranges do.
-/

import FixedCapacity.ByteString.Number
import FixedCapacity.Proofs.ByteString.Display
import FixedCapacity.Proofs.Text.Literal

namespace FixedCapacity.ByteString

open Text (IntRange Literal Strips encode)

variable {s : ByteString} {n : Int} {range inner outer : IntRange} {cs text : List Char}

/-- A content that is an integer of a range. -/
def Denotes (range : IntRange) (content : List UInt8) (n : Int) : Prop :=
  ∃ cs text, content = encode cs ∧ Strips cs text ∧ Literal range n text ∧ range.low ≤ n ∧ n ≤ range.high

/-- What a string is read as, in any range and in the three that there are names for. -/
structure Numeric (s : ByteString) : Prop where
  read : ∀ range n, s.toInteger range = .ok n ↔ Denotes range s.content n
  refused : ∀ range, (∀ n, ¬ Denotes range s.content n) → s.toInteger range = .error .invalidArgument
  /-- The shorter of two signed ranges takes what it has room for. -/
  narrow : ∀ n, s.toInteger int32 = .ok n ↔ s.toInteger int64 = .ok n ∧ int32.low ≤ n ∧ n ≤ int32.high
  /-- Without a minus, the signed range takes the lower half of the unsigned one. -/
  unsigned : 0x2D ∉ s.content → ∀ n, s.toInteger int64 = .ok n ↔ s.toInteger uint64 = .ok n ∧ n ≤ int64.high

/-- The number that bytes are read as, if they are. -/
def number? (range : IntRange) (content : List UInt8) : Option Int :=
  (Text.decode? content).bind fun cs => Text.parse? range (Text.trim cs)

theorem number?_eq_some_iff {content : List UInt8} : number? range content = some n ↔ Denotes range content n := by
  unfold number?
  rw [Option.bind_eq_some_iff]
  constructor
  · rintro ⟨cs, hdecode, hparse⟩
    obtain ⟨hliteral, hrange⟩ := Text.parse?_eq_some_iff.mp hparse
    exact ⟨cs, Text.trim cs, Text.decode?_eq_some_iff.mp hdecode, Text.strips_trim cs, hliteral, hrange⟩
  · rintro ⟨cs, text, hcontent, hstrips, hliteral, hrange⟩
    refine ⟨cs, Text.decode?_eq_some_iff.mpr hcontent, ?_⟩
    rw [Text.strips_iff.mp hstrips]
    exact Text.parse?_eq_some_iff.mpr ⟨hliteral, hrange⟩

/-- A content that is not read is refused with one kind of error, at whichever step. -/
theorem toInteger_eq (range : IntRange) (s : ByteString) :
    s.toInteger range =
      match number? range s.content with
      | some n => .ok n
      | none => .error .invalidArgument := by
  unfold toInteger text? number?
  rcases Text.decode? s.content with _ | cs
  · rfl
  · rfl

theorem toInteger_eq_ok_iff : s.toInteger range = .ok n ↔ Denotes range s.content n := by
  rw [← number?_eq_some_iff, toInteger_eq]
  cases number? range s.content <;> simp

theorem toInteger_refused (h : ∀ n, ¬ Denotes range s.content n) : s.toInteger range = .error .invalidArgument := by
  rw [toInteger_eq]
  cases hnumber : number? range s.content with
  | none => rfl
  | some n => exact absurd (number?_eq_some_iff.mp hnumber) (h n)

/-! ## Ranges -/

/-- The same literals are read in any range that has a minus, or in any that has none. -/
theorem literal_congr (hsigns : inner.low < 0 ↔ outer.low < 0) : Literal inner n text ↔ Literal outer n text := by
  constructor
  · intro h
    cases h with
    | plain h => exact .plain h
    | plus h => exact .plus h
    | minus hlow h => exact .minus (hsigns.mp hlow) h
  · intro h
    cases h with
    | plain h => exact .plain h
    | plus h => exact .plus h
    | minus hlow h => exact .minus (hsigns.mpr hlow) h

/-- A range inside another one with the same signs reads what it has room for. -/
theorem toInteger_inner (hsigns : inner.low < 0 ↔ outer.low < 0) (hlow : outer.low ≤ inner.low)
    (hhigh : inner.high ≤ outer.high) :
    s.toInteger inner = .ok n ↔ s.toInteger outer = .ok n ∧ inner.low ≤ n ∧ n ≤ inner.high := by
  rw [toInteger_eq_ok_iff, toInteger_eq_ok_iff]
  constructor
  · rintro ⟨cs, text, hcontent, hstrips, hliteral, hrange⟩
    have houter : outer.low ≤ n ∧ n ≤ outer.high := by omega
    exact ⟨⟨cs, text, hcontent, hstrips, (literal_congr hsigns).mp hliteral, houter⟩, hrange⟩
  · rintro ⟨⟨cs, text, hcontent, hstrips, hliteral, -⟩, hrange⟩
    exact ⟨cs, text, hcontent, hstrips, (literal_congr hsigns).mpr hliteral, hrange⟩

/-- A character of the stripped text is one of the content. -/
theorem mem_content (hcontent : s.content = encode cs) (hstrips : Strips cs text) {c : Char} (hc : c ∈ text) :
    ∀ b ∈ String.utf8EncodeChar c, b ∈ s.content := by
  intro b hb
  obtain ⟨front, back, rfl, -⟩ := hstrips
  rw [hcontent, encode]
  exact List.mem_flatMap.mpr ⟨c, by simp [hc], hb⟩

/-- Without a minus in the content a number is not negative, and a sign more or less makes no difference. -/
theorem toInteger_unsigned (hminus : 0x2D ∉ s.content) :
    s.toInteger int64 = .ok n ↔ s.toInteger uint64 = .ok n ∧ n ≤ int64.high := by
  rw [toInteger_eq_ok_iff, toInteger_eq_ok_iff]
  constructor
  · rintro ⟨cs, text, hcontent, hstrips, hliteral, -, hhigh⟩
    have hplain : Literal uint64 n text ∧ 0 ≤ n := by
      cases hliteral with
      | plain h => exact ⟨.plain h, Int.natCast_nonneg _⟩
      | plus h => exact ⟨.plus h, Int.natCast_nonneg _⟩
      | minus hlow h => exact absurd (mem_content hcontent hstrips (.head _) 0x2D (by decide)) hminus
    refine ⟨⟨cs, text, hcontent, hstrips, hplain.1, hplain.2, ?_⟩, hhigh⟩
    exact hhigh.trans (by decide)
  · rintro ⟨⟨cs, text, hcontent, hstrips, hliteral, hnonneg, -⟩, hhigh⟩
    have hsigned : Literal int64 n text := by
      cases hliteral with
      | plain h => exact .plain h
      | plus h => exact .plus h
      | minus hlow h => exact absurd hlow (by decide)
    exact ⟨cs, text, hcontent, hstrips, hsigned, le_trans (by decide) hnonneg, hhigh⟩

/-- A content is read as the number it denotes in the range asked for, and refused if it denotes none. -/
theorem numbers_keep_to_grammar (s : ByteString) : Numeric s := by
  constructor
  case read =>
    intro range n
    exact toInteger_eq_ok_iff
  case refused =>
    intro range h
    exact toInteger_refused h
  case narrow =>
    intro n
    exact toInteger_inner (by decide) (by decide) (by decide)
  case unsigned =>
    intro hminus n
    exact toInteger_unsigned hminus

/-- Blanks of more than one byte at both ends, a plus and zeros in front; and a zero with a minus, which is
no unsigned number. -/
theorem numbers_keep_to_grammar_of_padded :
    let s := closed [0xC2, 0xA0, 0x2B, 0x30, 0x30, 0x37, 0xE3, 0x80, 0x80] []
    let t := closed [0x2D, 0x30] []
    0x2D ∉ s.content ∧ s.toInteger int64 = .ok 7 ∧ s.toInteger int32 = .ok 7 ∧ s.toInteger uint64 = .ok 7 ∧
      t.toInteger int64 = .ok 0 ∧ t.toInteger uint64 = .error .invalidArgument := by
  intro s t
  have hs := numbers_keep_to_grammar s
  have ht := numbers_keep_to_grammar t
  have hminus : 0x2D ∉ s.content := by decide
  have hseven : s.toInteger int64 = .ok 7 := by
    refine (hs.read int64 7).mpr ⟨['\u00A0', '+', '0', '0', '7', '\u3000'], ['+', '0', '0', '7'], by decide, ?_,
      .plus (Text.natural?_eq_some_iff.mp (by decide)), by decide, by decide⟩
    exact Text.strips_iff.mpr (by decide)
  have hzero : t.toInteger int64 = .ok 0 := by
    have hliteral : Literal int64 (-(0 : Nat)) ['-', '0'] :=
      .minus (by decide) (Text.natural?_eq_some_iff.mp (by decide))
    exact (ht.read int64 0).mpr ⟨['-', '0'], ['-', '0'], by decide, Text.strips_iff.mpr (by decide), hliteral,
      by decide, by decide⟩
  have hnone : number? uint64 t.content = none := by decide +kernel
  refine ⟨hminus, hseven, (hs.narrow 7).mpr ⟨hseven, by decide, by decide⟩, ((hs.unsigned hminus 7).mp hseven).1,
    hzero, ht.refused uint64 fun n hn => ?_⟩
  rw [← number?_eq_some_iff, hnone] at hn
  cases hn

end FixedCapacity.ByteString
