/-
  FixedCapacity.Proofs.ByteString.Number — numbers in a string.

  `Wrote` is what writing a text leaves: the text where it has room, and an empty string
  with a refusal elsewhere. `format_wrote` and `convert_wrote` say that of the numeral of a
  number; they differ in the refusal. `toInteger_numeral` reads a numeral as its number
  where the range has it. With one numeral for each number and one number for each canonical
  text, writing and reading undo each other (`decimals_round_trip`), over whatever the
  string held before.
-/

import FixedCapacity.Proofs.ByteString.Write
import FixedCapacity.Proofs.Text.Decimal
import FixedCapacity.Proofs.Text.Utf8
import FixedCapacity.ByteString.Number

namespace FixedCapacity.ByteString

open Text (Numeral Canonical IntRange signed)

/-- A text was written into a string of some capacity, or refused and the string emptied. -/
structure Wrote (cs : List Char) (capacity : Nat) (refusal : Outcome Unit)
    (report : Report ByteString UInt8 Unit) : Prop where
  outcome : report.outcome = if cs.length ≤ capacity then .value () else refusal
  content : report.state.content = if cs.length ≤ capacity then Text.encode cs else []

variable {s : ByteString} {n : Int} {cs : List Char} {capacity : Nat} {refusal : Outcome Unit}
  {report : Report ByteString UInt8 Unit}

namespace Wrote

/-- The numeral is what the pieces of a number come to, and a byte for each character. -/
theorem of_numeral (h : Numeral n cs)
    (hfits : (Text.encode (signed n).flatten).length ≤ capacity →
      report = ⟨.value (), s.holding (Text.encode (signed n).flatten), [], []⟩)
    (hrefused : capacity < (Text.encode (signed n).flatten).length →
      report.outcome = refusal ∧ report.state.content = []) : Wrote cs capacity refusal report := by
  rw [Numeral.iff.mp h, h.length_encode] at hfits hrefused
  by_cases hroom : cs.length ≤ capacity
  · rw [hfits hroom]
    exact ⟨by rw [if_pos hroom], by rw [if_pos hroom, content_holding]⟩
  · obtain ⟨houtcome, hcontent⟩ := hrefused (by omega)
    exact ⟨by rw [if_neg hroom, houtcome], by rw [if_neg hroom, hcontent]⟩

theorem of_room (h : Wrote cs capacity refusal report) (hroom : cs.length ≤ capacity) :
    report.outcome = .value () ∧ report.state.content = Text.encode cs :=
  ⟨by rw [h.outcome, if_pos hroom], by rw [h.content, if_pos hroom]⟩

theorem content_of_value (h : Wrote cs capacity refusal report) (hrefusal : refusal ≠ .value ())
    (hvalue : report.outcome = .value ()) : report.state.content = Text.encode cs := by
  by_cases hroom : cs.length ≤ capacity
  · exact (h.of_room hroom).2
  · have houtcome := h.outcome
    rw [if_neg hroom, hvalue] at houtcome
    exact absurd houtcome.symm hrefusal

end Wrote

theorem format_wrote (hs : Sound s) (h : Numeral n cs) :
    Wrote cs s.capacity (.error .noMemory) (format (signed n) s) :=
  .of_numeral h (format_of_le hs) (format_of_lt hs)

theorem convert_wrote (hs : Sound s) (h : Numeral n cs) :
    Wrote cs s.capacity (.violation (.conversionTooLong s.capacity)) (convert (signed n) s) :=
  .of_numeral h (convert_of_le hs) (convert_of_lt hs)

theorem wrote_of_mem (hs : Sound s) (h : Numeral n cs) :
    ∀ write ∈ [format, convert],
      ∃ refusal, refusal ≠ .value () ∧ Wrote cs s.capacity refusal (write (signed n) s) := by
  intro write hwrite
  simp only [List.mem_cons, List.not_mem_nil, or_false] at hwrite
  rcases hwrite with rfl | rfl
  · exact ⟨.error .noMemory, nofun, format_wrote hs h⟩
  · exact ⟨.violation (.conversionTooLong s.capacity), nofun, convert_wrote hs h⟩

theorem toInteger_numeral (range : IntRange) (h : Numeral n cs) (hcontent : s.content = Text.encode cs) :
    s.toInteger range = if range.low ≤ n ∧ n ≤ range.high then .ok n else .error .invalidArgument := by
  have htext : s.text? = .ok cs := by rw [text?, hcontent, Text.decode?_encode]
  have htrim : Text.trim cs = cs := Text.trim_eq_self fun c hc => h.not_blank hc
  rw [toInteger, htext]
  simp only [bind, Except.bind, htrim, Text.parse?_numeral range h]
  by_cases hrange : range.low ≤ n ∧ n ≤ range.high
  · rw [if_pos hrange, if_pos hrange]
  · rw [if_neg hrange, if_neg hrange]

/-- Writing numbers in decimal and reading them undo each other, in any range. -/
structure DecimalRoundTrip : Prop where
  numeral : ∀ n : Int, ∃! cs, Numeral n cs
  canonical : ∀ cs, Canonical cs ↔ ∃ n, Numeral n cs
  written : ∀ {s : ByteString} {n : Int} {cs : List Char}, Sound s → Numeral n cs →
    Wrote cs s.capacity (.error .noMemory) (format (signed n) s) ∧
      Wrote cs s.capacity (.violation (.conversionTooLong s.capacity)) (convert (signed n) s)
  /-- A number that was written is read as it was. -/
  read_back : ∀ {s : ByteString} {range : IntRange} {n : Int}, Sound s → range.low ≤ n → n ≤ range.high →
    ∀ write ∈ [format, convert], (write (signed n) s).outcome = .value () →
      (write (signed n) s).state.toInteger range = .ok n
  /-- A canonical text is read where the range has its number, and that number written into any
  string with room for it is the text again. -/
  written_back : ∀ {s : ByteString} {cs : List Char}, s.content = Text.encode cs → Canonical cs →
    ∃ n, Numeral n cs ∧
      (∀ range : IntRange,
        s.toInteger range = if range.low ≤ n ∧ n ≤ range.high then .ok n else .error .invalidArgument) ∧
      ∀ {t : ByteString}, Sound t → s.content.length ≤ t.capacity → ∀ write ∈ [format, convert],
        (write (signed n) t).outcome = .value () ∧ (write (signed n) t).state.content = s.content

theorem decimals_round_trip : DecimalRoundTrip := by
  constructor
  case numeral =>
    intro n
    exact ⟨(signed n).flatten, Numeral.iff.mpr rfl, fun cs h => (Numeral.iff.mp h).symm⟩
  case canonical => exact fun cs => Text.canonical_iff
  case written => exact fun hs hn => ⟨format_wrote hs hn, convert_wrote hs hn⟩
  case read_back =>
    intro s range n hs hlow hhigh write hwrite hvalue
    have hn : Numeral n (signed n).flatten := Numeral.iff.mpr rfl
    obtain ⟨refusal, hrefusal, hwrote⟩ := wrote_of_mem hs hn write hwrite
    rw [toInteger_numeral range hn (hwrote.content_of_value hrefusal hvalue), if_pos ⟨hlow, hhigh⟩]
  case written_back =>
    intro s cs hcontent hcs
    obtain ⟨n, hn⟩ := Text.canonical_iff.mp hcs
    refine ⟨n, hn, fun range => toInteger_numeral range hn hcontent, fun {t} ht hroom write hwrite => ?_⟩
    rw [hcontent, hn.length_encode] at hroom
    rw [hcontent]
    obtain ⟨refusal, -, hwrote⟩ := wrote_of_mem ht hn write hwrite
    exact hwrote.of_room hroom

/-- The least number of eight bytes fills a string of twenty bytes and is one too long for one of
nineteen. -/
theorem decimals_round_trip_of_least :
    let n := int64.low
    let text := "-9223372036854775808".toList
    let s := closed [0x2B, 0x31] (List.replicate 18 0x39)
    let t := closed [0x2B, 0x31] (List.replicate 17 0x39)
    Sound s ∧ Sound t ∧ Numeral n text ∧
      (format (signed n) s).outcome = .value () ∧ (format (signed n) s).state.content = Text.encode text ∧
      (format (signed n) s).state.toInteger int64 = .ok n ∧
      (format (signed n) t).outcome = .error .noMemory ∧
      (convert (signed n) t).outcome = .violation (.conversionTooLong 19) ∧
      (convert (signed n) t).state.content = [] := by
  intro n text s t
  have hs : Sound s := sound_closed _ _ (by decide)
  have ht : Sound t := sound_closed _ _ (by decide)
  have hn : Numeral n text := Numeral.iff.mpr (by decide +kernel)
  obtain ⟨hvalue, hcontent⟩ := (decimals_round_trip.written hs hn).1.of_room (by decide)
  have hread : (format (signed n) s).state.toInteger int64 = .ok n :=
    decimals_round_trip.read_back hs (Int.le_refl n) (by decide) format (by simp) hvalue
  obtain ⟨hrefused, hviolated⟩ := decimals_round_trip.written ht hn
  exact ⟨hs, ht, hn, hvalue, hcontent, hread, hrefused.outcome, hviolated.outcome, hviolated.content⟩

end FixedCapacity.ByteString
