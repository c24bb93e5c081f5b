/-
  FixedCapacity.Proofs.ByteString.Display — a string read as text and shown as text.

  A content is read as text only if it is the UTF-8 of one, and shown whatever it is: `Legible` says
  what the two make of the one way in which the content can be cut (`Text.Cut`). Where no chunk of the
  cut is invalid, both give the same text; elsewhere the reading is refused, and what is shown has one
  replacement for each invalid chunk (`display_agrees_with_text`).
-/

import FixedCapacity.Proofs.ByteString.Closed
import FixedCapacity.Proofs.Text.Segments

namespace FixedCapacity.ByteString

open Text (Cut Segment encode)

variable {s : ByteString} {cs : List Char} {cut : List Segment}

/-- What a string is read as and shown as. -/
structure Legible (s : ByteString) : Prop where
  read : ∀ cs, s.text? = .ok cs ↔ s.content = encode cs
  refused : (∀ cs, s.content ≠ encode cs) → s.text? = .error .invalidArgument
  /-- What can be read is shown as it is read. -/
  alike : ∀ cs, s.text? = .ok cs → s.display = String.ofList cs
  /-- Every byte is in a form or in an invalid chunk, and there is no doubt in which. -/
  cut : ∃! cut, Cut s.content cut
  valid : ∀ cut, Cut s.content cut → ((∃ cs, s.text? = .ok cs) ↔ ∀ chunk, .invalid chunk ∉ cut)
  shown : ∀ cut, Cut s.content cut → s.display = String.ofList (cut.map Segment.shown)
  quoted : s.debug = "\"" ++ s.display ++ "\""
  /-- A writer that is handed the text gets it in pieces. -/
  written : String.ofList s.pieces.flatten = s.display

theorem text?_eq_ok_iff : s.text? = .ok cs ↔ s.content = encode cs := by
  rw [← Text.decode?_eq_some_iff, text?]
  cases Text.decode? s.content <;> simp

theorem text?_refused (h : ∀ cs, s.content ≠ encode cs) : s.text? = .error .invalidArgument := by
  rw [text?]
  cases hdecode : Text.decode? s.content with
  | none => rfl
  | some cs => exact absurd (Text.decode?_eq_some_iff.mp hdecode) (h cs)

/-- The cut of a text has its characters and nothing else. -/
theorem cut_of_text (h : Cut s.content cut) : s.text? = .ok cs ↔ cut = cs.map .char := by
  rw [text?_eq_ok_iff]
  constructor
  · intro hcontent
    rw [hcontent] at h
    rw [h.unique (Text.cut_segments _), Text.segments_encode]
  · rintro rfl
    exact h.eq_encode

theorem display_of_cut (h : Cut s.content cut) : s.display = String.ofList (cut.map Segment.shown) := by
  rw [display, Text.lossy_eq h]

/-- Every content is shown, cut in the one way in which it can be cut, and it is read as text just where
nothing of it is invalid; then both are the same text. -/
theorem display_agrees_with_text (s : ByteString) : Legible s := by
  have hcut := Text.cut_segments s.content
  constructor
  case read =>
    intro cs
    exact text?_eq_ok_iff
  case refused => exact text?_refused
  case alike =>
    intro cs htext
    rw [display_of_cut hcut, (cut_of_text hcut).mp htext, List.map_map]
    exact congrArg String.ofList (List.map_id cs)
  case cut =>
    refine ⟨_, hcut, ?_⟩
    intro cut h
    exact h.unique hcut
  case valid =>
    intro cut h
    constructor
    · rintro ⟨cs, htext⟩ chunk hchunk
      rw [(cut_of_text h).mp htext] at hchunk
      simp at hchunk
    · intro hvalid
      obtain ⟨cs, rfl⟩ := Text.exists_chars hvalid
      exact ⟨cs, (cut_of_text h).mpr rfl⟩
  case shown =>
    intro cut h
    exact display_of_cut h
  case quoted =>
    apply String.toList_injective
    simp [debug, display]
  case written => rw [pieces, Text.flatten_runs, display]

/-- A form that breaks off in front of another one, and the three bytes of a surrogate, none of which begins
or goes on with a form: four replacements, one of them for two bytes. -/
theorem display_agrees_with_text_of_broken :
    let s := closed [0x61, 0xE2, 0x82, 0xED, 0xA0, 0x80, 0xC3, 0xA9] []
    let cut : List Segment :=
      [.char 'a', .invalid [0xE2, 0x82], .invalid [0xED], .invalid [0xA0], .invalid [0x80], .char 'é']
    Cut s.content cut ∧ s.text? = .error .invalidArgument ∧ s.display = "a\uFFFD\uFFFD\uFFFD\uFFFDé" := by
  intro s cut
  have hcut : Cut s.content cut := by
    have hsegments := Text.cut_segments s.content
    rwa [show Text.segments s.content = cut by decide +kernel] at hsegments
  have h := display_agrees_with_text s
  refine ⟨hcut, h.refused fun cs hcontent => ?_, h.shown cut hcut⟩
  exact (h.valid cut hcut).mp ⟨cs, (h.read cs).mpr hcontent⟩ [0xED] (by decide)

end FixedCapacity.ByteString
