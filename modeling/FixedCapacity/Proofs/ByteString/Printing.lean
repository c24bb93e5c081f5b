/-
  FixedCapacity.Proofs.ByteString.Printing — values that write themselves into a string.

  No value can do a string any harm (`print_returns`). What formatting leaves of an honest value is
  decided by the pieces it gives while they are taken (`formatValue_honest`): whatever it still writes
  after one that is turned down is taken back with the rest. By induction on the value, its answer is
  `true` exactly when all of those fit (`print_honest`). An honest value that stops at once is nothing
  but its pieces (`honest_prompt_iff`).
-/

import FixedCapacity.Proofs.ByteString.Hidden

namespace FixedCapacity

namespace Text.Printing

theorem honest_ofPieces (pieces : List (List Char)) : (ofPieces pieces).Honest := by
  induction pieces with
  | nil => rfl
  | cons piece rest ih =>
    rintro (_ | _)
    · rfl
    · exact ih

theorem prompt_ofPieces (pieces : List (List Char)) : (ofPieces pieces).Prompt := by
  induction pieces with
  | nil => trivial
  | cons piece rest ih => exact ⟨⟨false, rfl⟩, ih⟩

/-- The honest values that stop at once are those told by their pieces. -/
theorem honest_prompt_iff {value : Printing} : value.Honest ∧ value.Prompt ↔ value = ofPieces value.pieces := by
  constructor
  · rintro ⟨hhonest, hprompt⟩
    induction value with
    | done well => exact congrArg Printing.done hhonest
    | give piece next ih =>
      obtain ⟨⟨well, hstopped⟩, hprompt⟩ := hprompt
      have hfalse : next false = .done false := by
        have hturned := hhonest false
        rw [hstopped] at hturned ⊢
        exact congrArg Printing.done hturned
      refine congrArg (Printing.give piece) (funext fun taken => ?_)
      cases taken with
      | false => exact hfalse
      | true => exact ih true (hhonest true) hprompt
  · intro h
    rw [h]
    exact ⟨honest_ofPieces _, prompt_ofPieces _⟩

end Text.Printing

namespace ByteString

open Text (Printing)

variable {s : ByteString} {value : Printing}

/-- Whatever a value does with the writer, the string stays sound, and the value has the last word. -/
theorem print_returns (value : Printing) (hs : Sound s) :
    Sound (print value s).state ∧ (print value s).state.capacity = s.capacity ∧
      ∃ well, (print value s).outcome = .value well := by
  induction value generalizing s with
  | done well => exact ⟨hs, rfl, well, rfl⟩
  | give piece next ih =>
    rw [print, Call.bind_apply, Call.attempt_apply, append_eq hs]
    by_cases hfits : s.capacity - s.len < (Text.encode piece).length
    · rw [if_pos hfits]
      exact ih false hs
    · have hlonger := length_append_le hs hfits
      obtain ⟨hsound, hcapacity, hwell⟩ := ih true (sound_holding hs hlonger)
      rw [capacity_holding hs hlonger] at hcapacity
      rw [if_neg hfits]
      exact ⟨hsound, hcapacity, hwell⟩

/-- Formatting a value goes by its answer: what it wrote stays, or is taken back. -/
theorem formatValue_of_print (hs : Sound s) {well : Bool} (h : (print value (s.holding [])).outcome = .value well) :
    let left := (print value (s.holding [])).state
    (formatValue value s).outcome = (if well then .value () else .error .noMemory) ∧
      (formatValue value s).state = if well then left else left.holding [] := by
  obtain ⟨hsound, -⟩ := print_returns value (sound_holding_nil hs)
  simp only [formatValue, Call.bind_apply, clear_eq hs, Report.andThen_value, Report.after_nil]
  rcases hprint : print value (s.holding []) with ⟨outcome, left, trace, ledger⟩
  rw [hprint] at hsound h
  obtain rfl : outcome = .value well := h
  cases well with
  | true => simp
  | false => simp [clear_eq hsound]

theorem formatValue_returns (value : Printing) (hs : Sound s) :
    (formatValue value s).outcome = .value () ∨ (formatValue value s).outcome = .error .noMemory := by
  obtain ⟨-, -, well, hwell⟩ := print_returns value (sound_holding_nil hs)
  rw [(formatValue_of_print hs hwell).1]
  cases well with
  | true => exact .inl rfl
  | false => exact .inr rfl

/-- A value that is honest after what it gave before answers `true` if that and all its pieces were taken, and
then they are there. -/
theorem print_honest (hs : Sound s) {before : Bool} (h : value.HonestAfter before) :
    let written := appending s.capacity (value.pieces.map Text.encode) s.content
    (print value s).outcome = .value (before && written.2.isNone) ∧
      (written.2.isNone = true → (print value s).state.content = written.1) := by
  induction value generalizing s before with
  | done well =>
    obtain rfl : well = before := h
    exact ⟨by simp [print, Printing.pieces, appending], fun _ => rfl⟩
  | give piece next ih =>
    rw [Printing.pieces, List.map_cons, appending, length_content hs, print, Call.bind_apply, Call.attempt_apply,
      append_eq hs]
    by_cases hfits : s.capacity - s.len < (Text.encode piece).length
    · -- What the value gives after this piece plays no part in its answer.
      obtain ⟨houtcome, -⟩ := ih false hs (h false)
      simp only [if_pos hfits, Report.attempted_error, Report.andThen_value, Report.state_after, Report.outcome_after]
      refine ⟨?_, by simp⟩
      simpa using houtcome
    · have hlonger := length_append_le hs hfits
      have hrest := ih true (sound_holding hs hlonger) (h true)
      rw [capacity_holding hs hlonger, content_holding, Bool.and_true] at hrest
      simpa only [if_neg hfits, Report.attempted_value, Report.andThen_value, Report.after_nil,
        Option.isSome_some] using hrest

/-- Formatting an honest value comes to formatting its pieces. -/
theorem formatValue_honest (hs : Sound s) (h : value.Honest) :
    (formatValue value s).outcome = (format value.pieces s).outcome ∧
      Twins (formatValue value s).state (format value.pieces s).state := by
  have hfits := length_appending_nil_le s.capacity (value.pieces.map Text.encode)
  obtain ⟨hsound, hcapacity, -⟩ := print_returns value (sound_holding_nil hs)
  obtain ⟨hwell, hcontent⟩ := print_honest (sound_holding_nil hs) h
  obtain ⟨houtcome, hstate⟩ := formatValue_of_print hs hwell
  rw [capacity_holding_nil hs, content_holding] at houtcome hstate hcontent
  rw [capacity_holding_nil hs] at hcapacity
  rw [houtcome, hstate, format_eq hs]
  rcases happended : appending s.capacity (value.pieces.map Text.encode) [] with ⟨content, stopped⟩
  rw [happended] at hfits hcontent
  cases stopped with
  | none => exact ⟨rfl, hcapacity.trans (capacity_holding hs hfits).symm, (hcontent rfl).trans content_holding.symm⟩
  | some event =>
    refine ⟨rfl, ?_, content_holding.trans content_holding.symm⟩
    calc ((print value (s.holding [])).state.holding []).capacity
      _ = s.capacity := (capacity_holding_nil hsound).trans hcapacity
      _ = (s.holding content).capacity := (capacity_holding hs hfits).symm
      _ = ((s.holding content).holding []).capacity :=
        (capacity_holding_nil (sound_holding hs hfits)).symm

/-- So does the conversion that a caller vouches for. -/
theorem convertValue_honest (hs : Sound s) (h : value.Honest) :
    (convertValue value s).outcome = (convert value.pieces s).outcome ∧
      Twins (convertValue value s).state (convert value.pieces s).state := by
  obtain ⟨houtcome, htwins⟩ := formatValue_honest hs h
  rw [convert, convertValue, convertValue, ← format]
  simp only [Call.bind_apply, Call.attempt_apply]
  rcases hvalue : formatValue value s with ⟨outcome, left, trace, ledger⟩
  rcases hpieces : format value.pieces s with ⟨outcome', left', trace', ledger'⟩
  rw [hvalue, hpieces] at houtcome htwins
  obtain rfl : outcome = outcome' := houtcome
  have hcapacity : left.capacity = left'.capacity := htwins.capacity
  cases outcome with
  | value _ => exact ⟨rfl, htwins⟩
  | error kind => exact ⟨by simp [hcapacity], htwins⟩
  | violation v => exact ⟨rfl, htwins⟩

/-- A value that hides from its caller that a piece was turned down is not honest: the text is cut short
without a word. -/
example : (formatValue (.give ['a'] fun _ => .give ['b', 'c'] fun _ => .done true) (empty 2)).outcome = .value () := by
  rfl

end ByteString

end FixedCapacity
