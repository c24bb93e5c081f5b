/-
  FixedCapacity.Proofs.ByteString.Write — reports of the calls that write text in pieces, as
  digits, or out of another string.

  `appending` is the one account of pieces written one after another: the content they come
  to, up to the first that does not fit, and the alert of that one.
-/

import FixedCapacity.Proofs.ByteString.Edit
import FixedCapacity.ByteString.Format
import FixedCapacity.ByteString.Search

namespace FixedCapacity.ByteString

open Call (wordLimit)

variable {s : ByteString}

/-! ## Pieces -/

/-- The content after texts are appended one after another, and what stopped it. -/
def appending (capacity : Nat) : List (List UInt8) → List UInt8 → List UInt8 × Option Trace.Alert
  | [], content => (content, none)
  | text :: rest, content =>
    if capacity - content.length < text.length then
      (content, some (.insertOverflow .string content.length text.length capacity))
    else appending capacity rest (content ++ text)

theorem length_appending_le {capacity : Nat} (texts : List (List UInt8)) {content : List UInt8}
    (h : content.length ≤ capacity) : (appending capacity texts content).1.length ≤ capacity := by
  induction texts generalizing content with
  | nil => exact h
  | cons text rest ih =>
    rw [appending]
    split
    · exact h
    · exact ih (by simp; omega)

theorem length_appending_nil_le (capacity : Nat) (texts : List (List UInt8)) :
    (appending capacity texts []).1.length ≤ capacity := length_appending_le texts (Nat.zero_le _)

theorem le_length_appending (capacity : Nat) (texts : List (List UInt8)) (content : List UInt8) :
    content.length ≤ (appending capacity texts content).1.length := by
  induction texts generalizing content with
  | nil => exact Nat.le_refl _
  | cons text rest ih =>
    rw [appending]
    split
    · exact Nat.le_refl _
    · have := ih (content ++ text)
      rw [List.length_append] at this
      omega

/-- Texts that fit together are all appended. -/
theorem appending_of_le {capacity : Nat} (texts : List (List UInt8)) {content : List UInt8}
    (h : content.length + texts.flatten.length ≤ capacity) :
    appending capacity texts content = (content ++ texts.flatten, none) := by
  induction texts generalizing content with
  | nil => simp [appending]
  | cons text rest ih =>
    rw [List.flatten_cons, List.length_append] at h
    rw [appending, if_neg (by omega), ih (by rw [List.length_append]; omega), List.flatten_cons, List.append_assoc]

/-- One of the texts stops the appending when they do not fit together. -/
theorem appending_of_lt {capacity : Nat} (texts : List (List UInt8)) {content : List UInt8}
    (hcontent : content.length ≤ capacity) (h : capacity < content.length + texts.flatten.length) :
    (appending capacity texts content).2.isNone = false := by
  induction texts generalizing content with
  | nil =>
    rw [List.flatten_nil, List.length_nil] at h
    omega
  | cons text rest ih =>
    rw [List.flatten_cons, List.length_append] at h
    rw [appending]
    split
    case isTrue => rfl
    case isFalse => exact ih (by rw [List.length_append]; omega) (by rw [List.length_append]; omega)

theorem length_append_le (hs : Sound s) {text : List UInt8} (h : ¬ s.capacity - s.len < text.length) :
    (s.content ++ text).length ≤ s.capacity := by
  have hlen := length_content hs
  have hroom := len_le_capacity hs
  rw [List.length_append]
  omega

theorem appendAll_eq (hs : Sound s) (texts : List (List UInt8)) :
    appendAll texts s =
      let (content, stopped) := appending s.capacity texts s.content
      ⟨if stopped.isNone then .value content.length else .error .noMemory, s.holding content,
        stopped.toList.map .alert, []⟩ := by
  induction texts generalizing s with
  | nil => simp [appendAll, appending, holding_content hs, length_content hs]
  | cons text rest ih =>
    rw [appendAll, Call.bind_apply, append_eq hs, appending, length_content hs]
    by_cases hfits : s.capacity - s.len < text.length
    · simp [hfits, holding_content hs]
    · have hlonger := length_append_le hs hfits
      have hrest := ih (sound_holding hs hlonger)
      rw [capacity_holding hs hlonger, content_holding] at hrest
      rw [if_neg hfits, if_neg hfits, Report.andThen_value, hrest, Report.after_nil]
      simp only [holding_holding (le_length_appending s.capacity rest (s.content ++ text))]

theorem write_cons (piece : List Char) (rest : List (List Char)) :
    write (piece :: rest) =
      Call.attempt (append (Text.encode piece)) >>= fun taken => if taken.isSome then write rest else pure false := by
  rw [write, Text.Printing.ofPieces, print]
  congr 1
  funext taken
  cases taken <;> rfl

theorem write_eq (hs : Sound s) (pieces : List (List Char)) :
    write pieces s =
      let (content, stopped) := appending s.capacity (pieces.map Text.encode) s.content
      ⟨.value stopped.isNone, s.holding content, stopped.toList.map .alert, []⟩ := by
  induction pieces generalizing s with
  | nil => simp [write, Text.Printing.ofPieces, print, appending, holding_content hs]
  | cons piece rest ih =>
    rw [write_cons, Call.bind_apply, Call.attempt_apply, append_eq hs, List.map_cons, appending, length_content hs]
    by_cases hfits : s.capacity - s.len < (Text.encode piece).length
    · simp [hfits, holding_content hs]
    · have hlonger := length_append_le hs hfits
      have hrest := ih (sound_holding hs hlonger)
      rw [capacity_holding hs hlonger, content_holding] at hrest
      simp only [if_neg hfits, Report.attempted_value, Report.andThen_value, Option.isSome_some, if_true, hrest,
        Report.after_nil,
        holding_holding (le_length_appending s.capacity (rest.map Text.encode) (s.content ++ Text.encode piece))]

/-- A text that does not fit is taken back; what was written of it lies behind the NUL. -/
theorem format_eq (hs : Sound s) (pieces : List (List Char)) :
    format pieces s =
      let (content, stopped) := appending s.capacity (pieces.map Text.encode) []
      if stopped.isNone then ⟨.value (), s.holding content, [], []⟩
      else ⟨.error .noMemory, (s.holding content).holding [], stopped.toList.map .alert, []⟩ := by
  have hwritten := write_eq (sound_holding_nil hs) pieces
  have hcontent := length_appending_nil_le s.capacity (pieces.map Text.encode)
  rw [capacity_holding_nil hs, content_holding] at hwritten
  simp only [holding_holding (le_length_appending s.capacity (pieces.map Text.encode) [])] at hwritten
  rw [write] at hwritten
  simp only [format, formatValue, Call.bind_apply, clear_eq hs, Report.andThen_value, hwritten, Report.after_nil]
  cases h : (appending s.capacity (pieces.map Text.encode) []).2 with
  | none => simp
  | some stopped => simp [clear_eq (sound_holding hs hcontent)]

theorem convert_eq (hs : Sound s) (pieces : List (List Char)) :
    convert pieces s =
      let (content, stopped) := appending s.capacity (pieces.map Text.encode) []
      if stopped.isNone then ⟨.value (), s.holding content, [], []⟩
      else
        ⟨.violation (.conversionTooLong s.capacity), (s.holding content).holding [],
          stopped.toList.map .alert, []⟩ := by
  have hcontent := length_appending_nil_le s.capacity (pieces.map Text.encode)
  have hcapacity : ((s.holding (appending s.capacity (pieces.map Text.encode) []).1).holding []).capacity =
      s.capacity := by
    rw [capacity_holding_nil (sound_holding hs hcontent), capacity_holding hs hcontent]
  have hformat := format_eq hs pieces
  rw [format] at hformat
  simp only [convert, convertValue, Call.bind_apply, Call.attempt_apply, hformat]
  cases h : (appending s.capacity (pieces.map Text.encode) []).2 with
  | none => simp
  | some stopped => simp [hcapacity]

theorem flatten_encode (pieces : List (List Char)) :
    (pieces.map Text.encode).flatten = Text.encode pieces.flatten := by
  induction pieces with
  | nil => rfl
  | cons piece rest ih =>
    rw [List.map_cons, List.flatten_cons, ih, List.flatten_cons, Text.encode, Text.encode, Text.encode,
      List.flatMap_append]

/-- A text that does not fit is stopped at one of its pieces. -/
theorem appending_pieces_of_lt {capacity : Nat} {pieces : List (List Char)}
    (h : capacity < (Text.encode pieces.flatten).length) :
    (appending capacity (pieces.map Text.encode) []).2.isNone = false :=
  appending_of_lt _ (Nat.zero_le capacity) (by simpa [flatten_encode] using h)

/-- A text that fits is written whole, however it is cut into pieces. -/
theorem format_of_le (hs : Sound s) {pieces : List (List Char)}
    (h : (Text.encode pieces.flatten).length ≤ s.capacity) :
    format pieces s = ⟨.value (), s.holding (Text.encode pieces.flatten), [], []⟩ := by
  rw [format_eq hs, appending_of_le _ (by simpa [flatten_encode] using h), flatten_encode]
  rfl

/-- A text that does not fit leaves the string empty. -/
theorem format_of_lt (hs : Sound s) {pieces : List (List Char)}
    (h : s.capacity < (Text.encode pieces.flatten).length) :
    (format pieces s).outcome = .error .noMemory ∧ (format pieces s).state.content = [] := by
  rw [format_eq hs]
  simp [appending_pieces_of_lt h]

theorem convert_of_le (hs : Sound s) {pieces : List (List Char)}
    (h : (Text.encode pieces.flatten).length ≤ s.capacity) :
    convert pieces s = ⟨.value (), s.holding (Text.encode pieces.flatten), [], []⟩ := by
  have hformat := format_of_le hs h
  rw [format] at hformat
  rw [convert, convertValue, Call.bind_apply, Call.attempt_apply, hformat]
  rfl

theorem convert_of_lt (hs : Sound s) {pieces : List (List Char)}
    (h : s.capacity < (Text.encode pieces.flatten).length) :
    (convert pieces s).outcome = .violation (.conversionTooLong s.capacity) ∧
      (convert pieces s).state.content = [] := by
  rw [convert_eq hs]
  simp [appending_pieces_of_lt h]

/-! ## Digits -/

theorem storeHex_eq (hs : Sound s) (index : Nat) (source digits : List UInt8)
    (hdigits : digits.length = index * 2) (h : index * 2 + source.length * 2 ≤ s.capacity) :
    storeHex index source (s.written digits) =
      ⟨.value (), s.written (digits ++ Text.Hex.encode source), [], []⟩ := by
  have hroom := hs.fits
  have hword := hs.addressable
  simp only [capacity] at h
  induction source generalizing index digits with
  | nil => simp [storeHex, Text.Hex.encode]
  | cons b source ih =>
    rw [List.length_cons] at h
    have hhigh := store_behind (s := s) [Text.Hex.digit (b >>> 4)] hdigits (by simp; omega)
    have hnext : (digits ++ [Text.Hex.digit (b >>> 4)]).length = index * 2 + 1 := by simp [hdigits]
    have hlow := store_behind (s := s) [Text.Hex.digit (b &&& 0x0F)] hnext (by simp; omega)
    rw [List.append_assoc, List.singleton_append] at hlow
    have hrest := ih (index + 1) (digits ++ Text.Hex.ofByte b) (by simp [hdigits, Text.Hex.ofByte]; omega)
      (by omega)
    rw [Text.Hex.ofByte] at hrest
    simp only [storeHex, Call.bind_apply, Call.add_of_lt (show index * 2 + 1 < wordLimit by omega),
      Call.done_apply, Report.andThen_value, Report.after_nil, hhigh, hlow, hrest]
    simp [Text.Hex.encode, Text.Hex.ofByte]

theorem encodeHex_eq (hs : Sound s) (source : List UInt8) :
    encodeHex source s =
      if s.capacity / 2 < source.length then ⟨.error .noMemory, s, [], []⟩
      else ⟨.value (), s.holding (Text.Hex.encode source), [], []⟩ := by
  have hroom := hs.fits
  simp only [encodeHex, Call.bind_apply, Call.get_apply, Report.andThen_value, Report.after_nil,
    Call.ite_apply, Call.refuse_apply, gt_iff_lt]
  by_cases hfits : s.capacity / 2 < source.length
  · rw [if_pos hfits, if_pos hfits]
  rw [if_neg hfits, if_neg hfits]
  have hcapacity : source.length * 2 ≤ s.capacity := by omega
  have hstored := storeHex_eq hs 0 source [] rfl (by omega)
  rw [written_nil, List.nil_append] at hstored
  have hlen : (Text.Hex.encode source).length = source.length * 2 := by
    simp [Text.Hex.encode, Text.Hex.ofByte, List.length_flatMap]
  simp only [capacity] at hcapacity
  rw [hstored, Report.andThen_value, setLen_written (s := s) hlen (by omega)]
  rfl

/-! ## Captures -/

/-- The range of the content of `source` that a group of the first match took. -/
def captured (find : List UInt8 → Option Captures) (source : ByteString) (group : Nat) :
    Option (List UInt8) :=
  ((find source.content).bind fun captures => (captures[group]?).join).map fun (start, stop) =>
    (source.content.drop start).take (stop - start)

theorem searchWith_eq (hs : Sound s) (engine : Engine) (source : ByteString) (pattern : String)
    (group : Nat) :
    searchWith engine source pattern group s =
      match engine pattern with
      | none => ⟨.error .invalidArgument, s, [.alert (.invalidPattern pattern)], []⟩
      | some find =>
        match captured find source group with
        | none => ⟨.error .notFound, s, [], []⟩
        | some text =>
          if s.capacity < text.length then
            ⟨.error .noMemory, s.holding [],
              [.alert (.insertOverflow .string 0 text.length s.capacity)], []⟩
          else ⟨.value (), s.holding text, [], []⟩ := by
  cases hengine : engine pattern with
  | none => simp [searchWith, hengine]
  | some find =>
    simp only [searchWith, hengine, captured]
    cases hmatch : (find source.content).bind fun captures => (captures[group]?).join with
    | none => simp
    | some range =>
      obtain ⟨start, stop⟩ := range
      have hlonger : ([] : List UInt8).length ≤ ((source.content.drop start).take (stop - start)).length :=
        Nat.zero_le _
      simp only [Call.bind_apply, clear_eq hs, Report.andThen_value, Report.after_nil,
        append_eq (sound_holding_nil hs), capacity_holding_nil hs, len_holding, content_holding,
        List.length_nil, Nat.sub_zero, List.nil_append, holding_holding hlonger, Option.map_some]

end FixedCapacity.ByteString
