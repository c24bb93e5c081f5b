/-
  FixedCapacity.Proofs.ByteString.Fragments — text that arrives in fragments.

  A writer is handed a text bit by bit and stops at the first fragment that has no room. `fitting` are
  the numbers of fragments that all fit one behind another; what was written is as many of them as there
  are at most (`appending_takes`), and that is what a chain of appends leaves. Formatting takes the
  fragments back unless all of them fit, so how a text is cut plays no part in it
  (`formatting_ignores_fragments`).

  The text of an error is its message and, if a place is known, the place (`Error.Rendered`), whatever
  texts the platform has for numbers.
-/

import FixedCapacity.Error.Text
import FixedCapacity.Proofs.ByteString.Write
import FixedCapacity.Proofs.Text.Decimal

namespace FixedCapacity

open Text (encode Numeral)

/-! ## The text of an error -/

namespace Error

/-- The text of an error: its message, and ` (file:line)` if it has a place. -/
inductive Rendered (describe : Descriptions) (e : Error) : List Char → Prop
  | bare (h : e.location = none) : Rendered describe e (e.message describe).toList
  | placed {place : Location} {line : List Char} (h : e.location = some place) (hline : Numeral place.line line) :
      Rendered describe e
        ((e.message describe).toList ++ (" (".toList ++ place.file.toList ++ ':' :: line ++ [')']))

theorem numeral_digits (n : Nat) : Numeral n (Text.digits n) := by
  refine Numeral.iff.mpr ?_
  simp [Text.signed, Text.sign]

theorem rendered_iff {describe : Descriptions} {e : Error} {text : List Char} :
    Rendered describe e text ↔ (e.pieces describe).flatten = text := by
  constructor
  · intro h
    cases h with
    | bare h => simp [pieces, h]
    | @placed place line h hline =>
      have hdigits : Text.digits place.line = line := by
        rw [← Numeral.iff.mp hline, Numeral.iff.mp (numeral_digits place.line)]
      simp [pieces, h, Location.pieces, hdigits]
  · rintro rfl
    cases h : e.location with
    | none =>
      have hbare : Rendered describe e _ := .bare h
      simpa [pieces, h] using hbare
    | some place =>
      have hplaced : Rendered describe e _ := .placed h (numeral_digits place.line)
      simpa [pieces, h, Location.pieces] using hplaced

end Error

namespace ByteString

variable {s : ByteString} {capacity filled j : Nat} {text : List UInt8} {texts : List (List UInt8)}
  {fragments fragments' : List (List Char)}

/-! ## Fragments that fit -/

/-- The numbers of texts that fit behind `filled` bytes, one after another. -/
def fitting (capacity filled : Nat) (texts : List (List UInt8)) : Set Nat :=
  {j | j ≤ texts.length ∧ ∀ i ≤ j, filled + (texts.take i).flatten.length ≤ capacity}

theorem zero_mem_fitting (h : filled ≤ capacity) : 0 ∈ fitting capacity filled texts := by
  refine ⟨Nat.zero_le _, fun i hi => ?_⟩
  obtain rfl := Nat.le_zero.mp hi
  simpa using h

theorem succ_mem_fitting (h : filled ≤ capacity) :
    j + 1 ∈ fitting capacity filled (text :: texts) ↔ j ∈ fitting capacity (filled + text.length) texts := by
  constructor
  · rintro ⟨hj, hfits⟩
    refine ⟨Nat.le_of_succ_le_succ hj, fun i hi => ?_⟩
    have hi' := hfits (i + 1) (Nat.succ_le_succ hi)
    rw [List.take_succ_cons, List.flatten_cons, List.length_append] at hi'
    omega
  · rintro ⟨hj, hfits⟩
    refine ⟨Nat.succ_le_succ hj, fun i hi => ?_⟩
    cases i with
    | zero => simpa using h
    | succ i =>
      have hi' := hfits i (Nat.le_of_succ_le_succ hi)
      rw [List.take_succ_cons, List.flatten_cons, List.length_append]
      omega

/-- As many texts are appended as fit one behind another, and all of them only if nothing stopped it. -/
theorem appending_takes (capacity : Nat) (texts : List (List UInt8)) {content : List UInt8}
    (h : content.length ≤ capacity) :
    ∃ j, IsGreatest (fitting capacity content.length texts) j ∧
      (appending capacity texts content).1 = content ++ (texts.take j).flatten ∧
      (appending capacity texts content).2.isNone = decide (j = texts.length) := by
  induction texts generalizing content with
  | nil =>
    refine ⟨0, ⟨zero_mem_fitting h, fun j hj => hj.1⟩, ?_, rfl⟩
    simp [appending]
  | cons text rest ih =>
    rw [appending]
    by_cases hlong : capacity - content.length < text.length
    · rw [if_pos hlong]
      refine ⟨0, ⟨zero_mem_fitting h, ?_⟩, by simp, rfl⟩
      -- One text more would be the one that stopped it.
      intro j hj
      rcases j with _ | j
      · exact Nat.le_refl 0
      · have hone := hj.2 1 (Nat.le_add_left 1 j)
        simp at hone
        omega
    · rw [if_neg hlong]
      have hlonger : (content ++ text).length ≤ capacity := by
        rw [List.length_append]
        omega
      obtain ⟨j, ⟨hmem, hmost⟩, hcontent, hstopped⟩ := ih hlonger
      rw [List.length_append] at hmem hmost
      refine ⟨j + 1, ⟨(succ_mem_fitting h).mpr hmem, ?_⟩, by simp [hcontent], by simp [hstopped]⟩
      intro k hk
      rcases k with _ | k
      · exact Nat.zero_le _
      · exact Nat.succ_le_succ (hmost ((succ_mem_fitting h).mp hk))

/-- The number of bytes that fragments come to. -/
def total (fragments : List (List Char)) : Nat := (fragments.map fun fragment => (encode fragment).length).sum

theorem length_encode_flatten (fragments : List (List Char)) :
    (encode fragments.flatten).length = total fragments := by
  rw [← flatten_encode, List.length_flatten, List.map_map]
  rfl

/-! ## Writing -/

/-- What becomes of a text that arrives in fragments. -/
structure Piecemeal (s : ByteString) : Prop where
  accepted : ∀ fragments, (format fragments s).outcome = .value () ↔ total fragments ≤ s.capacity
  whole : ∀ fragments, total fragments ≤ s.capacity →
    (format fragments s).state.content = (fragments.map encode).flatten
  refused : ∀ fragments, s.capacity < total fragments →
    (format fragments s).outcome = .error .noMemory ∧ (format fragments s).state.content = []
  /-- The same text ends the same, however it is cut. -/
  recut : ∀ fragments fragments', fragments.flatten = fragments'.flatten →
    (format fragments s).outcome = (format fragments' s).outcome ∧
      (format fragments s).state.content = (format fragments' s).state.content
  /-- The fragments of an error come to its text. -/
  rendered : ∀ describe (e : Error) text, e.Rendered describe text ↔ (e.pieces describe).flatten = text
  /-- An error is converted to its text if that fits. -/
  converted : ∀ describe (e : Error) text, e.Rendered describe text → (encode text).length ≤ s.capacity →
    (format (e.pieces describe) s).outcome = .value () ∧
      (format (e.pieces describe) s).state.content = encode text
  /-- A writer leaves what there was room for and says whether that was all. -/
  written : ∀ fragments, ∃ j, IsGreatest (fitting s.capacity s.content.length (fragments.map encode)) j ∧
    (write fragments s).state.content = s.content ++ ((fragments.map encode).take j).flatten ∧
    (write fragments s).outcome = .value (decide (j = fragments.length))
  /-- A chain of appends leaves the same, and fails if that was not all. -/
  chained : ∀ texts, ∃ j, IsGreatest (fitting s.capacity s.content.length texts) j ∧
    (appendAll texts s).state.content = s.content ++ (texts.take j).flatten ∧
    (appendAll texts s).outcome =
      if j < texts.length then .error .noMemory else .value (appendAll texts s).state.len

theorem format_fits (hs : Sound s) (h : total fragments ≤ s.capacity) :
    format fragments s = ⟨.value (), s.holding (fragments.map encode).flatten, [], []⟩ := by
  rw [← length_encode_flatten] at h
  rw [format_of_le hs h, flatten_encode]

theorem format_rendered (hs : Sound s) {describe : Error.Descriptions} {e : Error} {text : List Char}
    (htext : e.Rendered describe text) (h : (encode text).length ≤ s.capacity) :
    (format (e.pieces describe) s).outcome = .value () ∧
      (format (e.pieces describe) s).state.content = encode text := by
  obtain rfl := Error.rendered_iff.mp htext
  rw [length_encode_flatten] at h
  rw [format_fits hs h, flatten_encode]
  exact ⟨rfl, content_holding⟩

theorem format_overflows (hs : Sound s) (h : s.capacity < total fragments) :
    (format fragments s).outcome = .error .noMemory ∧ (format fragments s).state.content = [] := by
  rw [← length_encode_flatten] at h
  exact format_of_lt hs h

theorem format_recut (hs : Sound s) (h : fragments.flatten = fragments'.flatten) :
    (format fragments s).outcome = (format fragments' s).outcome ∧
      (format fragments s).state.content = (format fragments' s).state.content := by
  have htotal : total fragments = total fragments' := by
    rw [← length_encode_flatten, ← length_encode_flatten, h]
  by_cases hfits : total fragments ≤ s.capacity
  · rw [format_fits hs hfits, format_fits hs (htotal ▸ hfits), flatten_encode, flatten_encode, h]
    exact ⟨rfl, rfl⟩
  · obtain ⟨houtcome, hcontent⟩ := format_overflows hs (Nat.lt_of_not_le hfits)
    have hlong' : s.capacity < total fragments' := by omega
    obtain ⟨houtcome', hcontent'⟩ := format_overflows hs hlong'
    exact ⟨houtcome.trans houtcome'.symm, hcontent.trans hcontent'.symm⟩

/-- A text is formatted whole or not at all, whatever its fragments. Appended one after another, the fragments
stay that fit. -/
theorem formatting_ignores_fragments (hs : Sound s) : Piecemeal s := by
  have hroom : s.content.length ≤ s.capacity := by
    rw [length_content hs]
    exact len_le_capacity hs
  constructor
  case accepted =>
    intro fragments
    constructor
    · intro hvalue
      by_contra hlong
      rw [(format_overflows hs (Nat.lt_of_not_le hlong)).1] at hvalue
      cases hvalue
    · intro hfits
      rw [format_fits hs hfits]
  case whole =>
    intro fragments hfits
    rw [format_fits hs hfits, content_holding]
  case refused =>
    intro fragments hlong
    exact format_overflows hs hlong
  case recut =>
    intro fragments fragments' h
    exact format_recut hs h
  case rendered =>
    intro describe e text
    exact Error.rendered_iff
  case converted =>
    intro describe e text htext hfits
    exact format_rendered hs htext hfits
  case written =>
    intro fragments
    obtain ⟨j, hgreatest, hcontent, hstopped⟩ := appending_takes s.capacity (fragments.map encode) hroom
    refine ⟨j, hgreatest, ?_, ?_⟩
    · simp only [write_eq hs, content_holding, hcontent]
    · simp only [write_eq hs, hstopped, List.length_map]
  case chained =>
    intro texts
    obtain ⟨j, hgreatest, hcontent, hstopped⟩ := appending_takes s.capacity texts hroom
    refine ⟨j, hgreatest, ?_, ?_⟩
    · simp only [appendAll_eq hs, content_holding, hcontent]
    · have hle := hgreatest.1.1
      simp only [appendAll_eq hs, hstopped, len_holding]
      by_cases hall : j = texts.length
      · rw [if_pos (by simp [hall]), if_neg (by omega)]
      · rw [if_neg (by simp [hall]), if_pos (by omega)]

/-- Three fragments, one of them empty, that fill a string over what it held. With one more they are taken
back, and appended behind what the string holds the last of them finds no room. -/
theorem formatting_ignores_fragments_of_three :
    let s := closed [0x61] [0, 0]
    let fragments := [['b'], [], ['c', 'd']]
    Sound s ∧ (format fragments s).outcome = .value () ∧ (format fragments s).state.content = [0x62, 0x63, 0x64] ∧
      (format (['a'] :: fragments) s).outcome = .error .noMemory ∧
      (format (['a'] :: fragments) s).state.content = [] ∧
      (appendAll (fragments.map encode) s).outcome = .error .noMemory ∧
      (appendAll (fragments.map encode) s).state.content = [0x61, 0x62] := by
  intro s fragments
  have hs : Sound s := sound_closed _ _ (by decide)
  have h := formatting_ignores_fragments hs
  have hfits : total fragments ≤ s.capacity := by decide
  obtain ⟨hrefused, hempty⟩ := h.refused (['a'] :: fragments) (by decide)
  obtain ⟨j, hgreatest, hcontent, houtcome⟩ := h.chained (fragments.map encode)
  have htwo : IsGreatest (fitting s.capacity s.content.length (fragments.map encode)) 2 := by
    refine ⟨⟨by decide, by decide⟩, fun k hk => Nat.le_of_not_lt fun hlong => ?_⟩
    exact absurd (hk.2 3 hlong) (by decide)
  obtain rfl := hgreatest.unique htwo
  exact ⟨hs, (h.accepted fragments).mpr hfits, h.whole fragments hfits, hrefused, hempty, houtcome, hcontent⟩

end ByteString

end FixedCapacity
