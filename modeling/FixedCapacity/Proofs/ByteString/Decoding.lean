/-
  FixedCapacity.Proofs.ByteString.Decoding — how decoding and encoding of digits fail.

  A decoding is refused for lack of room before a digit is looked at, and that leaves the destination
  alone. From there on the pushes are those of the bytes that can be read (`decodeHex_eq`), and the room
  that was asked for is enough for all of them, so only a bad digit stops it (`Decodes`). An encoding asks
  half the room for a byte each, which is what the digits need in odd capacities too (`Encodes`).
-/

import FixedCapacity.Proofs.Splice
import FixedCapacity.Proofs.ByteString.Hex

namespace FixedCapacity.ByteString

open Call (history)
open Text.Hex (IsDigit denoted length_denoted length_read_le read_digits read_ends read_stopped)

variable {s : ByteString} {a : SlotArray UInt8}

/-! ## Pushes -/

/-- Bytes that fit into an emptied array are pushed without a failure. -/
theorem pushes_succeed (ha : a.Sound) {bytes : List UInt8} (hroom : bytes.length ≤ a.capacity) :
    ∀ r ∈ history (bytes.map SlotArray.pushBack) (SlotArray.clear a).state, r.outcome = .value () := by
  obtain ⟨xs, free, rfl, hw⟩ := SlotArray.sound_iff.mp ha
  rw [SlotArray.capacity_laid] at hroom
  rw [SlotArray.clear_laid]
  have hsound : SlotArray.Sound (.laid [] (xs.map some ++ free) : SlotArray UInt8) :=
    SlotArray.sound_laid _ _ (by simpa using hw)
  have hbegin : 0 + 0 = SlotArray.editor.len (.laid [] (xs.map some ++ free) : SlotArray UInt8) := by
    simp [Editor.len, SlotArray.editor]
  have hfits : bytes.length ≤ SlotArray.editor.room (.laid [] (xs.map some ++ free) : SlotArray UInt8) := by
    simpa [Editor.room, Editor.len, SlotArray.editor] using hroom
  have hpushes := (SlotArray.lawful.adds_push.amounts SlotArray.lawful hsound hbegin hfits).succeed
  rwa [Editor.singly_const] at hpushes

/-! ## Decoding -/

/-- Where there is room for all bytes, those that can be read are pushed into the emptied array. -/
theorem decodeHex_pushing (hs : Sound s) (ha : a.Sound) (hroom : (s.len + 1) / 2 ≤ a.capacity) :
    s.decodeHex a = (SlotArray.clear >>= fun _ =>
      pushing (s.decodeHex a).state.toList (decide (∀ c ∈ s.content, IsDigit c))) a := by
  rw [(decodeHex_toList hs ha hroom).2, ← read_ends, decodeHex_eq hs]
  simp [Nat.not_lt.mpr hroom]

/-- Room is asked for first, and then the digits decide. -/
theorem decodeHex_outcome (hs : Sound s) (ha : a.Sound) :
    (s.decodeHex a).outcome =
      if a.capacity < (s.len + 1) / 2 then .error .noMemory
      else if ∀ c ∈ s.content, IsDigit c then .value ()
      else .error .invalidArgument := by
  by_cases hshort : a.capacity < (s.len + 1) / 2
  · rw [if_pos hshort, decodeHex_short hs hshort]
  · rw [if_neg hshort, (decodeHex_toList hs ha (Nat.not_lt.mp hshort)).1, read_ends]
    simp only [decide_eq_true_eq]

/-- What becomes of an array when the content of a string is decoded into it. -/
structure Decodes (s : ByteString) (a : SlotArray UInt8) : Prop where
  noMemory : (s.decodeHex a).outcome = .error .noMemory ↔ a.capacity < (s.len + 1) / 2
  untouched : a.capacity < (s.len + 1) / 2 → s.decodeHex a = ⟨.error .noMemory, a, [], []⟩
  invalidArgument : (s.decodeHex a).outcome = .error .invalidArgument ↔
    (s.len + 1) / 2 ≤ a.capacity ∧ ∃ c ∈ s.content, ¬ IsDigit c
  /-- The pairs in front of the one with the first bad digit are there, and nothing else is. -/
  stopped : (s.len + 1) / 2 ≤ a.capacity → ∀ {front : List UInt8} {bad : UInt8} {rest : List UInt8},
    s.content = front ++ bad :: rest → (∀ c ∈ front, IsDigit c) → ¬ IsDigit bad →
      (s.decodeHex a).state.toList.map UInt8.toNat = denoted (front.take (2 * (front.length / 2)))
  returns : (s.decodeHex a).outcome = .value () ↔
    (s.len + 1) / 2 ≤ a.capacity ∧ ∀ c ∈ s.content, IsDigit c
  /-- Digits without a bad one are all decoded, an odd last one as a high half. -/
  whole : (s.len + 1) / 2 ≤ a.capacity → (∀ c ∈ s.content, IsDigit c) →
    (s.decodeHex a).state.toList.map UInt8.toNat = denoted s.content ∧
      (s.decodeHex a).state.toList.length = (s.len + 1) / 2
  /-- What is there was pushed into the emptied array, and no push failed. -/
  pushes : (s.len + 1) / 2 ≤ a.capacity →
    s.decodeHex a = (SlotArray.clear >>= fun _ =>
        pushing (s.decodeHex a).state.toList (decide (∀ c ∈ s.content, IsDigit c))) a ∧
      ∀ r ∈ history ((s.decodeHex a).state.toList.map SlotArray.pushBack) (SlotArray.clear a).state,
        r.outcome = .value ()

theorem decodes (hs : Sound s) (ha : a.Sound) : Decodes s a := by
  have houtcome := decodeHex_outcome hs ha
  constructor
  case noMemory =>
    rw [houtcome]
    split_ifs with hshort hdigits
    · exact iff_of_true rfl hshort
    · exact iff_of_false nofun hshort
    · exact iff_of_false nofun hshort
  case untouched => exact decodeHex_short hs
  case invalidArgument =>
    rw [houtcome]
    split_ifs with hshort hdigits
    · exact iff_of_false nofun fun h => Nat.not_lt.mpr h.1 hshort
    · exact iff_of_false nofun fun ⟨_, c, hc, hbad⟩ => hbad (hdigits c hc)
    · have hbad : ∃ c ∈ s.content, ¬ IsDigit c := by simpa using hdigits
      exact iff_of_true rfl ⟨Nat.not_lt.mp hshort, hbad⟩
  case stopped =>
    intro hroom front bad rest hcontent hfront hbad
    rw [(decodeHex_toList hs ha hroom).2, hcontent]
    exact (read_stopped hfront hbad rest).2
  case returns =>
    rw [houtcome]
    split_ifs with hshort hdigits
    · exact iff_of_false nofun fun h => Nat.not_lt.mpr h.1 hshort
    · exact iff_of_true rfl ⟨Nat.not_lt.mp hshort, hdigits⟩
    · exact iff_of_false nofun fun h => hdigits h.2
  case whole =>
    intro hroom hdigits
    have hbytes : (s.decodeHex a).state.toList.map UInt8.toNat = denoted s.content := by
      rw [(decodeHex_toList hs ha hroom).2]
      exact (read_digits hdigits).2
    have hlength := congrArg List.length hbytes
    rw [List.length_map, length_denoted, length_content hs] at hlength
    exact ⟨hbytes, hlength⟩
  case pushes =>
    intro hroom
    refine ⟨decodeHex_pushing hs ha hroom, pushes_succeed ha ?_⟩
    have hlength := length_read_le s.content
    rw [length_content hs] at hlength
    rw [(decodeHex_toList hs ha hroom).2]
    exact hlength.trans hroom

/-! ## Encoding -/

/-- What becomes of a string when bytes are encoded into it. -/
structure Encodes (bytes : List UInt8) (s : ByteString) : Prop where
  noMemory : (encodeHex bytes s).outcome = .error .noMemory ↔ s.capacity < 2 * bytes.length
  untouched : s.capacity < 2 * bytes.length → encodeHex bytes s = ⟨.error .noMemory, s, [], []⟩
  written : 2 * bytes.length ≤ s.capacity →
    encodeHex bytes s = ⟨.value (), s.holding (Text.Hex.encode bytes), [], []⟩

/-- Half the room for each byte is room for both of its digits, in odd capacities too. -/
theorem encodes (hs : Sound s) (bytes : List UInt8) : Encodes bytes s := by
  have hshort (h : s.capacity < 2 * bytes.length) : encodeHex bytes s = ⟨.error .noMemory, s, [], []⟩ := by
    rw [encodeHex_eq hs, if_pos (by omega)]
  constructor
  case noMemory =>
    constructor
    · intro hfail
      by_contra hroom
      rw [encodeHex_fits hs (Nat.not_lt.mp hroom)] at hfail
      cases hfail
    · exact fun h => congrArg Report.outcome (hshort h)
  case untouched => exact hshort
  case written => exact encodeHex_fits hs

/-- Decoding and encoding fail for lack of room exactly where it lacks, and decoding stops at the first bad
digit and nowhere else. -/
theorem hex_fails_predictably :
    (∀ {s : ByteString} {a : SlotArray UInt8}, Sound s → a.Sound → Decodes s a) ∧
      ∀ {s : ByteString}, Sound s → ∀ bytes, Encodes bytes s :=
  ⟨decodes, encodes⟩

/-- Four characters with a bad one third: one slot is too few for them, and two take the first pair. Three
digits fill two slots, and two bytes do not fit into three characters. -/
theorem hex_fails_predictably_of_four :
    let s := closed [0x61, 0x31, 0x67, 0x34] [7]
    let t := closed [0x61, 0x42, 0x63] []
    let short : SlotArray UInt8 := .laid [5] []
    let wide : SlotArray UInt8 := .laid [5] [none]
    Sound s ∧ Sound t ∧ short.Sound ∧ wide.Sound ∧
      s.decodeHex short = ⟨.error .noMemory, short, [], []⟩ ∧
      (s.decodeHex wide).outcome = .error .invalidArgument ∧
      (s.decodeHex wide).state.toList.map UInt8.toNat = [0xA1] ∧
      (t.decodeHex wide).outcome = .value () ∧
      (t.decodeHex wide).state.toList.map UInt8.toNat = [0xAB, 0xC0] ∧
      encodeHex [0xAB, 0xC0] t = ⟨.error .noMemory, t, [], []⟩ := by
  intro s t short wide
  have hs : Sound s := sound_closed _ _ (by decide)
  have ht : Sound t := sound_closed _ _ (by decide)
  have hshort : short.Sound := SlotArray.sound_laid _ _ (by decide)
  have hwide : wide.Sound := SlotArray.sound_laid _ _ (by decide)
  obtain ⟨hdecodes, hencodes⟩ := hex_fails_predictably
  have hdigits : ∀ c ∈ t.content, IsDigit c := by simp [t, IsDigit]
  have hfront : ∀ c ∈ [(0x61 : UInt8), 0x31], IsDigit c := by simp [IsDigit]
  have hleft := (hdecodes hs hwide).stopped (by decide) (content_closed _ _) hfront (by decide)
  exact ⟨hs, ht, hshort, hwide, (hdecodes hs hshort).untouched (by decide),
    (hdecodes hs hwide).invalidArgument.mpr ⟨by decide, 0x67, by simp [s], by decide⟩,
    hleft.trans (by decide), (hdecodes ht hwide).returns.mpr ⟨by decide, hdigits⟩,
    ((hdecodes ht hwide).whole (by decide) hdigits).1.trans (by decide),
    (hencodes ht [0xAB, 0xC0]).untouched (by decide)⟩

end FixedCapacity.ByteString
