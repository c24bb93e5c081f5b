/-
  FixedCapacity.Proofs.ByteString.Hex — digits in a string and bytes in an array.

  `decodeHex_laid` is the report of a decoding: without room for a byte for each two digits
  it is refused, and else the bytes of the digits take the first slots, up to a pair that is
  no byte. With `encodeHex_eq` it brings the calls down to `Text.Hex.encode` and
  `Text.Hex.read`, so what these undo of each other the calls do too, over whatever the
  string and the array held before (`hex_digits_round_trip`).
-/

import FixedCapacity.Proofs.ByteString.Write
import FixedCapacity.Proofs.SlotArray.Insert
import FixedCapacity.Proofs.Text.Hex

namespace FixedCapacity.ByteString

open Call (wordLimit)
open SlotArray (laid sound_laid pushBack_laid clear_laid)
open Text.Hex (IsDigit filled length_encode length_filled length_read_le read_encode encode_read encode_read_of_pairs)

variable {s : ByteString}

/-! ## Digits -/

/-- The guards of a digit keep its value within a byte. -/
theorem hexValue_eq {σ α : Type} (digit : UInt8) :
    (hexValue digit : Call σ α UInt8) =
      match Text.Hex.digit? digit with
      | some v => pure v
      | none => Call.refuse .invalidArgument := by
  have hletter {first : UInt8} (hlow : first ≤ digit) (hhigh : digit.toNat - first.toNat < 6) :
      (Call.subByte digit first >>= fun v => Call.addByte v 10 : Call σ α UInt8) = pure (digit - first + 10) := by
    rw [Call.subByte_of_le hlow, pure_bind, Call.addByte_of_lt]
    rw [UInt8.toNat_sub_of_le _ _ hlow]
    exact Nat.lt_of_lt_of_le (Nat.add_lt_add_right hhigh _) (by decide)
  rw [hexValue, Text.Hex.digit?]
  split
  case isTrue h => exact Call.subByte_of_le h.1
  split
  case isTrue h => exact hletter h.1 (by have : digit.toNat ≤ 0x66 := h.2; simp; omega)
  split
  case isTrue h => exact hletter h.1 (by have : digit.toNat ≤ 0x46 := h.2; simp; omega)
  case isFalse => rfl

theorem pairValue_eq {σ α : Type} (high : UInt8) (rest : List UInt8) :
    (pairValue (high :: rest) : Call σ α UInt8) =
      match Text.Hex.pair? high rest.head? with
      | some b => pure b
      | none => Call.refuse .invalidArgument := by
  have hfirst : (Call.item (high :: rest) 0 : Call σ α UInt8) = pure high := rfl
  rw [pairValue, hfirst, pure_bind, hexValue_eq]
  cases hhigh : Text.Hex.digit? high with
  | none => simp [Text.Hex.pair?, hhigh]
  | some h =>
    cases rest with
    | nil => simp [Text.Hex.pair?, hhigh]
    | cons low rest =>
      cases hlow : Text.Hex.digit? low with
      | none => simp [Text.Hex.pair?, hhigh, hlow, hexValue_eq, -bind_pure_comp]
      | some l => simp [Text.Hex.pair?, hhigh, hlow, hexValue_eq]

/-! ## Decoding -/

/-- Pushes bytes, and then fails if there is a bad digit behind them. -/
def pushing (bytes : List UInt8) (ends : Bool) : SlotArray.Op UInt8 Unit := do
  bytes.forM SlotArray.pushBack
  if ends then pure () else Call.refuse .invalidArgument

theorem pushing_cons (b : UInt8) (bytes : List UInt8) (ends : Bool) :
    pushing (b :: bytes) ends = SlotArray.pushBack b >>= fun _ => pushing bytes ends := by
  simp [pushing]

/-- Pairs are appended by pushing the bytes that they denote, whatever room there is. -/
theorem appendPairs_eq (digits : List UInt8) :
    appendPairs (pairs digits) = pushing (Text.Hex.read digits).1 (Text.Hex.read digits).2 := by
  induction digits using Text.Hex.read.induct with
  | case1 => simp [pairs, appendPairs, pushing, Text.Hex.read]
  | case2 high b hb => simp [pairs, appendPairs, pairValue_eq, pushing, Text.Hex.read, hb]
  | case3 high hbad => simp [pairs, appendPairs, pairValue_eq, pushing, Text.Hex.read, hbad]
  | case4 high low rest b hb ih =>
    simp [pairs, appendPairs, pairValue_eq, Text.Hex.read, hb, ih, pushing_cons]
  | case5 high low rest hbad => simp [pairs, appendPairs, pairValue_eq, pushing, Text.Hex.read, hbad]

/-- Decoding asks for room, empties the array and pushes the bytes that can be read. -/
theorem decodeHex_eq (hs : Sound s) :
    s.decodeHex = Call.get >>= fun target =>
      if (s.len + 1) / 2 > target.capacity then Call.refuse .noMemory
      else SlotArray.clear >>= fun _ => pushing (Text.Hex.read s.content).1 (Text.Hex.read s.content).2 := by
  simp only [decodeHex, bytes_eq hs, pure_bind, length_content hs, appendPairs_eq]

/-- With a free slot for each byte, only what is behind them can fail. -/
theorem pushing_laid (bytes xs : List UInt8) (free : List (Option UInt8)) (ends : Bool)
    (hroom : bytes.length ≤ free.length) (hw : xs.length + free.length < wordLimit) :
    pushing bytes ends (laid xs free) =
      ⟨if ends then .value () else .error .invalidArgument, laid (xs ++ bytes) (free.drop bytes.length), [],
        bytes.map .handed⟩ := by
  induction bytes generalizing xs free with
  | nil => cases ends <;> simp [pushing]
  | cons b bytes ih =>
    obtain ⟨slot, free, rfl⟩ : ∃ slot rest, free = slot :: rest :=
      List.exists_cons_of_length_pos (Nat.zero_lt_of_lt hroom)
    have hpushed := pushBack_laid b xs (slot :: free) hw
    rw [List.length_cons, List.length_cons] at hroom
    rw [List.length_cons] at hw
    have hrest := ih (xs ++ [b]) free (by omega) (by rw [List.length_append, List.length_singleton]; omega)
    rw [pushing_cons, Call.bind_apply, hpushed, if_neg (List.cons_ne_nil _ _), Report.andThen_value, List.tail_cons,
      hrest]
    simp

/-- Without room for all bytes, the array is not even emptied. -/
theorem decodeHex_short (hs : Sound s) {a : SlotArray UInt8} (hshort : a.capacity < (s.len + 1) / 2) :
    s.decodeHex a = ⟨.error .noMemory, a, [], []⟩ := by
  simp [decodeHex_eq hs, hshort]

theorem decodeHex_laid (hs : Sound s) (xs : List UInt8) (free : List (Option UInt8))
    (hw : xs.length + free.length < wordLimit) :
    s.decodeHex (laid xs free) =
      if xs.length + free.length < (s.len + 1) / 2 then ⟨.error .noMemory, laid xs free, [], []⟩
      else
        ⟨if (Text.Hex.read s.content).2 then .value () else .error .invalidArgument,
          laid (Text.Hex.read s.content).1
            ((xs.map some ++ free).drop (Text.Hex.read s.content).1.length), [],
          xs.reverse.map .dropped ++ (Text.Hex.read s.content).1.map .handed⟩ := by
  have hlen := length_content hs
  simp only [decodeHex_eq hs, Call.bind_apply, Call.get_apply, Report.andThen_value, Report.after_nil,
    Call.ite_apply, Call.refuse_apply, gt_iff_lt, SlotArray.capacity_laid]
  by_cases hfits : xs.length + free.length < (s.len + 1) / 2
  · rw [if_pos hfits, if_pos hfits]
  · have hread := length_read_le s.content
    have hroom : (Text.Hex.read s.content).1.length ≤ (xs.map some ++ free).length := by
      rw [List.length_append, List.length_map]
      omega
    rw [if_neg hfits, if_neg hfits, clear_laid, Report.andThen_value, pushing_laid _ [] _ _ hroom (by simpa using hw)]
    simp

/-- An array with room for them is left with the bytes that could be read. -/
theorem decodeHex_toList (hs : Sound s) {a : SlotArray UInt8} (ha : a.Sound)
    (hroom : (s.len + 1) / 2 ≤ a.capacity) :
    (s.decodeHex a).outcome = (if (Text.Hex.read s.content).2 then .value () else .error .invalidArgument) ∧
      (s.decodeHex a).state.toList = (Text.Hex.read s.content).1 := by
  obtain ⟨xs, free, rfl, hw⟩ := SlotArray.sound_iff.mp ha
  rw [SlotArray.capacity_laid] at hroom
  rw [decodeHex_laid hs xs free hw, if_neg (by omega)]
  exact ⟨rfl, SlotArray.toList_laid _ _⟩

/-- A decoding that ends well read all digits. -/
theorem read_of_decoded (hs : Sound s) {a : SlotArray UInt8} (ha : a.Sound)
    (h : (s.decodeHex a).outcome = .value ()) :
    Text.Hex.read s.content = ((s.decodeHex a).state.toList, true) := by
  have hroom : (s.len + 1) / 2 ≤ a.capacity := by
    by_contra hshort
    rw [decodeHex_short hs (Nat.not_le.mp hshort)] at h
    cases h
  obtain ⟨houtcome, hlist⟩ := decodeHex_toList hs ha hroom
  rw [houtcome] at h
  cases hend : (Text.Hex.read s.content).2 with
  | true => rw [hlist, ← hend]
  | false =>
    rw [hend] at h
    cases h

/-! ## Encoding -/

theorem encodeHex_fits (hs : Sound s) {bytes : List UInt8} (hroom : 2 * bytes.length ≤ s.capacity) :
    encodeHex bytes s = ⟨.value (), s.holding (Text.Hex.encode bytes), [], []⟩ := by
  rw [encodeHex_eq hs, if_neg (by omega)]

theorem content_of_encoded (hs : Sound s) {bytes : List UInt8} (h : (encodeHex bytes s).outcome = .value ()) :
    (encodeHex bytes s).state.content = Text.Hex.encode bytes := by
  rw [encodeHex_eq hs] at h ⊢
  split at h
  case isTrue => cases h
  case isFalse hfits =>
    rw [if_neg hfits]
    exact content_holding

/-! ## There and back -/

/-- Writing bytes as digits and reading digits as bytes undo each other. -/
structure HexRoundTrip : Prop where
  /-- Bytes come back as they were, through any string and into any array with room for them. -/
  bytes_back : ∀ (bytes : List UInt8) {s : ByteString} {a : SlotArray UInt8}, Sound s → a.Sound →
    2 * bytes.length ≤ s.capacity → bytes.length ≤ a.capacity →
    (encodeHex bytes s).outcome = .value () ∧
      ((encodeHex bytes s).state.decodeHex a).outcome = .value () ∧
      ((encodeHex bytes s).state.decodeHex a).state.toList = bytes
  /-- Digits come back in upper case, and an odd last one with a zero behind it. -/
  digits_back : ∀ {s t : ByteString} {a : SlotArray UInt8}, Sound s → Sound t → a.Sound →
    (∀ c ∈ s.content, IsDigit c) → (s.len + 1) / 2 ≤ a.capacity →
    let decoded := s.decodeHex a
    let bytes := decoded.state.toList
    decoded.outcome = .value () ∧ bytes.length = (s.len + 1) / 2 ∧
      (2 * bytes.length ≤ t.capacity →
        (encodeHex bytes t).outcome = .value () ∧ (encodeHex bytes t).state.content = filled s.content)
  encode_injective : ∀ {bytes bytes' : List UInt8} {s t : ByteString}, Sound s → Sound t →
    (encodeHex bytes s).outcome = .value () → (encodeHex bytes' t).outcome = .value () →
    (encodeHex bytes s).state.content = (encodeHex bytes' t).state.content → bytes = bytes'
  /-- Pairs of upper-case digits are told apart by the bytes they denote. -/
  decode_injective : ∀ {s t : ByteString} {a b : SlotArray UInt8}, Sound s → Sound t → a.Sound → b.Sound →
    (∀ c ∈ s.content ++ t.content, IsDigit c ∧ Text.Hex.upper c = c) →
    s.len % 2 = 0 → t.len % 2 = 0 →
    (s.decodeHex a).outcome = .value () → (t.decodeHex b).outcome = .value () →
    (s.decodeHex a).state.toList = (t.decodeHex b).state.toList → s.content = t.content

/-- Bytes written as digits read back, and digits that are read are written back in upper case. -/
theorem hex_digits_round_trip : HexRoundTrip := by
  constructor
  case bytes_back =>
    intro bytes s a hs ha hdigits hslots
    have hlength := length_encode bytes
    have hwritten : Sound (s.holding (Text.Hex.encode bytes)) := sound_holding hs (by omega)
    rw [encodeHex_fits hs hdigits]
    obtain ⟨houtcome, hlist⟩ := decodeHex_toList hwritten ha (by rw [len_holding]; omega)
    rw [content_holding, read_encode] at houtcome hlist
    exact ⟨rfl, houtcome, hlist⟩
  case digits_back =>
    intro s t a hs ht ha hdigits hslots decoded bytes
    obtain ⟨hend, hfilled⟩ := encode_read hdigits
    obtain ⟨houtcome, hlist⟩ := decodeHex_toList hs ha hslots
    have hwritten : Text.Hex.encode bytes = filled s.content := (congrArg Text.Hex.encode hlist).trans hfilled
    have hlength := congrArg List.length hwritten
    rw [length_encode, length_filled, length_content hs] at hlength
    refine ⟨?_, by omega, fun hroom => ?_⟩
    · rw [hend] at houtcome
      exact houtcome
    · rw [encodeHex_fits ht hroom, hwritten]
      exact ⟨rfl, content_holding⟩
  case encode_injective =>
    intro bytes bytes' s t hs ht hwritten hwritten' hsame
    rw [content_of_encoded hs hwritten, content_of_encoded ht hwritten'] at hsame
    exact Text.Hex.encode_injective hsame
  case decode_injective =>
    intro s t a b hs ht ha hb hupper heven heven' hdecoded hdecoded' hsame
    rw [← length_content hs] at heven
    rw [← length_content ht] at heven'
    have hread := read_of_decoded hs ha hdecoded
    have hread' := read_of_decoded ht hb hdecoded'
    calc s.content
      _ = Text.Hex.encode (Text.Hex.read s.content).1 :=
        (encode_read_of_pairs heven fun c hc => hupper c (List.mem_append_left _ hc)).symm
      _ = Text.Hex.encode (Text.Hex.read t.content).1 := by rw [hread, hread', hsame]
      _ = t.content := encode_read_of_pairs heven' fun c hc => hupper c (List.mem_append_right _ hc)

/-- Three digits of both cases, over bytes left behind in the string and in the array: the last one
comes back with a zero. -/
theorem hex_digits_round_trip_of_three :
    let s := closed [0x61, 0x42, 0x63] [7, 7]
    let t := closed [9] [8, 8, 8, 8]
    let a : SlotArray UInt8 := laid [1, 2, 3] [none, some 4]
    Sound s ∧ Sound t ∧ a.Sound ∧ (s.decodeHex a).outcome = .value () ∧
      (s.decodeHex a).state.toList = [0xAB, 0xC0] ∧
      (encodeHex [0xAB, 0xC0] t).state.content = [0x41, 0x42, 0x43, 0x30] ∧
      ((encodeHex [0xAB, 0xC0] t).state.decodeHex a).state.toList = [0xAB, 0xC0] := by
  intro s t a
  have hs : Sound s := sound_closed _ _ (by decide)
  have ht : Sound t := sound_closed _ _ (by decide)
  have ha : a.Sound := sound_laid _ _ (by decide)
  have hdigits : ∀ c ∈ s.content, IsDigit c := by simp [s, IsDigit]
  obtain ⟨hdecoded, -, hback⟩ := hex_digits_round_trip.digits_back hs ht ha hdigits (by decide)
  have hbytes : (s.decodeHex a).state.toList = [0xAB, 0xC0] :=
    (decodeHex_toList hs ha (by decide)).2.trans (by decide)
  rw [hbytes] at hback
  obtain ⟨-, hcontent⟩ := hback (by decide)
  obtain ⟨-, -, hagain⟩ := hex_digits_round_trip.bytes_back [0xAB, 0xC0] ht ha (by decide) (by decide)
  exact ⟨hs, ht, ha, hdecoded, hbytes, hcontent.trans (by decide), hagain⟩

end FixedCapacity.ByteString
