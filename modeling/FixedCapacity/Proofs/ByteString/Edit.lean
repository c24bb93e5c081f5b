/-
  FixedCapacity.Proofs.ByteString.Edit — reports of the calls that read and change a string.

  Each is given for a sound string `s`: how the call ends and the content that it leaves
  `s` holding.
-/

import FixedCapacity.Proofs.Bounds
import FixedCapacity.Proofs.ListReport
import FixedCapacity.Proofs.ByteString.Closed
import FixedCapacity.ByteString.Hex

namespace FixedCapacity.ByteString

open Call (wordLimit)
open Predicate

variable {τ : Type} {s : ByteString}

/-! ## Bytes by position -/

theorem bytes_eq {σ α : Type} (hs : Sound s) : (s.bytes : Call σ α (List UInt8)) = pure s.content := by
  rw [bytes, Call.slice_of_le (Nat.zero_le _) (Nat.le_of_lt hs.fits)]
  rfl

theorem get_eq (position : Nat) (s : ByteString) :
    get position s = ⟨.of s.content[position]? (.error .outOfRange), s, [], []⟩ := by
  simp only [get, Call.bind_apply, Call.get_apply, Report.andThen_value]
  cases s.content[position]? <;> simp

theorem index_eq (position : Nat) (s : ByteString) :
    index position s =
      ⟨.of s.content[position]? (.violation (.indexOutOfBounds s.len position)), s, [], []⟩ := by
  simp only [index, Call.bind_apply, Call.get_apply, Report.andThen_value]
  cases s.content[position]? <;> simp

theorem front_eq (s : ByteString) : front s = ⟨.of s.content.head? (.error .notFound), s, [], []⟩ := by
  simp only [front, Call.bind_apply, Call.get_apply, Report.andThen_value]
  cases s.content.head? <;> simp

theorem back_eq (s : ByteString) : back s = ⟨.of s.content.getLast? (.error .notFound), s, [], []⟩ := by
  simp only [back, Call.bind_apply, Call.get_apply, Report.andThen_value]
  cases s.content.getLast? <;> simp

/-- Writing inside the content. -/
theorem store_inside (hs : Sound s) {position : Nat} {bytes : List UInt8}
    (h : position + bytes.length ≤ s.len) :
    store position bytes s = ⟨.value (), s.holding
      (s.content.take position ++ bytes ++ s.content.drop (position + bytes.length)), [], []⟩ := by
  have hlen := length_content hs
  have hpre : (s.content.take position).length = position := List.length_take_of_le (by omega)
  have hrow : ((s.content.drop position).take bytes.length).length = bytes.length :=
    List.length_take_of_le (by rw [List.length_drop]; omega)
  have hstored := store_row (s := s) (s.content.take position)
    (s.content.drop (position + bytes.length)) hpre hrow
  rw [← List.drop_drop, List.take_append_drop, List.take_append_drop, written_content hs,
    written_eq_holding hs (by simp; omega)] at hstored
  simpa using hstored

theorem store_byte (hs : Sound s) {position : Nat} {old : UInt8} (h : s.content[position]? = some old)
    (b : UInt8) : store position [b] s = ⟨.value (), s.holding (s.content.set position b), [], []⟩ := by
  obtain ⟨hlt, -⟩ := List.getElem?_eq_some_iff.mp h
  have := length_content hs
  rw [store_inside hs (by simp; omega), List.set_eq_take_append_cons_drop, if_pos hlt]
  simp

theorem exchange_eq (hs : Sound s) (position : Nat) (b : UInt8) :
    exchange position b s =
      ⟨.of s.content[position]? (.error .outOfRange), s.holding (s.content.set position b), [], []⟩ := by
  simp only [exchange, Call.bind_apply, get_eq]
  cases h : s.content[position]? with
  | none => simp [List.set_eq_of_length_le (List.getElem?_eq_none_iff.mp h), holding_content hs]
  | some old => simp [store_byte hs h]

theorem exchangeIndex_eq (hs : Sound s) (position : Nat) (b : UInt8) :
    exchangeIndex position b s = ⟨.of s.content[position]? (.violation (.indexOutOfBounds s.len position)),
      s.holding (s.content.set position b), [], []⟩ := by
  simp only [exchangeIndex, Call.bind_apply, index_eq]
  cases h : s.content[position]? with
  | none => simp [List.set_eq_of_length_le (List.getElem?_eq_none_iff.mp h), holding_content hs]
  | some old => simp [store_byte hs h]

/-- What a writer of the content leaves: it can neither lengthen nor shorten it. -/
def rewritten (change : List UInt8 → List UInt8) (content : List UInt8) : List UInt8 :=
  (change content).take content.length ++ content.drop (change content).length

theorem length_rewritten (change : List UInt8 → List UInt8) (content : List UInt8) :
    (rewritten change content).length = content.length := by
  simp [rewritten]; omega

theorem rewrite_eq (hs : Sound s) (change : List UInt8 → List UInt8) :
    rewrite change s = ⟨.value (), s.holding (rewritten change s.content), [], []⟩ := by
  have hlen := length_content hs
  rw [rewrite, Call.bind_apply, Call.get_apply, Report.andThen_value, Report.after_nil, ← hlen,
    store_inside hs (by simp; omega)]
  rcases Nat.le_total s.content.length (change s.content).length with h | h
  · simp [rewritten, h, List.drop_eq_nil_of_le]
  · simp [rewritten, Nat.min_eq_right h]

/-! ## Looking for bytes -/

theorem findIf_eq (test : τ → UInt8 → Bool × τ) (t : τ) (s : ByteString) :
    findIf test t s = ⟨.of (first? test t s.content) (.error .notFound), s, [],
      (asked test t s.content).map .tested⟩ := by
  simp only [findIf, Call.bind_apply, Call.get_apply, Report.andThen_value, Call.searchFrom_apply]
  cases first? test t s.content <;> simp

/-! ## Setting the length -/

theorem clear_eq (hs : Sound s) : clear s = ⟨.value (), s.holding [], [], []⟩ :=
  setLen_eq 0 (Nat.zero_lt_of_lt hs.fits)

theorem resize_eq (hs : Sound s) (len : Nat) :
    resize len s =
      if s.capacity < len then
        ⟨.error .noMemory, s, [.alert (.resizeOverflow .string len s.capacity)], []⟩
      else
        ⟨.value (), s.holding (s.content.take len ++ List.replicate (len - s.len) 0), [], []⟩ := by
  have hlen := length_content hs
  have hroom := hs.fits
  simp only [resize, Call.bind_apply, Call.get_apply, Report.andThen_value, Report.after_nil, Call.ite_apply,
    Call.alert_apply, Call.refuse_apply, gt_iff_lt]
  by_cases hfits : s.capacity < len
  · rw [if_pos hfits, if_pos hfits]
    rfl
  rw [if_neg hfits, if_neg hfits]
  simp only [capacity] at hfits
  by_cases hgrow : s.len < len
  · rw [if_pos hgrow]
    have hfull : (s.content ++ List.replicate (len - s.len) 0).length = len := by simp; omega
    have hstored := store_behind (s := s) (List.replicate (len - s.len) 0) hlen (by simp; omega)
    rw [written_content hs] at hstored
    rw [hstored, Report.andThen_value, setLen_written (s := s) hfull (by omega),
      List.take_of_length_le (by omega)]
    rfl
  · rw [if_neg hgrow]
    have hshrunk : s.content.take len = s.storage.take len := by
      rw [content, List.take_take, Nat.min_eq_left (by omega)]
    rw [setLen_eq len (by omega), Nat.sub_eq_zero_of_le (by omega), hshrunk]
    simp

/-! ## Inserting -/

theorem insert_eq (hs : Sound s) (position : Nat) (text : List UInt8) :
    insert position text s =
      if s.capacity - s.len < text.length then
        ⟨.error .noMemory, s, [.alert (.insertOverflow .string s.len text.length s.capacity)], []⟩
      else if s.len < position then ⟨.error .invalidArgument, s, [], []⟩
      else ⟨.value (), s.holding (s.content.take position ++ text ++ s.content.drop position), [], []⟩ := by
  have hlen := length_content hs
  have hroom := hs.fits
  have hword := hs.addressable
  simp only [insert, Call.bind_apply, Call.get_apply, Report.andThen_value, Report.after_nil, Call.ite_apply,
    Call.alert_apply, Call.refuse_apply, gt_iff_lt, Call.sub_of_le (len_le_capacity hs), Call.done_apply]
  by_cases hfits : s.capacity - s.len < text.length
  · rw [if_pos hfits, if_pos hfits]
    rfl
  by_cases hpos : s.len < position
  · rw [if_neg hfits, if_neg hfits, if_pos hpos, if_pos hpos]
  rw [if_neg hfits, if_neg hfits, if_neg hpos, if_neg hpos]
  simp only [capacity] at hfits
  -- The end of the content goes up first; the gap it leaves still shows what was there.
  have hgap : ((s.storage.drop position).take text.length).length = text.length :=
    List.length_take_of_le (by rw [List.length_drop]; omega)
  have hpre : (s.content.take position).length = position := List.length_take_of_le (by omega)
  have htaken : s.storage.take (position + text.length) =
      s.content.take position ++ (s.storage.drop position).take text.length := by
    rw [List.take_add, content, List.take_take, Nat.min_eq_left (by omega)]
  have hmoved : copyWithin position s.len (position + text.length) s = ⟨.value (), s.written
      (s.content.take position ++ ((s.storage.drop position).take text.length ++ s.content.drop position)),
      [], []⟩ := by
    have hstored := store_behind (s := s) (s.content.drop position)
      (List.length_take_of_le (show position + text.length ≤ s.storage.length by omega)) (by simp; omega)
    rw [written_take (by omega)] at hstored
    rw [copyWithin_content hs (by omega), hstored, htaken, List.append_assoc]
  have hfull : (s.content.take position ++ (text ++ s.content.drop position)).length = s.len + text.length := by
    simp; omega
  rw [Call.add_of_lt (by omega), Call.add_of_lt (by omega)]
  simp only [Call.done_apply, Report.andThen_value, Report.after_nil, hmoved, Call.bind_apply,
    store_row _ _ hpre hgap, setLen_written (s := s) hfull (by omega),
    List.append_assoc]

theorem append_eq (hs : Sound s) (text : List UInt8) :
    append text s =
      if s.capacity - s.len < text.length then
        ⟨.error .noMemory, s, [.alert (.insertOverflow .string s.len text.length s.capacity)], []⟩
      else ⟨.value (), s.holding (s.content ++ text), [], []⟩ := by
  have hlen := length_content hs
  simp only [append, Call.bind_apply, Call.get_apply, Report.andThen_value, Report.after_nil, insert_eq hs,
    Nat.lt_irrefl, if_false, List.take_of_length_le (Nat.le_of_eq hlen),
    List.drop_eq_nil_of_le (Nat.le_of_eq hlen), List.append_nil]

theorem assign_eq (hs : Sound s) (text : List UInt8) :
    assign text s =
      if s.capacity < text.length then ⟨.error .noMemory, s, [], []⟩
      else ⟨.value (), s.holding text, [], []⟩ := by
  have hroom := hs.fits
  simp only [assign, Call.bind_apply, Call.get_apply, Report.andThen_value, Report.after_nil, Call.ite_apply,
    Call.refuse_apply, gt_iff_lt]
  by_cases hfits : s.capacity < text.length
  · rw [if_pos hfits, if_pos hfits]
  rw [if_neg hfits, if_neg hfits]
  simp only [capacity] at hfits
  have hstored := store_behind (s := s) text List.length_nil (by omega)
  rw [written_nil, List.nil_append] at hstored
  rw [hstored, Report.andThen_value, setLen_written rfl (by omega)]
  rfl

/-! ## Removing -/

theorem popBack_eq (hs : Sound s) :
    popBack s = ⟨.of s.content.getLast? (.error .notFound), s.holding s.content.dropLast, [], []⟩ := by
  have hlen := length_content hs
  have hroom := hs.fits
  simp only [popBack, Call.bind_apply, back_eq]
  cases h : s.content.getLast? with
  | none =>
    have hnil : s.content = [] := by simpa using h
    have hsame : s.holding [] = s := by simpa [hnil] using holding_content hs
    simp [hnil, hsame]
  | some last =>
    have hpos : 0 < s.content.length := List.length_pos_iff.mpr (by rintro hnil; simp [hnil] at h)
    have hcut : s.storage.take (s.len - 1) = s.content.dropLast := by
      rw [List.dropLast_eq_take, content, List.take_take, List.length_take]
      congr 1
      omega
    simp [Call.sub_of_le (show 1 ≤ s.len by omega), setLen_eq (s := s) (s.len - 1) (by omega), hcut]

theorem removeRange_eq (hs : Sound s) (bounds : Bounds) :
    removeRange bounds s =
      match bounds.resolve s.len with
      | .error kind => ⟨.error kind, s, [], []⟩
      | .ok (start, stop) =>
        ⟨.value (), s.holding (s.content.take start ++ s.content.drop stop), [], []⟩ := by
  have hlen := length_content hs
  have hroom := hs.fits
  simp only [removeRange, Call.bind_apply, Call.get_apply, Report.andThen_value, Report.after_nil]
  cases h : bounds.resolve s.len with
  | error kind => rfl
  | ok range =>
    obtain ⟨start, stop⟩ := range
    obtain ⟨hle, hstop⟩ := Bounds.resolve_le h
    have hpre : (s.content.take start).length = start := List.length_take_of_le (by omega)
    have htaken : s.content.take start = s.storage.take start := by
      rw [content, List.take_take, Nat.min_eq_left (by omega)]
    have hmoved := store_behind (s := s) (s.content.drop stop) hpre (by simp; omega)
    rw [htaken, written_take (by omega), ← htaken] at hmoved
    have hfull : (s.content.take start ++ s.content.drop stop).length = s.len - (stop - start) := by
      simp; omega
    rw [Call.ofExcept, Call.done_apply, Report.andThen_value, Call.bind_apply, copyWithin_content hs hstop,
      hmoved]
    simp only [Report.andThen_value, Report.after_nil, Call.bind_apply, Call.sub_of_le hle,
      Call.sub_of_le (show stop - start ≤ s.len by omega), Call.done_apply,
      setLen_written (s := s) hfull (by omega)]

theorem remove_eq (hs : Sound s) (position : Nat) :
    remove position s =
      ⟨.of s.content[position]? (.error .invalidArgument), s.holding (s.content.eraseIdx position), [], []⟩ := by
  have hlen := length_content hs
  simp only [remove, Call.bind_apply, Call.get_apply, Report.andThen_value, Report.after_nil]
  cases h : s.content[position]? with
  | none => simp [List.eraseIdx_of_length_le (List.getElem?_eq_none_iff.mp h), holding_content hs]
  | some b =>
    obtain ⟨hlt, -⟩ := List.getElem?_eq_some_iff.mp h
    have hword := hs.addressable
    have hroom := hs.fits
    simp [removeRange_eq hs, Bounds.resolve_single (show position < s.len by omega) (by omega),
      List.eraseIdx_eq_take_drop_succ]

/-- How a removal by predicate goes on: `done` are the bytes kept so far, written to the front, and
`xs` those still to be asked about. -/
theorem keepFrom_eq (hs : Sound s) (test : τ → UInt8 → Bool × τ) (position : Nat) (done xs : List UInt8)
    (t : τ) (hdone : done.length ≤ position) (hxs : s.content.drop position = xs) :
    keepFrom test position done.length t xs.length (s.written done) =
      ⟨.value ((done ++ kept test t xs).length, final test t xs), s.written (done ++ kept test t xs), [],
        xs.map .tested⟩ := by
  have hroom := hs.fits
  have hword := hs.addressable
  induction xs generalizing position done t with
  | nil => simp [keepFrom]
  | cons x xs ih =>
    obtain ⟨hlt, hx⟩ := List.getElem?_eq_some_iff.mp (show s.content[position]? = some x by
      rw [← List.head?_drop, hxs, List.head?_cons])
    have hlen := length_content hs
    have hrest : s.content.drop (position + 1) = xs := by rw [← List.tail_drop, hxs, List.tail_cons]
    have hb : s.storage[position]? = some x := by
      rw [← hx]
      simp [content, List.getElem?_eq_getElem (show position < s.storage.length by omega)]
    rw [List.length_cons, keepFrom, kept_cons, final_cons]
    simp only [Call.bind_apply, read_written hdone hb, Report.andThen_value, Report.after_nil,
      Call.record_apply, Call.ite_apply]
    split
    · simp [ih (position + 1) done (test t x).2 (by omega) hrest]
    · have hrec := ih (position + 1) (done ++ [x]) (test t x).2 (by simp; omega) hrest
      rw [List.length_append, List.length_singleton] at hrec
      have hput := store_behind (s := s) [x] (rfl : done.length = _) (by simp; omega)
      simp [hput, Call.add_of_lt (show done.length + 1 < wordLimit by omega), hrec]

theorem removeIf_eq (hs : Sound s) (test : τ → UInt8 → Bool × τ) (t : τ) :
    removeIf test t s =
      ⟨.value ((accepted test t s.content).length, final test t s.content),
        s.holding (kept test t s.content), [], s.content.map .tested⟩ := by
  have hlen := length_content hs
  have hroom := hs.fits
  have hsplit := length_kept_add_accepted test t s.content
  have hkept := keepFrom_eq hs test 0 [] s.content t (Nat.le_refl 0) rfl
  rw [List.length_nil, written_nil, hlen, List.nil_append] at hkept
  have hclosed := setLen_written (s := s) (rfl : (kept test t s.content).length = _) (by omega)
  have hremoved : s.len - (kept test t s.content).length = (accepted test t s.content).length := by omega
  simp [removeIf, hkept, hclosed, hremoved,
    Call.sub_of_le (show (kept test t s.content).length ≤ s.len by omega)]

end FixedCapacity.ByteString
