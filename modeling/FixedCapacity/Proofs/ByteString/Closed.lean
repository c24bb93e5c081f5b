/-
  FixedCapacity.Proofs.ByteString.Closed — strings as a content, its NUL and a rest.

  `Sound` is what every string keeps: the length is within the capacity and the byte at the
  length is NUL. `s.holding bytes` is the same storage with another content: the bytes and
  the NUL are written over the first ones and everything behind stays. The calls on a string
  leave it so, whatever they write in between: the last step of each is `setLen`, over a
  storage that begins with the new content (`setLen_written`).
-/

import FixedCapacity.Proofs.Call
import FixedCapacity.ByteString.Create

namespace FixedCapacity.ByteString

open Call (wordLimit)

/-- The string with this content and these bytes behind its NUL. -/
def closed (bytes rest : List UInt8) : ByteString := ⟨bytes ++ 0 :: rest, bytes.length⟩

/-- The string over the same storage with another content. -/
def holding (s : ByteString) (bytes : List UInt8) : ByteString :=
  closed bytes (s.storage.drop (bytes.length + 1))

/-- What every string keeps between calls. -/
structure Sound (s : ByteString) : Prop where
  fits : s.len < s.storage.length
  terminated : s.storage[s.len]? = some 0
  addressable : s.storage.length < wordLimit

section Closed

variable (bytes rest : List UInt8)

@[simp] theorem storage_closed : (closed bytes rest).storage = bytes ++ 0 :: rest := by simp only [closed]
@[simp] theorem len_closed : (closed bytes rest).len = bytes.length := by simp only [closed]
@[simp] theorem content_closed : (closed bytes rest).content = bytes := by simp [content]
@[simp] theorem capacity_closed : (closed bytes rest).capacity = bytes.length + rest.length := by
  simp [capacity]

theorem sound_closed (h : bytes.length + rest.length + 1 < wordLimit) : Sound (closed bytes rest) :=
  ⟨by simp, by simp, by simp; omega⟩

theorem empty_eq_closed (capacity : Nat) : empty capacity = closed [] (List.replicate capacity 0) := by
  simp [empty, closed, List.replicate_succ]

end Closed

theorem sound_iff {s : ByteString} :
    Sound s ↔ ∃ bytes rest, s = closed bytes rest ∧ bytes.length + rest.length + 1 < wordLimit := by
  constructor
  · rintro ⟨hfits, hterminated, haddressable⟩
    obtain ⟨storage, len⟩ := s
    obtain ⟨hlt, hnul⟩ := List.getElem?_eq_some_iff.mp hterminated
    have hlen : (storage.take len).length = len := List.length_take_of_le (Nat.le_of_lt hlt)
    refine ⟨storage.take len, storage.drop (len + 1), ?_, ?_⟩
    · rw [closed, hlen, ← hnul, List.getElem_cons_drop, List.take_append_drop]
    · simp only [hlen, List.length_drop] at hfits haddressable ⊢
      omega
  · rintro ⟨bytes, rest, rfl, h⟩
    exact sound_closed bytes rest h

section Holding

variable {s : ByteString} {bytes : List UInt8}

@[simp] theorem content_holding : (s.holding bytes).content = bytes := content_closed _ _
@[simp] theorem len_holding : (s.holding bytes).len = bytes.length := len_closed _ _

theorem length_content (hs : Sound s) : s.content.length = s.len :=
  List.length_take_of_le (Nat.le_of_lt hs.fits)

theorem capacity_holding (hs : Sound s) (h : bytes.length ≤ s.capacity) :
    (s.holding bytes).capacity = s.capacity := by
  have := hs.fits
  simp only [capacity] at h ⊢
  simp only [holding, storage_closed, List.length_append, List.length_cons, List.length_drop]
  omega

theorem len_le_capacity (hs : Sound s) : s.len ≤ s.capacity := Nat.le_sub_one_of_lt hs.fits

theorem holding_content (hs : Sound s) : s.holding s.content = s := by
  obtain ⟨bytes, rest, rfl, -⟩ := sound_iff.mp hs
  simp [holding]

/-- A longer content leaves nothing to see of a shorter one. -/
theorem holding_holding {longer : List UInt8} (h : bytes.length ≤ longer.length) :
    (s.holding bytes).holding longer = s.holding longer := by
  have hcut : (bytes ++ 0 :: s.storage.drop (bytes.length + 1)).drop (longer.length + 1) =
      s.storage.drop (longer.length + 1) := by
    obtain ⟨n, hn⟩ := Nat.exists_eq_add_of_le h
    rw [List.drop_append, List.drop_eq_nil_of_le (by omega), List.nil_append, hn,
      show bytes.length + n + 1 - bytes.length = n + 1 by omega, List.drop_succ_cons, List.drop_drop]
    congr 1
    omega
  simp only [holding, storage_closed, hcut]

theorem sound_holding (hs : Sound s) (h : bytes.length ≤ s.capacity) : Sound (s.holding bytes) := by
  have hfits := hs.fits
  have haddressable := hs.addressable
  simp only [capacity] at h
  refine sound_closed _ _ ?_
  rw [List.length_drop]
  omega

theorem sound_holding_nil (hs : Sound s) : Sound (s.holding []) := sound_holding hs (Nat.zero_le _)

theorem capacity_holding_nil (hs : Sound s) : (s.holding []).capacity = s.capacity :=
  capacity_holding hs (Nat.zero_le _)

end Holding

/-! ## The storage -/

/-- The string with other first bytes in its storage, and everything else as it is. -/
def written (s : ByteString) (bytes : List UInt8) : ByteString :=
  ⟨bytes ++ s.storage.drop bytes.length, s.len⟩

section Written

variable {s : ByteString} {bytes : List UInt8}

@[simp] theorem len_written : (s.written bytes).len = s.len := rfl

theorem written_take {n : Nat} (h : n ≤ s.storage.length) : s.written (s.storage.take n) = s := by
  simp [written, Nat.min_eq_left h]

theorem written_content (hs : Sound s) : s.written s.content = s := written_take (Nat.le_of_lt hs.fits)

theorem written_nil : s.written [] = s := rfl

/-- Bytes of the length of the content, written over it, become the content. -/
theorem written_eq_holding (hs : Sound s) (h : bytes.length = s.len) : s.written bytes = s.holding bytes := by
  obtain ⟨content, rest, rfl, -⟩ := sound_iff.mp hs
  rw [len_closed] at h
  simp [written, holding, h]
  simp [closed, h]

/-- Writing on behind what is written. -/
theorem store_behind {position : Nat} (text : List UInt8) (hbehind : bytes.length = position)
    (h : position + text.length ≤ s.storage.length) :
    store position text (s.written bytes) = ⟨.value (), s.written (bytes ++ text), [], []⟩ := by
  subst hbehind
  have hfits : text.length ≤ s.storage.length - bytes.length := by omega
  simp [store, written, hfits, List.drop_append]

/-- Writing over a row within what is written. -/
theorem store_row {position : Nat} (pre post : List UInt8) {row text : List UInt8}
    (hpre : pre.length = position) (h : row.length = text.length) :
    store position text (s.written (pre ++ (row ++ post))) =
      ⟨.value (), s.written (pre ++ (text ++ post)), [], []⟩ := by
  subst hpre
  simp [store, written, h, List.drop_append]

theorem read_written {position : Nat} {b : UInt8} (h : bytes.length ≤ position)
    (hb : s.storage[position]? = some b) : read position (s.written bytes) =
      ⟨.value b, s.written bytes, [], []⟩ := by
  have hread : (s.written bytes).storage[position]? = some b := by
    rw [written, List.getElem?_append_right h, List.getElem?_drop, Nat.add_sub_cancel' h, hb]
  simp [read, hread]

/-- Closing a storage behind what is written. -/
theorem setLen_written {len : Nat} (hlen : bytes.length = len) (h : len < s.storage.length) :
    setLen len (s.written bytes) = ⟨.value (), s.holding bytes, [], []⟩ := by
  rw [setLen, Call.bind_apply, store_behind [0] hlen (by simpa using h)]
  subst hlen
  simp [written, holding, closed]

theorem setLen_eq (len : Nat) (h : len < s.storage.length) :
    setLen len s = ⟨.value (), s.holding (s.storage.take len), [], []⟩ := by
  have hwritten := setLen_written (List.length_take_of_le (Nat.le_of_lt h)) h
  rwa [written_take (Nat.le_of_lt h)] at hwritten

/-- Copying the end of the content. -/
theorem copyWithin_content (hs : Sound s) {start : Nat} (h : start ≤ s.len) (target : Nat) :
    copyWithin start s.len target s = store target (s.content.drop start) s := by
  simp [copyWithin, h, Nat.le_of_lt hs.fits, content, List.drop_take]

end Written

end FixedCapacity.ByteString
