/-
  FixedCapacity.Proofs.ByteString.Terminator — a string is closed by a NUL at any time.

  `Storage` are the strings a caller starts from. Making one leaves it sound, whatever bytes
  lay in its storage (`Storage.create_sound`), and so does every call, the failing ones and
  those that end in a violation included (`run_sound`). A sound string reads as a C string up
  to the first NUL of its content (`sound_terminated`).
-/

import FixedCapacity.Proofs.ByteString.Action
import FixedCapacity.Region.View

namespace FixedCapacity.ByteString

open Call (wordLimit)

/-! ## Calls -/

/-- No call on the content goes beyond the capacity. -/
theorem length_onBytes_le (action : Action) {capacity : Nat} {xs : List UInt8} (h : xs.length ≤ capacity) :
    (action.onBytes capacity xs).state.length ≤ capacity := by
  have hinsert (xs : List UInt8) (h : xs.length ≤ capacity) (position : Nat) (text : List UInt8) :
      (ListReport.insertText capacity xs position text).state.length ≤ capacity := by
    simp only [ListReport.insertText]
    repeat' split
    all_goals simp; omega
  cases action with
  | rewrite change => exact (length_rewritten change xs).trans_le h
  | clear => exact Nat.zero_le _
  | resize len =>
    simp only [Action.onBytes, ListReport.resizeText]
    split
    · exact h
    · simp; omega
  | insert position text => exact hinsert xs h position text
  | append text => exact hinsert xs h xs.length text
  | push b => exact hinsert xs h xs.length [b]
  | appendAll texts => exact length_appending_le texts h
  | assign text =>
    simp only [Action.onBytes, ListReport.replaceText]
    split
    · exact h
    · simp; omega
  | popBack => simp [Action.onBytes, ListReport.found]; omega
  | remove position => exact (List.length_eraseIdx_le _ _).trans h
  | removeIf test t =>
    have := Predicate.length_kept_add_accepted test t xs
    simp only [Action.onBytes]
    omega
  | removeRange bounds =>
    simp only [Action.onBytes, ListReport.removeSpan]
    split
    · exact h
    · rename_i hr
      have := Bounds.resolve_le hr
      simp; omega
  | write pieces => exact length_appending_le _ h
  | format pieces | convert pieces =>
    simp only [Action.onBytes, ListReport.formatText]
    split
    · exact length_appending_nil_le _ _
    · exact Nat.zero_le _
  | encodeHex source =>
    simp only [Action.onBytes, ListReport.encodeText]
    split
    · exact h
    · simp [Text.Hex.encode, Text.Hex.ofByte, List.length_flatMap]; omega
  | search engine source pattern group =>
    simp only [Action.onBytes, ListReport.searchText]
    repeat' split
    · exact h
    · exact h
    · exact hinsert [] (Nat.zero_le _) 0 _
  | _ => simpa [Action.onBytes, ListReport.found, ListReport.search] using h

/-- What a call leaves holds its content, over storage of the same size. -/
theorem leaves_sound (action : Action) {s : ByteString} (hs : Sound s) {ys : List UInt8}
    (h : ys.length ≤ s.capacity) :
    Sound (action.leaves s ys) ∧ (action.leaves s ys).capacity = s.capacity ∧
      (action.leaves s ys).content = ys := by
  have hkept : Sound (s.holding ys) ∧ (s.holding ys).capacity = s.capacity ∧ (s.holding ys).content = ys :=
    ⟨sound_holding hs h, capacity_holding hs h, content_holding⟩
  cases action with
  | format pieces | convert pieces =>
    simp only [Action.leaves]
    split
    · exact hkept
    · have hwritten := length_appending_nil_le s.capacity (pieces.map Text.encode)
      have hcapacity := capacity_holding hs hwritten
      refine ⟨sound_holding (sound_holding hs hwritten) (by rwa [hcapacity]), ?_, content_holding⟩
      rw [capacity_holding (sound_holding hs hwritten) (by rwa [hcapacity]), hcapacity]
  | _ => exact hkept

theorem run_sound (action : Action) {s : ByteString} (hs : Sound s) :
    Sound (action.run s).state ∧ (action.run s).state.capacity = s.capacity ∧
      (action.run s).state.content = (action.onBytes s.capacity s.content).state := by
  have hfits : s.content.length ≤ s.capacity := (length_content hs).trans_le (len_le_capacity hs)
  rw [Action.run_eq action hs]
  exact leaves_sound action hs (length_onBytes_le action hfits)

/-! ## The strings to start from -/

/-- Where the storage of a string lies, and what it holds before the first call. -/
inductive Storage where
  | inline (capacity : Nat)
  | inlineOf (capacity : Nat) (text : List UInt8)
  | allocated (capacity : Nat) (allocator : Memory.Allocator)
  | borrowed (memory : List UInt8)
  | bound (region : Region)

namespace Storage

/-- How many bytes there are for content and NUL. -/
def size : Storage → Nat
  | inline capacity | inlineOf capacity _ | allocated capacity _ => capacity + 1
  | borrowed memory => memory.length
  | bound region => region.size

/-- The content at the start. -/
def content : Storage → List UInt8
  | inlineOf _ text => text
  | _ => []

/-- Makes the string; there may be no room for the text or for the NUL, and an allocation may be
refused. -/
def create : Storage → Call Unit UInt8 ByteString
  | inline capacity => pure (empty capacity)
  | inlineOf capacity text => ofBytes capacity text
  | allocated capacity allocator => allocate capacity allocator
  | borrowed memory => borrow memory
  | bound region => region.bindString

theorem empty_sound {capacity : Nat} (h : capacity + 1 < wordLimit) :
    Sound (empty capacity) ∧ (empty capacity).capacity = capacity ∧ (empty capacity).content = [] := by
  rw [empty_eq_closed]
  exact ⟨sound_closed [] _ (by simpa using h), by simp, by simp⟩

theorem borrow_sound {memory : List UInt8} (hw : memory.length < wordLimit) {s : ByteString}
    (hs : ((borrow memory : Call Unit UInt8 ByteString) ()).outcome = .value s) :
    Sound s ∧ s.capacity = memory.length - 1 ∧ s.content = [] := by
  cases memory with
  | nil => cases hs
  | cons b memory =>
    have hclear : clear ⟨b :: memory, 0⟩ = ⟨.value (), closed [] memory, [], []⟩ :=
      setLen_eq 0 (Nat.zero_lt_succ _)
    simp only [borrow, List.isEmpty_cons, Bool.false_eq_true, if_false, Call.buildPlain, hclear] at hs
    cases hs
    exact ⟨sound_closed [] memory (by simpa using hw), by simp, by simp⟩

theorem ofBytes_sound {capacity : Nat} (hw : capacity + 1 < wordLimit) {text : List UInt8} {s : ByteString}
    (hs : ((ofBytes capacity text : Call Unit UInt8 ByteString) ()).outcome = .value s) :
    Sound s ∧ s.capacity = capacity ∧ s.content = text := by
  obtain ⟨hsound, hcapacity, -⟩ := empty_sound hw
  by_cases h : capacity < text.length
  · simp [ofBytes, Call.buildPlain, assign_eq hsound, hcapacity, h] at hs
  · have hfits : text.length ≤ (empty capacity).capacity := by omega
    simp only [ofBytes, Call.buildPlain, assign_eq hsound, hcapacity, if_neg h] at hs
    cases hs
    exact ⟨sound_holding hsound hfits, (capacity_holding hsound hfits).trans hcapacity, content_holding⟩

theorem create_sound {storage : Storage} (hw : storage.size < wordLimit) {s : ByteString}
    (hs : (storage.create ()).outcome = .value s) :
    Sound s ∧ s.capacity = storage.size - 1 ∧ s.content = storage.content := by
  cases storage with
  | inline capacity =>
    cases hs
    exact empty_sound hw
  | inlineOf capacity text => exact ofBytes_sound hw hs
  | allocated capacity allocator =>
    have hword : capacity + 1 < wordLimit := hw
    by_cases h : allocator (capacity + 1)
    · simp [create, allocate, hword, h] at hs
      cases hs
      exact empty_sound hw
    · simp [create, allocate, hword, h] at hs
  | borrowed memory => exact borrow_sound hw hs
  | bound region =>
    refine borrow_sound hw ?_
    simpa [create, Region.bindString] using hs

end Storage

/-! ## Runs -/

/-- A string of a given capacity with its NUL in place. -/
structure Terminated (capacity : Nat) (s : ByteString) : Prop where
  fits : s.len ≤ capacity
  sized : s.capacity = capacity
  closed : s.storage[s.len]? = some 0
  nul_found : 0 ∈ s.storage.take (s.len + 1)
  cString : s.cString = s.content.takeWhile (· ≠ 0)
  cString_whole : s.cString.length = s.len ↔ 0 ∉ s.content

theorem takeWhile_closed (xs : List UInt8) : (xs ++ [0]).takeWhile (· ≠ 0) = xs.takeWhile (· ≠ 0) := by
  rw [List.takeWhile_append]
  by_cases h : (xs.takeWhile (· ≠ 0)).length = xs.length
  · rw [if_pos h, (List.takeWhile_prefix _).eq_of_length h]
    simp
  · rw [if_neg h]

theorem length_takeWhile_eq (xs : List UInt8) : (xs.takeWhile (· ≠ 0)).length = xs.length ↔ 0 ∉ xs := by
  constructor
  · intro h hmem
    have hall := List.takeWhile_eq_self_iff.mp ((List.takeWhile_prefix _).eq_of_length h) 0 hmem
    simp at hall
  · intro h
    have hall (b : UInt8) (hb : b ∈ xs) : decide (b ≠ 0) = true :=
      decide_eq_true (ne_of_mem_of_not_mem hb h)
    rw [List.takeWhile_eq_self_iff.mpr hall]

theorem sound_terminated {s : ByteString} (hs : Sound s) : Terminated s.capacity s := by
  obtain ⟨xs, rest, rfl, -⟩ := sound_iff.mp hs
  have htaken : (xs ++ 0 :: rest).take (xs.length + 1) = xs ++ [0] := by simp [List.take_append]
  have hcString : (closed xs rest).cString = xs.takeWhile (· ≠ 0) := by
    rw [cString, storage_closed, len_closed, htaken, if_pos (by simp), takeWhile_closed]
  refine ⟨len_le_capacity hs, rfl, hs.terminated, by simp [htaken], by simpa using hcString, ?_⟩
  rw [hcString, len_closed, content_closed]
  exact length_takeWhile_eq xs

theorem history_terminated (actions : List Action) {s : ByteString} (hs : Sound s) :
    ∀ r ∈ Call.history (actions.map Action.run) s, Terminated s.capacity r.state := by
  induction actions generalizing s with
  | nil => simp [Call.history]
  | cons action actions ih =>
    obtain ⟨hsound, hcapacity, -⟩ := run_sound action hs
    intro r hr
    rcases List.mem_cons.mp hr with rfl | hr
    · exact hcapacity ▸ sound_terminated hsound
    · exact hcapacity ▸ ih hsound r hr

/-- Whatever storage a string starts from, it is closed by a NUL before the first call and after every
call of every sequence. -/
theorem strings_stay_terminated (storage : Storage) (hw : storage.size < wordLimit) {s : ByteString}
    (hs : (storage.create ()).outcome = .value s) (actions : List Action) :
    Terminated (storage.size - 1) s ∧
      ∀ r ∈ Call.history (actions.map Action.run) s, Terminated (storage.size - 1) r.state := by
  obtain ⟨hsound, hcapacity, -⟩ := Storage.create_sound hw hs
  rw [← hcapacity]
  exact ⟨sound_terminated hsound, history_terminated actions hsound⟩

/-- Two bytes of garbage with one for the NUL: text that fits, text that does not, a NUL written into
the content, and a conversion that violates its contract. -/
theorem strings_stay_terminated_of_three :
    (Storage.borrowed [7, 8, 9]).size < wordLimit ∧
      ((Storage.borrowed [7, 8, 9]).create ()).outcome = .value ⟨[0, 8, 9], 0⟩ ∧
      let actions : List Action :=
        [.append [65, 66], .push 67, .rewrite fun _ => [0], .convert [['1', '2', '3']], .encodeHex [255]]
      Terminated 2 ⟨[0, 8, 9], 0⟩ ∧
        ∀ r ∈ Call.history (actions.map Action.run) ⟨[0, 8, 9], 0⟩, Terminated 2 r.state :=
  ⟨by decide, rfl, strings_stay_terminated (.borrowed [7, 8, 9]) (by decide) rfl _⟩

end FixedCapacity.ByteString
