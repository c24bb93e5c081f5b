/-
  FixedCapacity.Proofs.Region.StringView — what a string over a region does to the bytes.

  The storage of such a string is the region. Whoever reads the region finds the content and
  a NUL at its start; what lies behind the NUL was left there by earlier calls, or by whoever
  had the region before.

  A call that succeeds writes up to its NUL and not beyond (`run_behind`). A call that fails
  writes nothing, but for three kinds. Formatted text that is taken back has been written as
  far as it fitted. A search copies into a string that it has emptied. Texts appended and
  pieces written one after another stand up to the one that did not fit. `use_framed` says so
  of one use of the string, and `bound_string_frames_region` of each use in any sequence; the
  last two kinds do write (`failing_uses_write_region`).
-/

import FixedCapacity.Proofs.Atomic

namespace FixedCapacity.ByteString

variable {s : ByteString}

/-! ## One call -/

/-- Behind the NUL of another content the storage is as it was. -/
theorem getElem?_holding {bytes : List UInt8} {i : Nat} (hi : bytes.length < i) :
    (s.holding bytes).storage[i]? = s.storage[i]? := by
  obtain ⟨n, rfl⟩ := Nat.exists_eq_add_of_lt hi
  rw [holding, storage_closed, List.getElem?_append_right (by omega),
    show bytes.length + n + 1 - bytes.length = n + 1 by omega, List.getElem?_cons_succ,
    List.getElem?_drop]
  congr 1
  omega

theorem storage_holding_nil (hs : Sound s) : (s.holding []).storage = s.storage.set 0 0 := by
  obtain ⟨b, rest, hstorage⟩ := List.exists_cons_of_length_pos (Nat.zero_lt_of_lt hs.fits)
  rw [holding, storage_closed, hstorage]
  rfl

/-- Text that was formatted whole is all that is written. -/
theorem leaves_of_value (action : Action) {xs ys : List UInt8} {answer : Answer UInt8}
    (hvalue : (action.onBytes s.capacity xs).outcome = .value answer) :
    action.leaves s ys = s.holding ys := by
  cases action with
  | format pieces | convert pieces =>
    simp only [Action.onBytes, ListReport.formatText] at hvalue
    split at hvalue
    case isTrue h => exact if_pos h
    case isFalse => cases hvalue
  | _ => rfl

/-- A call that succeeds changes nothing behind its NUL. -/
theorem run_behind (hs : Sound s) (action : Action) {answer : Answer UInt8}
    (hvalue : (action.run s).outcome = .value answer) {i : Nat} (hi : (action.run s).state.len < i) :
    (action.run s).state.storage[i]? = s.storage[i]? := by
  rw [Action.run_eq action hs] at hvalue hi ⊢
  rw [Report.state_on, leaves_of_value action hvalue] at hi ⊢
  rw [len_holding] at hi
  exact getElem?_holding hi

/-- What is left of text that did not fit: a NUL in front of what was written of it. -/
theorem formatted_behind (hs : Sound s) (pieces : List (List Char)) :
    let left := (s.holding (appending s.capacity (pieces.map Text.encode) []).1).holding []
    left.storage[0]? = some 0 ∧
      ∀ i, (∀ k, (write (pieces.take k) (clear s).state).state.len < i) → left.storage[i]? = s.storage[i]? := by
  refine ⟨by rw [holding, storage_closed]; rfl, fun i hi => ?_⟩
  -- Of all the lengths on the way, the last one is where writing stopped.
  have hreached := hi pieces.length
  rw [List.take_length, clear_eq hs, write_eq (sound_holding_nil hs), capacity_holding_nil hs,
    content_holding] at hreached
  rw [getElem?_holding (Nat.zero_lt_of_lt hreached)]
  exact getElem?_holding (by simpa using hreached)

theorem format_stopped (hs : Sound s) {pieces : List (List Char)} {action : Action}
    (haction : action = .format pieces ∨ action = .convert pieces)
    (hfail : ∀ answer, (action.run s).outcome ≠ .value answer) :
    (action.run s).state = (s.holding (appending s.capacity (pieces.map Text.encode) []).1).holding [] := by
  rw [Action.run_eq action hs] at hfail ⊢
  rcases haction with rfl | rfl
  all_goals
    simp only [Report.on, Action.onBytes, ListReport.formatText, Action.leaves] at hfail ⊢
    split at hfail
    case isTrue => exact absurd rfl (hfail _)
    case isFalse h => simp only [h, Bool.false_eq_true, if_false]

/-- A search that fails leaves its destination alone, or empties it for a copy that does not fit. -/
theorem search_failed (hs : Sound s) (engine : Engine) (source : ByteString) (pattern : String) (group : Nat)
    (hfail : ∀ answer, ((Action.search engine source pattern group).run s).outcome ≠ .value answer) :
    ((Action.search engine source pattern group).run s).outcome ≠ .error .noMemory ∧
        ((Action.search engine source pattern group).run s).state = s ∨
      ((Action.search engine source pattern group).run s).outcome = .error .noMemory ∧
        ((Action.search engine source pattern group).run s).state = s.holding [] := by
  rw [Action.run_eq _ hs] at hfail ⊢
  simp only [Report.on, Action.onBytes, Action.leaves, ListReport.searchText] at hfail ⊢
  cases hengine : engine pattern with
  | none => exact .inl ⟨by simp, holding_content hs⟩
  | some find =>
    cases hcaptured : captured find source group with
    | none =>
      simp only [hcaptured]
      exact .inl ⟨by simp, holding_content hs⟩
    | some text =>
      simp only [hengine, hcaptured, ListReport.insertText, List.length_nil, Nat.sub_zero, Nat.lt_irrefl,
        if_false] at hfail ⊢
      split at hfail
      case isTrue h =>
        rw [if_pos h]
        exact .inr ⟨rfl, rfl⟩
      case isFalse => exact absurd rfl (hfail _)

/-! ## Sequences of uses -/

theorem length_storage_eq {t : ByteString} (hs : Sound s) (ht : Sound t) (h : s.capacity = t.capacity) :
    s.storage.length = t.storage.length := by
  have hpos := hs.fits
  have hpos' := ht.fits
  simp only [capacity] at h
  omega

theorem Use.run_sound (use : Use) (hs : Sound s) :
    Sound (use.run s).state ∧ (use.run s).state.storage.length = s.storage.length := by
  cases use with
  | look look => exact ⟨hs, rfl⟩
  | call action =>
    obtain ⟨hsound, hcapacity, -⟩ := ByteString.run_sound action hs
    have hcall : (Use.call action).run s = (Sight.answer <$> action.run) s := rfl
    rw [hcall, Call.map_apply]
    exact ⟨hsound, length_storage_eq hsound hs hcapacity⟩

theorem final_sound (uses : List Use) (hs : Sound s) :
    Sound (Call.final (uses.map Use.run) s) ∧
      (Call.final (uses.map Use.run) s).storage.length = s.storage.length := by
  induction uses generalizing s with
  | nil => exact ⟨hs, rfl⟩
  | cons use uses ih =>
    obtain ⟨hsound, hlength⟩ := use.run_sound hs
    obtain ⟨hfinal, hrest⟩ := ih hsound
    exact ⟨hfinal, hrest.trans hlength⟩

end FixedCapacity.ByteString

namespace FixedCapacity.Region

open Call (wordLimit)
open ByteString (Sound Use Sight Action Interrupted)

variable {r : Region} {s : ByteString}

/-- The uses that neither format nor copy out of another string, and that write one text at most. -/
def Simple : Use → Prop
  | .call action => action.Plain
  | .look _ => True

/-- What a use of the string `s` makes of the region under it. -/
structure StringFramed (s : ByteString) (use : Use) (before after : Region) : Prop where
  size : after.size = before.size
  shown : after.bytes.take ((use.run s).state.len + 1) = (use.run s).state.content ++ [0]
  /-- A use that succeeds changes nothing behind its NUL. -/
  behind : ∀ sight, (use.run s).outcome = .value sight → ∀ i, (use.run s).state.len < i →
    after.bytes[i]? = before.bytes[i]?
  /-- A use that fails changes nothing, if it is none of those below. -/
  refused : Simple use → (∀ sight, (use.run s).outcome ≠ .value sight) → after = before
  /-- Text that does not fit is taken back: it was written to no byte beyond the lengths on the way. -/
  formatted : ∀ pieces, use = .call (.format pieces) ∨ use = .call (.convert pieces) →
    (∀ sight, (use.run s).outcome ≠ .value sight) →
    after.bytes[0]? = some 0 ∧
      ∀ i, (∀ k, (ByteString.write (pieces.take k) (ByteString.clear s).state).state.len < i) →
        after.bytes[i]? = before.bytes[i]?
  /-- The destination of another string's search is emptied for a copy that does not fit, and left alone by
  any other failure. -/
  copied : ∀ engine source pattern group, use = .call (.search engine source pattern group) →
    (∀ sight, (use.run s).outcome ≠ .value sight) →
    (use.run s).outcome ≠ .error .noMemory ∧ after = before ∨
      (use.run s).outcome = .error .noMemory ∧ after.bytes = before.bytes.set 0 0
  /-- Of texts appended one after another, the one that does not fit changes nothing. -/
  chained : ∀ texts, use = .call (.appendAll texts) → (∀ sight, (use.run s).outcome ≠ .value sight) →
    Interrupted s texts (use.run s).state
  written : ∀ pieces, use = .call (.write pieces) → (use.run s).outcome = .value (.answer (.flag false)) →
    Interrupted s (pieces.map Text.encode) (use.run s).state

/-- The bytes up to the length and the NUL there. -/
theorem take_storage (hs : Sound s) : s.storage.take (s.len + 1) = s.content ++ [0] := by
  obtain ⟨bytes, rest, rfl, -⟩ := ByteString.sound_iff.mp hs
  simp [List.take_append]

/-- A call is used for its answer. -/
theorem use_call (action : Action) (s : ByteString) :
    ((Use.call action).run s).outcome = (action.run s).outcome.map .answer ∧
      ((Use.call action).run s).state = (action.run s).state := by
  have hcall : (Use.call action).run s = (Sight.answer <$> action.run) s := rfl
  rw [hcall, Call.map_apply]
  exact ⟨rfl, rfl⟩

theorem answer_of_sight {action : Action} {sight : Sight}
    (hvalue : ((Use.call action).run s).outcome = .value sight) :
    ∃ answer, (action.run s).outcome = .value answer ∧ sight = .answer answer := by
  rw [(use_call action s).1] at hvalue
  cases hanswer : (action.run s).outcome with
  | value answer =>
    rw [hanswer] at hvalue
    cases hvalue
    exact ⟨answer, rfl, rfl⟩
  | error kind => rw [hanswer] at hvalue; cases hvalue
  | violation v => rw [hanswer] at hvalue; cases hvalue

theorem failed_call {action : Action} (hfail : ∀ sight, ((Use.call action).run s).outcome ≠ .value sight) :
    ∀ answer, (action.run s).outcome ≠ .value answer := by
  intro answer hvalue
  refine hfail (.answer answer) ?_
  rw [(use_call action s).1, hvalue, Outcome.map_value]

theorem error_of_call {action : Action} {kind : Error.Kind} :
    ((Use.call action).run s).outcome = .error kind ↔ (action.run s).outcome = .error kind := by
  rw [(use_call action s).1]
  cases (action.run s).outcome <;> simp [Outcome.map]

theorem use_framed (hs : Sound s) (use : Use) (r : Region) :
    StringFramed s use (underString s r) (underString (use.run s).state r) := by
  obtain ⟨hsound, hlength⟩ := use.run_sound hs
  have hatomic := ByteString.atomic hs
  constructor
  case size => exact hlength
  case shown => exact take_storage hsound
  case behind =>
    intro sight hvalue i hi
    cases use with
    | look look => rfl
    | call action =>
      obtain ⟨answer, hanswer, -⟩ := answer_of_sight hvalue
      rw [(use_call action s).2] at hi ⊢
      exact ByteString.run_behind hs action hanswer hi
  case refused =>
    intro hsimple hfail
    cases use with
    | look look => rfl
    | call action => rw [(use_call action s).2, (hatomic.calls action hsimple (failed_call hfail)).1]
  case formatted =>
    intro pieces huse hfail
    have hleft := ByteString.formatted_behind hs pieces
    rcases huse with rfl | rfl
    · rw [(use_call _ s).2, ByteString.format_stopped hs (.inl rfl) (failed_call hfail)]
      exact hleft
    · rw [(use_call _ s).2, ByteString.format_stopped hs (.inr rfl) (failed_call hfail)]
      exact hleft
  case copied =>
    rintro engine source pattern group rfl hfail
    rw [ne_eq, error_of_call, (use_call _ s).2]
    rcases ByteString.search_failed hs engine source pattern group (failed_call hfail) with ⟨hother, h⟩ | ⟨hmemory, h⟩
    · exact .inl ⟨hother, by rw [h]⟩
    · rw [h]
      exact .inr ⟨hmemory, ByteString.storage_holding_nil hs⟩
  case chained =>
    rintro texts rfl hfail
    rw [(use_call _ s).2]
    exact hatomic.appends texts (failed_call hfail)
  case written =>
    rintro pieces rfl hstopped
    obtain ⟨answer, hanswer, hflag⟩ := answer_of_sight hstopped
    cases hflag
    rw [(use_call _ s).2]
    exact hatomic.writes pieces hanswer

/-! ## Laying a string over a region -/

/-- What laying a string over a region comes to. -/
structure BindsString (r : Region) (s : ByteString) : Prop where
  bound : ((r.bindString : Call Region UInt8 ByteString) r).outcome = .value s
  borrowed : ((ByteString.borrow r.bytes : Call Region UInt8 ByteString) r).outcome = .value s
  empty : s.content = [] ∧ s.len = 0 ∧ s.capacity = r.size - 1
  /-- All it takes is a NUL at the start. -/
  start : underString s r = { r with bytes := r.bytes.set 0 0 }
  /-- After any uses, the region has its size and the next use is framed. -/
  uses : ∀ (uses : List Use) (next : Use),
    let now := Call.final (uses.map Use.run) s
    (underString now r).size = r.size ∧
      StringFramed now next (underString now r) (underString (next.run now).state r)

/-- A string over a region writes its content and a NUL, and leaves the rest of the region alone. -/
theorem bound_string_frames_region (r : Region) (hsome : 0 < r.size) (hsize : r.size < wordLimit) :
    ∃ s, BindsString r s := by
  obtain ⟨b, rest, hbytes⟩ : ∃ b rest, r.bytes = b :: rest := List.exists_cons_of_length_pos hsome
  have hlength : r.size = rest.length + 1 := congrArg List.length hbytes
  have hborrowed : (ByteString.borrow r.bytes : Call Region UInt8 ByteString) r =
      ⟨.value (.closed [] rest), r, [], []⟩ := by
    rw [hbytes]
    rfl
  have hs : Sound (.closed [] rest) := ByteString.sound_closed [] rest (by simp; omega)
  refine ⟨.closed [] rest, ?_, ?_, ⟨by simp, by simp, by simp [hlength]⟩, ?_, ?_⟩
  · rw [bindString, Call.bind_apply, Call.enter_apply, Report.andThen_value, hborrowed]
    rfl
  · rw [hborrowed]
  · rw [underString, ByteString.storage_closed, hbytes]
    rfl
  · intro uses next now
    obtain ⟨hnow, hstorage⟩ := ByteString.final_sound uses hs
    refine ⟨?_, use_framed hnow next r⟩
    rw [ByteString.storage_closed] at hstorage
    exact hstorage.trans hlength.symm

/-- Four bytes of garbage: two bytes of text of which one is taken off again, then text of which only
the first piece fits. -/
theorem bound_string_frames_region_of_four :
    let r : Region := ⟨[7, 8, 9, 10], 3⟩
    let uses : List Use := [.call (.append [65, 66]), .call .popBack]
    let next : Use := .call (.format [['1'], ['2', '3', '4']])
    0 < r.size ∧ r.size < wordLimit ∧ ∃ s, BindsString r s ∧
      let now := Call.final (uses.map Use.run) s
      (underString now r).bytes = [65, 0, 0, 10] ∧
        (underString (next.run now).state r).bytes = [0, 0, 0, 10] ∧
        StringFramed now next (underString now r) (underString (next.run now).state r) := by
  intro r uses next
  obtain ⟨s, hs⟩ := bound_string_frames_region r (by decide) (by decide)
  have hvalue : ((r.bindString : Call Region UInt8 ByteString) r).outcome =
      .value (.closed [] [8, 9, 10]) := rfl
  obtain rfl : .closed [] [8, 9, 10] = s := Outcome.value.inj (hvalue.symm.trans hs.bound)
  exact ⟨by decide, by decide, _, hs, by decide +kernel, by decide +kernel, (hs.uses uses next).2⟩

/-- Three bytes of garbage: a search whose copy does not fit takes away the byte of text that was there, and
a writer that is stopped at its second piece leaves the first. -/
theorem failing_uses_write_region :
    let r : Region := ⟨[7, 8, 9], 3⟩
    let s := ByteString.closed [] [8, 9]
    let whole : ByteString.Engine := fun _ => some fun bytes => some [some (0, bytes.length)]
    let one := ((Use.call (.append [0x61])).run s).state
    let search : Use := .call (.search whole (.closed [1, 2, 3] []) "" 0)
    let write : Use := .call (.write [['a'], ['b', 'c']])
    ((r.bindString : Call Region UInt8 ByteString) r).outcome = .value s ∧
      (underString one r).bytes = [0x61, 0, 9] ∧
      (search.run one).outcome = .error .noMemory ∧ (underString (search.run one).state r).bytes = [0, 0, 9] ∧
      (underString s r).bytes = [0, 8, 9] ∧
      (write.run s).outcome = .value (.answer (.flag false)) ∧
      (underString (write.run s).state r).bytes = [0x61, 0, 9] := by
  intro r s whole one search write
  refine ⟨rfl, by decide +kernel, ?_, by decide +kernel, rfl, ?_, by decide +kernel⟩
  · have hshort : ((Action.search whole (.closed [1, 2, 3] []) "" 0).run one).outcome = .error .noMemory := by
      decide +kernel
    exact error_of_call.mpr hshort
  · have hstopped : ((Action.write [['a'], ['b', 'c']]).run s).outcome = .value (.flag false) := by decide +kernel
    rw [(use_call _ s).1, hstopped]
    rfl

end FixedCapacity.Region
