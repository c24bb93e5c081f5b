/-
  FixedCapacity.Proofs.SlotArray.Trace — traces of the calls on arrays tell the truth.

  `Action.Alerts` says which alert each call may give, and with which figures: the capacity is
  that of the array, and what was asked for exceeds it. `Action.inserts` says which calls insert,
  and at which length. Both are read off the call on the list (`onList_truthful`), which has the
  trace of the call on the slots.

  A call that fills an array piece by piece has no alert but that the array is full
  (`Filling.truthful`). Arrays that are made, laid over a region or copied alert to what was asked
  for in the same way.
-/

import FixedCapacity.Proofs.Reachable
import FixedCapacity.Proofs.Trace

namespace FixedCapacity.SlotArray

open Call (wordLimit)
open Trace

variable {α β γ : Type}

/-! ## Calls -/

namespace Action

/-- The alert of a call on an array of some length and capacity, if the call gives one. -/
def Alerts (len capacity : Nat) : Action α → Alert → Prop
  | pushBack _, alert | emplaceBack _, alert | emplaceNew _, alert =>
    alert = .arrayFull capacity ∧ capacity ≤ len
  | resize requested _, alert | resizeDefault requested, alert | resizeWith requested _ _, alert =>
    alert = .resizeOverflow .array requested capacity ∧ capacity < requested
  | insert _ items, alert | extend items, alert =>
    alert = .insertOverflow .array len items.length capacity ∧ capacity < len + items.length
  | append other, alert =>
    alert = .insertOverflow .array len other.toList.length capacity ∧ capacity < len + other.toList.length
  | _, _ => False

/-- The elements that a call inserts when it succeeds, and the length of the array at that moment. -/
def inserts (len : Nat) : Action α → Option (Nat × List α)
  | insert _ items | extend items => some (len, items)
  | append other => some (len, other.toList)
  | assign items => some (0, items)
  | _ => none

end Action

/-- The report of an insertion: no elements are no insertion. -/
def inserted (capacity len : Nat) (items : List α) : List Span :=
  if items = [] then [] else [.insert .array len items.length capacity]

/-- The insertions of a call that succeeds. -/
def Action.inserted (len capacity : Nat) (action : Action α) : List Span :=
  match action.inserts len with
  | none => []
  | some (len, items) => SlotArray.inserted capacity len items

theorem alerts_inserting (capacity len : Nat) (items : List α) :
    alerts (ListReport.inserting capacity len items) = [] := by
  unfold ListReport.inserting
  split <;> rfl

theorem insertions_inserting (capacity len : Nat) (items : List α) :
    insertions (ListReport.inserting capacity len items) = inserted capacity len items := by
  unfold ListReport.inserting inserted
  split <;> rfl

section OnList

variable (capacity : Nat) (xs : List α)

theorem push_truthful (x : α) (answer : Answer α) (ready lost : List (Event α)) :
    (ListReport.push capacity xs x answer ready lost).Truthful
      (fun alert => alert = .arrayFull capacity ∧ capacity ≤ xs.length) [] := by
  unfold ListReport.push
  split
  case isTrue h => exact Report.truthful_of_alert rfl rfl ⟨rfl, h⟩ rfl
  case isFalse => exact Report.truthful_of_silent rfl

theorem resize_truthful (len : Nat) (fresh : List α) (entry : α → Event α) :
    (ListReport.resize capacity xs len fresh entry).Truthful
      (fun alert => alert = .resizeOverflow .array len capacity ∧ capacity < len) [] := by
  unfold ListReport.resize
  split
  case isTrue h => exact Report.truthful_of_alert rfl rfl ⟨rfl, h⟩ rfl
  case isFalse => exact Report.truthful_of_silent rfl

theorem insert_truthful (position : Nat) (items : List α) :
    (ListReport.insert capacity xs position items).Truthful
      (fun alert => alert = .insertOverflow .array xs.length items.length capacity ∧
        capacity < xs.length + items.length)
      (inserted capacity xs.length items) := by
  unfold ListReport.insert
  split
  case isTrue h => exact Report.truthful_of_alert rfl rfl ⟨rfl, by omega⟩ rfl
  split
  case isTrue => exact Report.truthful_of_error rfl rfl rfl
  case isFalse =>
    exact Report.truthful_of_value rfl (alerts_inserting capacity _ items) (insertions_inserting capacity _ items)

theorem assign_truthful (items : List α) :
    (ListReport.assign capacity xs items).Truthful (fun _ => False) (inserted capacity 0 items) := by
  unfold ListReport.assign
  split
  case isTrue => exact Report.truthful_of_error rfl rfl rfl
  case isFalse =>
    exact Report.truthful_of_value rfl (alerts_inserting capacity 0 items) (insertions_inserting capacity 0 items)

theorem sort_truthful {τ : Type} (compare : τ → α → α → Ordering × τ) (t : τ) :
    (ListReport.sort xs compare t).Truthful (fun _ => False) [] := by
  unfold ListReport.sort
  by_cases h : xs.length < 2
  · exact Report.truthful_of_silent (if_pos h)
  · refine Report.truthful_of_quiet ?_ ?_
    · rw [if_neg h]
      rfl
    · rw [if_neg h]
      rfl

theorem onList_truthful (action : Action α) :
    (action.onList capacity xs).Truthful (action.Alerts xs.length capacity) (action.inserted xs.length capacity) := by
  cases action with
  | pushBack x => exact push_truthful capacity xs x _ _ _
  | emplaceBack x => exact push_truthful capacity xs x _ _ _
  | emplaceNew x => exact push_truthful capacity xs x _ _ _
  | resize len x =>
    obtain ⟨hexplained, hsucceeded, hfailed⟩ :=
      resize_truthful capacity xs len (List.replicate (len - xs.length) x) .cloned
    exact ⟨hexplained, hsucceeded, hfailed⟩
  | resizeDefault len => exact resize_truthful capacity xs len _ _
  | resizeWith len make t => exact resize_truthful capacity xs len _ _
  | insert position items => exact insert_truthful capacity xs position items
  | extend items => exact insert_truthful capacity xs xs.length items
  | append other => exact insert_truthful capacity xs xs.length other.toList
  | assign items => exact assign_truthful capacity xs items
  | sort => exact sort_truthful xs _ ()
  | sortBy compare t => exact sort_truthful xs compare t
  | removeRange bounds =>
    apply Report.truthful_of_silent
    rw [Action.onList, ListReport.removeRange]
    split <;> rfl
  | get | index | front | back | exchange | exchangeIndex | exchangeFront | exchangeBack | reverse | fill | find
  | findIf | popBack | truncate | clear | remove | removeIf => exact Report.truthful_of_silent rfl

end OnList

theorem run_truthful {a : SlotArray α} (ha : Sound a) (action : Action α) :
    (action.run a).Truthful (action.Alerts a.len a.capacity) (action.inserted a.len a.capacity) := by
  obtain ⟨xs, free, rfl, hw⟩ := sound_iff.mp ha
  rw [Action.run_laid action xs free hw, Report.truthful_on, len_laid, capacity_laid]
  exact onList_truthful _ xs action

/-! ## Calls that fill an array -/

/-- A call that fills an array stops at the first element that finds it full. -/
theorem Filling.stops_full {c : Op α β} (h : Filling c) {a : SlotArray α} (ha : Sound a) :
    (c a).state.capacity = a.capacity ∧
      ((c a).trace = [] ∨
        (c a).trace = [.alert (.arrayFull a.capacity)] ∧ (c a).outcome = .error .noMemory ∧
          a.capacity ≤ (c a).state.len) := by
  induction h generalizing a with
  | aside h =>
    obtain ⟨hstate, -, htrace⟩ := h a
    rw [hstate]
    exact ⟨rfl, .inl htrace⟩
  | clear =>
    obtain ⟨xs, free, rfl, hw⟩ := sound_iff.mp ha
    rw [clear_laid]
    exact ⟨by simp, .inl rfl⟩
  | pushBack x =>
    obtain ⟨xs, free, rfl, hw⟩ := sound_iff.mp ha
    rw [pushBack_laid x xs free hw]
    cases free with
    | nil => exact ⟨rfl, .inr ⟨by simp, rfl, by simp⟩⟩
    | cons slot free =>
      refine ⟨?_, .inl rfl⟩
      simp
      omega
  | @bind _ _ c f hc hf ihc ihf =>
    obtain ⟨hcapacity, htrace⟩ := ihc ha
    obtain ⟨hsound, hnormal⟩ := hc.steady a ha
    rw [Call.bind_apply]
    rcases hfirst : c a with ⟨o, left, trace, ledger⟩
    rw [hfirst] at hcapacity htrace hsound hnormal
    cases o with
    | value b =>
      -- The first part went well and reported nothing: the second one goes on with its array.
      obtain rfl : trace = [] := htrace.resolve_right fun h => nomatch h.2.1
      have hsecond := ihf b hsound
      rw [hcapacity] at hsecond
      exact hsecond
    | error kind =>
      refine ⟨hcapacity, htrace.imp_right fun ⟨htrace, herror, hfull⟩ => ⟨htrace, ?_, hfull⟩⟩
      cases herror
      rfl
    | violation v => exact hnormal.elim

/-- The alert of a call that was to fill an array of some capacity and left it full. -/
def Fills (capacity : Nat) (left : SlotArray α) (alert : Alert) : Prop :=
  alert = .arrayFull capacity ∧ capacity ≤ left.len

theorem Filling.truthful {c : Op α β} (h : Filling c) {a : SlotArray α} (ha : Sound a) :
    (c a).Truthful (Fills a.capacity (c a).state) [] := by
  obtain ⟨-, hsilent | ⟨htrace, herror, hfull⟩⟩ := h.stops_full ha
  · exact Report.truthful_of_silent hsilent
  · have hkind : (c a).outcome = .error (Alert.arrayFull a.capacity).kind := herror
    have halerts : alerts (c a).trace = [.arrayFull a.capacity] := by
      rw [htrace]
      rfl
    have hinsertions : insertions (c a).trace = [] := by
      rw [htrace]
      rfl
    exact Report.truthful_of_alert hkind halerts ⟨rfl, hfull⟩ hinsertions

/-! ## Arrays that are made -/

/-- The alert of an array that is made, if there is one. -/
def Storage.Alerts : Storage α → Alert → Prop
  | inlineOf capacity items, alert =>
    alert = .insertOverflow .array 0 items.length capacity ∧ capacity < 0 + items.length
  | allocated capacity allocator, alert =>
    alert = .allocationFailed .array capacity ∧ allocator capacity = false
  | _, _ => False

/-- The insertions of an array that is made. -/
def Storage.inserted : Storage α → List Span
  | inlineOf capacity items => SlotArray.inserted capacity 0 items
  | _ => []

theorem create_truthful (storage : Storage α) (hw : storage.size < wordLimit) :
    (storage.create ()).Truthful storage.Alerts storage.inserted := by
  cases storage with
  | inline | borrowed | filled => exact Report.truthful_of_silent rfl
  | inlineOf capacity items =>
    rw [Storage.create, ofList_apply capacity items hw]
    split
    case isTrue h => exact Report.truthful_of_alert rfl rfl ⟨rfl, by omega⟩ rfl
    case isFalse =>
      exact Report.truthful_of_value rfl (alerts_inserting capacity 0 items) (insertions_inserting capacity 0 items)
  | allocated capacity allocator =>
    rw [Storage.create, allocate_apply]
    split
    case isTrue => exact Report.truthful_of_silent rfl
    split
    case isTrue => exact Report.truthful_of_quiet rfl rfl
    case isFalse h => exact Report.truthful_of_alert rfl rfl ⟨rfl, by simpa using h⟩ rfl

theorem bind_truthful (t : IntType) (r : Region) :
    ((r.bindArray t : Call Unit Int _) ()).Truthful
      (fun alert => alert = .bufferTooSmall ∧ r.slotCount t = 0) [] := by
  rw [Region.bindArray_apply]
  split
  case isTrue h => exact Report.truthful_of_alert rfl rfl ⟨rfl, h⟩ rfl
  case isFalse => exact Report.truthful_of_quiet rfl rfl

/-! ## All of them -/

/-- The traces of calls on an array, and of its copies, tell the truth. -/
structure Truthful (a : SlotArray α) : Prop where
  calls : ∀ action : Action α,
    (action.run a).Truthful (action.Alerts a.len a.capacity) (action.inserted a.len a.capacity)
  clones : ((clone a : Call Unit α _) ()).Truthful (fun _ => False) []
  copies : ∀ allocator, ((cloneAllocated a allocator : Call Unit α _) ()).Truthful
    (fun alert => alert = .allocationFailed .array a.capacity ∧ allocator a.capacity = false)
    (inserted a.capacity 0 a.toList)

theorem truthful {a : SlotArray α} (ha : Sound a) : Truthful a := by
  constructor
  case calls => exact fun action => run_truthful ha action
  case clones =>
    obtain ⟨xs, free, rfl, hw⟩ := sound_iff.mp ha
    rw [clone_laid xs free hw]
    exact Report.truthful_of_silent rfl
  case copies =>
    intro allocator
    obtain ⟨xs, free, rfl, hw⟩ := sound_iff.mp ha
    rw [cloneAllocated_laid xs free allocator hw, capacity_laid, toList_laid]
    split
    case isTrue => exact Report.truthful_of_error rfl rfl rfl
    split
    case isTrue =>
      exact Report.truthful_of_value rfl (alerts_inserting _ 0 xs) (insertions_inserting _ 0 xs)
    case isFalse h => exact Report.truthful_of_alert rfl rfl ⟨rfl, by simpa using h⟩ rfl

end FixedCapacity.SlotArray
