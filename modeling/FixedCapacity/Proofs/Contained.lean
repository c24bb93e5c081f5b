/-
  FixedCapacity.Proofs.Contained — calls stay within the words and within the storage.

  Every call is normal, whatever its arguments, but for those whose caller vouches for
  something: a position that has an element, a text that fits (`SlotArray.Contained`,
  `ByteString.Contained`). A normal call formed no sum and no difference that is not a word
  and touched no slot and no byte outside the storage (`FixedCapacity.Proofs.Normal`). The
  lengths and capacities that the calls count with are words themselves.
-/

import FixedCapacity.Proofs.ByteString.Printing
import FixedCapacity.Proofs.Reachable

namespace FixedCapacity

open Call (wordLimit)

variable {α : Type}

/-- Looking for an element is normal when having none is an error. -/
theorem ListReport.normal_found (element : Option α) {missing : Outcome (Answer α)} (left : List α)
    (h : missing.Normal) : (ListReport.found element missing left).outcome.Normal :=
  Outcome.normal_of _ h

/-! ## Arrays -/

namespace SlotArray

variable {a : SlotArray α}

/-- The calls that check the positions they are given. -/
def Action.Checked : Action α → Prop
  | index _ | exchangeIndex _ _ => False
  | _ => True

structure Contained (a : SlotArray α) : Prop where
  fits : a.len ≤ a.capacity
  addressable : a.capacity < wordLimit
  live : ∀ i < a.len, ∃ x, a.slots[i]? = some (some x)
  calls : ∀ action : Action α, action.Checked → (action.run a).outcome.Normal
  clones : ((clone a : Call Unit α _) ()).outcome.Normal
  copies : ∀ allocator, ((cloneAllocated a allocator : Call Unit α _) ()).outcome.Normal

theorem onList_normal {action : Action α} (hchecked : action.Checked) (capacity : Nat) (xs : List α) :
    (action.onList capacity xs).outcome.Normal := by
  cases action with
  | index | exchangeIndex => exact hchecked.elim
  | get position => exact ListReport.normal_found xs[position]? _ trivial
  | exchange position x => exact ListReport.normal_found xs[position]? _ trivial
  | remove position => exact ListReport.normal_found xs[position]? _ trivial
  | front | exchangeFront => exact ListReport.normal_found xs.head? _ trivial
  | back | exchangeBack | popBack => exact ListReport.normal_found xs.getLast? _ trivial
  | find x => exact Outcome.normal_of _ trivial
  | findIf test t => exact Outcome.normal_of _ trivial
  | reverse | fill | truncate | clear | removeIf | sort | sortBy => trivial
  | pushBack | emplaceBack | emplaceNew =>
    rw [Action.onList, ListReport.push]
    split <;> trivial
  | resize | resizeDefault | resizeWith =>
    simp only [Action.onList, ListReport.resize]
    split <;> trivial
  | insert | extend | append =>
    rw [Action.onList, ListReport.insert]
    repeat' split
    all_goals trivial
  | assign =>
    rw [Action.onList, ListReport.assign]
    split <;> trivial
  | removeRange =>
    rw [Action.onList, ListReport.removeRange]
    split <;> trivial

theorem contained (ha : Sound a) : Contained a := by
  obtain ⟨xs, free, rfl, hw⟩ := sound_iff.mp ha
  constructor
  case fits => exact ha.fits
  case addressable => exact ha.addressable
  case live =>
    intro i hi
    obtain ⟨x, -, hslot⟩ := exists_element ha hi
    exact ⟨x, hslot⟩
  case calls =>
    intro action hchecked
    rw [Action.run_laid action xs free hw]
    exact onList_normal hchecked _ xs
  case clones =>
    rw [clone_laid xs free hw]
    trivial
  case copies =>
    intro allocator
    rw [cloneAllocated_laid xs free allocator hw]
    repeat' split
    all_goals trivial

end SlotArray

/-! ## Strings -/

namespace ByteString

variable {s : ByteString}

/-- The calls that check the positions they are given and whether their text fits. -/
def Action.Checked : Action → Prop
  | index _ | exchangeIndex _ _ | convert _ => False
  | _ => True

structure Contained (s : ByteString) : Prop where
  fits : s.len ≤ s.capacity
  /-- The NUL lies in the storage, so the position behind every byte of the content does. -/
  closed : s.len < s.storage.length
  addressable : s.storage.length < wordLimit
  calls : ∀ action : Action, action.Checked → (action.run s).outcome.Normal
  /-- A value may do with the string as a writer what it likes. -/
  prints : ∀ value : Text.Printing, (print value s).outcome.Normal ∧ (formatValue value s).outcome.Normal
  splits : ∀ list : SlotArray ByteString, list.Reachable → ∀ capacity delimiter,
    (s.split capacity delimiter list).outcome.Normal
  decodes : ∀ target : SlotArray UInt8, target.Reachable → (s.decodeHex target).outcome.Normal
  copies : ∀ allocator, ((s.cloneAllocated allocator : Call Unit UInt8 ByteString) ()).outcome.Normal

theorem onBytes_normal {action : Action} (hchecked : action.Checked) (capacity : Nat) (xs : List UInt8) :
    (action.onBytes capacity xs).outcome.Normal := by
  have hinsert (xs : List UInt8) (position : Nat) (text : List UInt8) :
      (ListReport.insertText capacity xs position text).outcome.Normal := by
    rw [ListReport.insertText]
    repeat' split
    all_goals trivial
  have hchosen (yes : Prop) [Decidable yes] (answer : Answer UInt8) {failed : Outcome (Answer UInt8)}
      (hfailed : failed.Normal) : (if yes then .value answer else failed).Normal := by
    split
    · trivial
    · exact hfailed
  cases action with
  | index | exchangeIndex | convert => exact hchecked.elim
  | get position => exact ListReport.normal_found xs[position]? _ trivial
  | exchange position b => exact ListReport.normal_found xs[position]? _ trivial
  | remove position => exact ListReport.normal_found xs[position]? _ trivial
  | front => exact ListReport.normal_found xs.head? _ trivial
  | back | popBack => exact ListReport.normal_found xs.getLast? _ trivial
  | find b => exact Outcome.normal_of _ trivial
  | findIf test t => exact Outcome.normal_of _ trivial
  | rewrite | clear | removeIf => trivial
  | insert position text => exact hinsert xs position text
  | append text => exact hinsert xs xs.length text
  | push b => exact hinsert xs xs.length [b]
  | appendAll texts => exact hchosen _ _ trivial
  | write pieces => exact hchosen _ _ trivial
  | resize len =>
    rw [Action.onBytes, ListReport.resizeText]
    split <;> trivial
  | assign text =>
    rw [Action.onBytes, ListReport.replaceText]
    split <;> trivial
  | removeRange bounds =>
    rw [Action.onBytes, ListReport.removeSpan]
    split <;> trivial
  | format pieces =>
    simp only [Action.onBytes, ListReport.formatText]
    split <;> trivial
  | encodeHex source =>
    rw [Action.onBytes, ListReport.encodeText]
    split <;> trivial
  | search engine source pattern group =>
    rw [Action.onBytes, ListReport.searchText]
    split
    · trivial
    split
    · trivial
    · exact hinsert [] 0 _

theorem contained (hs : Sound s) : Contained s := by
  constructor
  case fits => exact len_le_capacity hs
  case closed => exact hs.fits
  case addressable => exact hs.addressable
  case calls =>
    intro action hchecked
    rw [Action.run_eq action hs]
    exact onBytes_normal hchecked s.capacity s.content
  case prints =>
    intro value
    constructor
    · obtain ⟨-, -, well, hwell⟩ := print_returns value hs
      rw [hwell]
      trivial
    · rcases formatValue_returns value hs with h | h
      · rw [h]
        trivial
      · rw [h]
        trivial
  case splits =>
    intro list hlist capacity delimiter
    exact (steady_split hs capacity delimiter list hlist.sound).2
  case decodes =>
    intro target htarget
    exact (steady_decodeHex hs target htarget.sound).2
  case copies =>
    intro allocator
    rw [cloneAllocated_apply hs]
    split <;> trivial

end ByteString

/-- Whatever calls led to an array or a string, its length is within its capacity, and no call that checks
what it is given leaves the words or the storage. -/
theorem calls_stay_contained :
    (∀ {α : Type} {a : SlotArray α}, a.Reachable → a.Contained) ∧
      ∀ {s : ByteString}, s.Reachable → s.Contained :=
  ⟨fun h => SlotArray.contained h.sound, fun h => ByteString.contained h.sound⟩

/-- Positions at the end of the words: an insertion into a full array, and a range whose first bound has
no successor. -/
theorem calls_stay_contained_of_last :
    let full : SlotArray Nat := .ofFull [5]
    let short := ByteString.closed [7] []
    let last := wordLimit - 1
    full.Reachable ∧ full.Contained ∧ ((SlotArray.Action.insert last [6]).run full).outcome.Normal ∧
      short.Reachable ∧ short.Contained ∧
      ((ByteString.Action.removeRange ⟨.excluded last, .unbounded⟩).run short).outcome.Normal := by
  intro full short last
  have hfull : full.Reachable := SlotArray.reachable_ofFull [5] (by decide)
  have hshort : short.Reachable := ByteString.reachable_closed [7] (by decide)
  have harray := calls_stay_contained.1 hfull
  have hstring := calls_stay_contained.2 hshort
  refine ⟨hfull, harray, ?_, hshort, hstring, ?_⟩
  · exact harray.calls (.insert last [6]) trivial
  · exact hstring.calls (.removeRange ⟨.excluded last, .unbounded⟩) trivial

/-- A string whose length is past its storage, which no calls lead to, cannot be split or decoded. -/
example :
    let past : ByteString := ⟨[0x61, 0], 3⟩
    (past.split 1 none (.empty 1)).outcome = .violation (.indexOutOfBounds 2 3) ∧
      (past.decodeHex (.empty 1)).outcome = .violation (.indexOutOfBounds 2 3) :=
  ⟨rfl, rfl⟩

end FixedCapacity
