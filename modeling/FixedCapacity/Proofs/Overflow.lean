/-
  FixedCapacity.Proofs.Overflow — a call that ends for lack of room says so.

  Every call that adds to an array or a string checks first whether its result fits, and a check
  that fails alerts before it refuses (`Report.Told`). Calls on a list show this of one check at a
  time (`told_of_check`); which alert it is, and that there is no other, is what truthful traces say
  already. So a call that ends for lack of room has alerted to it once, with the figures of the
  container (`SlotArray.Announces`, `ByteString.Announces`).

  The calls that replace the whole content have a check of their own and say nothing: `assign` on
  both and `encodeHex` (`Action.Replaces`, `untold_of_check`).
-/

import FixedCapacity.Proofs.ByteString.Trace

namespace FixedCapacity

open Trace

variable {σ α β : Type}

namespace Report

/-- A report does not end for lack of room, or alerts to something. -/
def Told (r : Report σ α β) : Prop := r.outcome = .error .noMemory → alerts r.trace ≠ []

/-- A report does not end for lack of room, or says nothing. -/
def Untold (r : Report σ α β) : Prop := r.outcome = .error .noMemory → r.trace = []

section Check

variable {c : Prop} [Decidable c] {refused done : Report σ α β}

/-- With a check for room in front of a call that does not lack any, what lacks room is the check. -/
theorem lacking_of_check (P : Report σ α β → Prop) (hrefused : P refused) (hdone : done.outcome ≠ .error .noMemory)
    (hfail : (if c then refused else done).outcome = .error .noMemory) : P (if c then refused else done) := by
  by_cases hc : c
  · rwa [if_pos hc]
  · rw [if_neg hc] at hfail
    exact absurd hfail hdone

theorem told_of_check (hrefused : alerts refused.trace ≠ []) (hdone : done.outcome ≠ .error .noMemory) :
    (if c then refused else done).Told :=
  lacking_of_check (fun r => alerts r.trace ≠ []) hrefused hdone

theorem untold_of_check (hrefused : refused.trace = []) (hdone : done.outcome ≠ .error .noMemory) :
    (if c then refused else done).Untold :=
  lacking_of_check (fun r => r.trace = []) hrefused hdone

end Check

/-- What is told, by alerts that explain how the call ended, is told once. -/
theorem Told.once {so : Alert → Prop} {failure : Alert → Outcome β} {r : Report σ α β} (h : r.Told)
    (hexplained : r.Explained so failure) (hfail : r.outcome = .error .noMemory) :
    ∃ alert, alerts r.trace = [alert] ∧ so alert := by
  obtain hsilent | ⟨alert, halert, -, hso⟩ := hexplained
  · exact absurd hsilent (h hfail)
  · exact ⟨alert, halert, hso⟩

/-- Where the calls of one kind say nothing and those of the other do, the kind decides. -/
theorem told_once_iff {silent : Prop} {so : Alert → Prop} {failure : Alert → Outcome β} {r : Report σ α β}
    (htold : ¬ silent → r.Told) (huntold : silent → r.Untold) (hexplained : r.Explained so failure)
    (hfail : r.outcome = .error .noMemory) : (∃ alert, alerts r.trace = [alert] ∧ so alert) ↔ ¬ silent := by
  constructor
  · rintro ⟨alert, halert, -⟩ hsilent
    rw [huntold hsilent hfail] at halert
    cases halert
  · exact fun hloud => (htold hloud).once hexplained hfail

end Report

namespace ListReport

/-- A call that looks for an element lacks no room. -/
theorem found_told {element : Option α} {missing : Outcome (Answer α)} {left : List α}
    (h : missing ≠ .error .noMemory) : (found element missing left).Told := by
  intro hfail
  cases element with
  | none => exact absurd hfail h
  | some x => cases hfail

theorem search_told {τ : Type} (xs : List α) (test : τ → α → Bool × τ) (t : τ) : (search xs test t).Told := by
  intro hfail
  rw [search] at hfail
  cases h : Predicate.first? test t xs <;> simp [h] at hfail

end ListReport

/-! ## Arrays -/

namespace SlotArray

open ListReport (found_told search_told)

variable {a : SlotArray α}

/-- The calls that replace all elements. -/
def Action.Replaces : Action α → Prop
  | assign _ => True
  | _ => False

section OnList

variable (capacity : Nat) (xs : List α)

theorem push_told (x : α) (answer : Answer α) (ready lost : List (Event α)) :
    (ListReport.push capacity xs x answer ready lost).Told :=
  Report.told_of_check (List.cons_ne_nil _ _) nofun

theorem resize_told (len : Nat) (fresh : List α) (entry : α → Event α) :
    (ListReport.resize capacity xs len fresh entry).Told :=
  Report.told_of_check (List.cons_ne_nil _ _) nofun

theorem insert_told (position : Nat) (items : List α) : (ListReport.insert capacity xs position items).Told := by
  refine Report.told_of_check (List.cons_ne_nil _ _) ?_
  split <;> nofun

/-- A range is refused for other reasons. -/
theorem removeRange_told (bounds : Bounds) : (ListReport.removeRange xs bounds).Told := by
  intro hfail
  rw [ListReport.removeRange] at hfail
  split at hfail
  case h_1 kind hrange =>
    cases hfail
    cases Bounds.resolve_error hrange
  case h_2 => cases hfail

theorem onList_told {action : Action α} (h : ¬ action.Replaces) : (action.onList capacity xs).Told := by
  cases action with
  | assign => exact absurd trivial h
  | get | index | front | back | exchange | exchangeIndex | exchangeFront | exchangeBack | popBack | remove =>
    exact found_told nofun
  | find x => exact search_told xs _ _
  | findIf test t => exact search_told xs test t
  | pushBack | emplaceBack | emplaceNew => exact push_told capacity xs _ _ _ _
  | resize len x => exact resize_told capacity xs len _ .cloned
  | resizeDefault | resizeWith => exact resize_told capacity xs _ _ _
  | insert | extend | append => exact insert_told capacity xs _ _
  | removeRange bounds => exact removeRange_told xs bounds
  | reverse | fill | truncate | clear | removeIf | sort | sortBy => exact nofun

theorem onList_untold {action : Action α} (h : action.Replaces) : (action.onList capacity xs).Untold := by
  cases action with
  | assign items => exact Report.untold_of_check rfl nofun
  | _ => exact absurd h not_false

end OnList

/-- A call on the array that ends for lack of room alerts to it once, unless it replaces all elements;
an assignment that lacks room says nothing. -/
structure Announces (a : SlotArray α) : Prop where
  told : ∀ action : Action α, (action.run a).outcome = .error .noMemory →
    ((∃ alert, alerts (action.run a).trace = [alert] ∧ action.Alerts a.len a.capacity alert) ↔ ¬ action.Replaces)
  untold : ∀ items, a.capacity < items.length →
    ((Action.assign items).run a).outcome = .error .noMemory ∧ ((Action.assign items).run a).trace = []

theorem announces (ha : Sound a) : Announces a := by
  obtain ⟨xs, free, rfl, hw⟩ := sound_iff.mp ha
  constructor
  case told =>
    intro action hfail
    have hexplained := (run_truthful ha action).explained
    rw [Action.run_laid action xs free hw] at hfail hexplained ⊢
    exact Report.told_once_iff (onList_told _ xs) (onList_untold _ xs) hexplained hfail
  case untold =>
    intro items hover
    rw [capacity_laid] at hover
    rw [Action.run_laid _ xs free hw, Action.onList, ListReport.assign, if_pos hover]
    exact ⟨rfl, rfl⟩

end SlotArray

/-! ## Strings -/

namespace ByteString

open ListReport (found_told search_told)

variable {s : ByteString}

/-- The calls that replace the whole content at once. -/
def Action.Replaces : Action → Prop
  | assign _ | encodeHex _ => True
  | _ => False

section OnBytes

variable (capacity : Nat) (xs : List UInt8)

theorem insertText_told (position : Nat) (text : List UInt8) :
    (ListReport.insertText capacity xs position text).Told := by
  refine Report.told_of_check (List.cons_ne_nil _ _) ?_
  split <;> nofun

theorem resizeText_told (len : Nat) : (ListReport.resizeText capacity xs len).Told :=
  Report.told_of_check (List.cons_ne_nil _ _) nofun

theorem removeSpan_told (bounds : Bounds) : (ListReport.removeSpan xs bounds).Told := by
  intro hfail
  rw [ListReport.removeSpan] at hfail
  split at hfail
  case h_1 kind hrange =>
    cases hfail
    cases Bounds.resolve_error hrange
  case h_2 => cases hfail

/-- What stopped texts that are written one after another is in the trace. -/
theorem alerts_stopped {stopped : Option Alert} (h : stopped.isNone = false) :
    alerts (stopped.toList.map .alert) ≠ [] := by
  cases stopped with
  | none => cases h
  | some alert => exact List.cons_ne_nil _ _

theorem appendTexts_told (texts : List (List UInt8)) (answer : List UInt8 → Answer UInt8)
    (failed : Outcome (Answer UInt8)) : (ListReport.appendTexts capacity xs texts answer failed).Told := by
  intro hfail
  cases hstopped : (appending capacity texts xs).2.isNone with
  | true => simp [ListReport.appendTexts, hstopped] at hfail
  | false => exact alerts_stopped hstopped

theorem formatText_told (pieces : List (List Char)) (failed : Outcome (Answer UInt8)) :
    (ListReport.formatText capacity pieces failed).Told := by
  intro hfail
  cases hstopped : (appending capacity (pieces.map Text.encode) []).2.isNone with
  | true => simp [ListReport.formatText, hstopped] at hfail
  | false =>
    simp only [ListReport.formatText, hstopped, Bool.false_eq_true, if_false]
    exact alerts_stopped hstopped

theorem searchText_told (engine : Engine) (source : ByteString) (pattern : String) (group : Nat) :
    (ListReport.searchText capacity xs engine source pattern group).Told := by
  rw [ListReport.searchText]
  cases engine pattern with
  | none =>
    intro hfail
    cases hfail
  | some find =>
    cases hfound : captured find source group with
    | none =>
      simp only [hfound]
      intro hfail
      cases hfail
    | some text =>
      simp only [hfound]
      exact insertText_told capacity [] 0 text

theorem onBytes_told {action : Action} (h : ¬ action.Replaces) : (action.onBytes capacity xs).Told := by
  cases action with
  | assign | encodeHex => exact absurd trivial h
  | get | index | front | back | exchange | exchangeIndex | popBack | remove => exact found_told nofun
  | find b => exact search_told xs _ _
  | findIf test t => exact search_told xs test t
  | insert | append | push => exact insertText_told capacity xs _ _
  | resize len => exact resizeText_told capacity xs len
  | removeRange bounds => exact removeSpan_told xs bounds
  | appendAll | write => exact appendTexts_told capacity xs _ _ _
  | format | convert => exact formatText_told capacity _ _
  | search engine source pattern group => exact searchText_told capacity xs engine source pattern group
  | rewrite | clear | removeIf => exact nofun

theorem onBytes_untold {action : Action} (h : action.Replaces) : (action.onBytes capacity xs).Untold := by
  cases action with
  | assign | encodeHex => exact Report.untold_of_check rfl nofun
  | _ => exact absurd h not_false

end OnBytes

/-- A call on the string that ends for lack of room alerts to it once, unless it replaces the whole
content at once; such a call that lacks room says nothing. -/
structure Announces (s : ByteString) : Prop where
  told : ∀ action : Action, (action.run s).outcome = .error .noMemory →
    ((∃ alert, alerts (action.run s).trace = [alert] ∧ action.Alerts s alert) ↔ ¬ action.Replaces)
  assigns : ∀ text, s.capacity < text.length →
    ((Action.assign text).run s).outcome = .error .noMemory ∧ ((Action.assign text).run s).trace = []
  encodes : ∀ source, s.capacity / 2 < source.length →
    ((Action.encodeHex source).run s).outcome = .error .noMemory ∧ ((Action.encodeHex source).run s).trace = []

theorem announces (hs : Sound s) : Announces s := by
  constructor
  case told =>
    intro action hfail
    have hexplained := onBytes_explained hs action
    rw [Action.run_eq action hs] at hfail ⊢
    exact Report.told_once_iff (onBytes_told _ _) (onBytes_untold _ _) hexplained hfail
  case assigns =>
    intro text hover
    rw [Action.run_eq _ hs, Action.onBytes, ListReport.replaceText, if_pos hover]
    exact ⟨rfl, rfl⟩
  case encodes =>
    intro source hover
    rw [Action.run_eq _ hs, Action.onBytes, ListReport.encodeText, if_pos hover]
    exact ⟨rfl, rfl⟩

end ByteString

/-! ## Both -/

/-- A call on an array or a string that ends for lack of room has alerted to it once, with the figures
of the container, except for the calls that replace the whole content: these end so without a word. -/
theorem overflows_told_once {α : Type} {a : SlotArray α} (ha : a.Reachable) {s : ByteString} (hs : s.Reachable) :
    a.Announces ∧ s.Announces :=
  ⟨SlotArray.announces ha.sound, ByteString.announces hs.sound⟩

/-- An element too many, and a text that is formatted up to its second piece. -/
theorem overflows_told_once_of_full :
    let full : SlotArray Nat := .ofFull [5]
    let short := ByteString.empty 2
    let pieces := ["a".toList, "bc".toList]
    full.Reachable ∧ ((SlotArray.Action.pushBack 6).run full).outcome = .error .noMemory ∧
      (∃ alert, alerts ((SlotArray.Action.pushBack 6).run full).trace = [alert] ∧ alert = .arrayFull 1 ∧ 1 ≤ 1) ∧
      short.Reachable ∧ ((ByteString.Action.format pieces).run short).outcome = .error .noMemory ∧
      ∃ alert, alerts ((ByteString.Action.format pieces).run short).trace = [alert] ∧
        (ByteString.Action.format pieces).Alerts short alert := by
  intro full short pieces
  have hfull : full.Reachable := SlotArray.reachable_ofFull [5] (by decide)
  have hshort : short.Reachable := ByteString.reachable_empty (by decide)
  have hpushed : ((SlotArray.Action.pushBack 6).run full).outcome = .error .noMemory := by decide
  have hformatted : ((ByteString.Action.format pieces).run short).outcome = .error .noMemory := by
    decide +kernel
  obtain ⟨harray, hstring⟩ := overflows_told_once hfull hshort
  exact ⟨hfull, hpushed, (harray.told _ hpushed).mpr not_false, hshort, hformatted,
    (hstring.told _ hformatted).mpr not_false⟩

/-- An array that is assigned an element too many, a string that is assigned a byte too many, and one
that has no room for four digits. -/
theorem replacing_overflows_untold :
    let full : SlotArray Nat := .ofFull [5]
    let short := ByteString.empty 2
    full.Reachable ∧ short.Reachable ∧
      ((SlotArray.Action.assign [6, 7]).run full).outcome = .error .noMemory ∧
      (¬ ∃ alert, alerts ((SlotArray.Action.assign [6, 7]).run full).trace = [alert]) ∧
      ((ByteString.Action.assign [97, 98, 99]).run short).outcome = .error .noMemory ∧
      (¬ ∃ alert, alerts ((ByteString.Action.assign [97, 98, 99]).run short).trace = [alert]) ∧
      ((ByteString.Action.encodeHex [97, 98]).run short).outcome = .error .noMemory ∧
      ¬ ∃ alert, alerts ((ByteString.Action.encodeHex [97, 98]).run short).trace = [alert] := by
  intro full short
  have hfull : full.Reachable := SlotArray.reachable_ofFull [5] (by decide)
  have hshort : short.Reachable := ByteString.reachable_empty (by decide)
  have hassigned : (SlotArray.Action.assign [6, 7]).run full = ⟨.error .noMemory, full, [], []⟩ := by decide
  have hreplaced : (ByteString.Action.assign [97, 98, 99]).run short = ⟨.error .noMemory, short, [], []⟩ := by
    decide
  have hencoded : (ByteString.Action.encodeHex [97, 98]).run short = ⟨.error .noMemory, short, [], []⟩ := by
    decide
  rw [hassigned, hreplaced, hencoded]
  exact ⟨hfull, hshort, rfl, nofun, rfl, nofun, rfl, nofun⟩

end FixedCapacity
