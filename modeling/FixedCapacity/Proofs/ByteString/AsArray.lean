/-
  FixedCapacity.Proofs.ByteString.AsArray — a string behaves as an array of bytes.

  `Shared` are the calls that strings and arrays of bytes have in common. A string copies
  within its storage and passes over it once where an array moves slot by slot and removes
  one element after another; on the list of the bytes both do the same (`onBytes_alike`), so
  over any sequence of calls nobody can tell one from the other (`string_acts_as_array`).
-/

import FixedCapacity.Proofs.ByteString.Terminator
import FixedCapacity.Proofs.SlotArray.Refinement

namespace FixedCapacity.ByteString

open Call (wordLimit)
open Predicate

/-- A call on a string or on an array of bytes. -/
inductive Shared : Type 1 where
  | get (position : Nat)
  | index (position : Nat)
  | front
  | back
  | exchange (position : Nat) (b : UInt8)
  | exchangeIndex (position : Nat) (b : UInt8)
  | find (b : UInt8)
  | findIf {τ : Type} (test : τ → UInt8 → Bool × τ) (t : τ)
  | insert (position : Nat) (text : List UInt8)
  | append (text : List UInt8)
  | push (b : UInt8)
  | assign (text : List UInt8)
  | clear
  | resize (len : Nat)
  | popBack
  | remove (position : Nat)
  | removeIf {τ : Type} (test : τ → UInt8 → Bool × τ) (t : τ)
  | removeRange (bounds : Bounds)

namespace Shared

def onString : Shared → Action
  | get position => .get position
  | index position => .index position
  | front => .front
  | back => .back
  | exchange position b => .exchange position b
  | exchangeIndex position b => .exchangeIndex position b
  | find b => .find b
  | findIf test t => .findIf test t
  | insert position text => .insert position text
  | append text => .append text
  | push b => .push b
  | assign text => .assign text
  | clear => .clear
  | resize len => .resize len
  | popBack => .popBack
  | remove position => .remove position
  | removeIf test t => .removeIf test t
  | removeRange bounds => .removeRange bounds

/-- A string fills the new places with zeros, so the array is asked to. -/
def onArray : Shared → SlotArray.Action UInt8
  | get position => .get position
  | index position => .index position
  | front => .front
  | back => .back
  | exchange position b => .exchange position b
  | exchangeIndex position b => .exchangeIndex position b
  | find b => .find b
  | findIf test t => .findIf test t
  | insert position text => .insert position text
  | append text => .extend text
  | push b => .pushBack b
  | assign text => .assign text
  | clear => .clear
  | resize len => .resize len 0
  | popBack => .popBack
  | remove position => .remove position
  | removeIf test t => .removeIf test t
  | removeRange bounds => .removeRange bounds

end Shared

/-- The elements that a predicate was asked about, in order. -/
def askedAbout {α : Type} (ledger : List (Event α)) : List α :=
  ledger.filterMap fun
    | .tested x => some x
    | _ => none

section AskedAbout

variable {α : Type} (xs : List α)

@[simp] theorem askedAbout_nil : askedAbout ([] : List (Event α)) = [] := rfl

@[simp] theorem askedAbout_append (l l' : List (Event α)) :
    askedAbout (l ++ l') = askedAbout l ++ askedAbout l' := List.filterMap_append

@[simp] theorem askedAbout_tested : askedAbout (xs.map .tested) = xs := by
  simp [askedAbout, List.filterMap_map]

@[simp] theorem askedAbout_cloned : askedAbout (xs.map .cloned) = [] := by simp [askedAbout]

@[simp] theorem askedAbout_dropped : askedAbout (xs.map .dropped) = [] := by simp [askedAbout]

end AskedAbout

/-- A removal by predicate asks about every element once, whatever becomes of it. -/
theorem askedAbout_judged {α τ : Type} (test : τ → α → Bool × τ) (t : τ) (xs : List α) :
    askedAbout (SlotArray.judged test t xs) = xs := by
  induction xs generalizing t with
  | nil => rfl
  | cons x xs ih =>
    have hrest := ih (test t x).2
    simp only [askedAbout, SlotArray.judged] at hrest ⊢
    cases h : (test t x).1 <;> simp [answers, h, hrest]

/-- Two calls on lists that end alike, leave the same list and ask about the same elements. -/
structure Alike (r q : ListReport UInt8) : Prop where
  outcome : r.outcome = q.outcome
  state : r.state = q.state
  asked : askedAbout r.ledger = askedAbout q.ledger

theorem insertText_alike (capacity : Nat) (xs : List UInt8) (position : Nat) (text : List UInt8) :
    Alike (.insertText capacity xs position text) (.insert capacity xs position text) := by
  simp only [ListReport.insertText, ListReport.insert]
  repeat' split
  all_goals exact ⟨rfl, rfl, by simp⟩

theorem onBytes_alike (call : Shared) (capacity : Nat) (xs : List UInt8) :
    Alike (call.onString.onBytes capacity xs) (call.onArray.onList capacity xs) := by
  cases call with
  | insert position text => exact insertText_alike capacity xs position text
  | append text => exact insertText_alike capacity xs xs.length text
  | push b =>
    simp only [Shared.onString, Shared.onArray, Action.onBytes, SlotArray.Action.onList,
      ListReport.insertText, ListReport.push, List.length_singleton]
    by_cases hfull : capacity ≤ xs.length
    · rw [if_pos (by omega), if_pos hfull]
      exact ⟨rfl, rfl, rfl⟩
    · rw [if_neg (by omega), if_neg (Nat.lt_irrefl _), if_neg hfull]
      exact ⟨rfl, by simp, rfl⟩
  | assign text =>
    simp only [Shared.onString, Shared.onArray, Action.onBytes, SlotArray.Action.onList,
      ListReport.replaceText, ListReport.assign]
    split
    · exact ⟨rfl, rfl, rfl⟩
    · exact ⟨rfl, rfl, by simp [-List.map_reverse]⟩
  | clear => exact ⟨rfl, rfl, (askedAbout_dropped _).symm⟩
  | resize len =>
    simp only [Shared.onString, Shared.onArray, Action.onBytes, SlotArray.Action.onList,
      ListReport.resizeText, ListReport.resize]
    split
    · exact ⟨rfl, rfl, rfl⟩
    · refine ⟨rfl, rfl, ?_⟩
      rw [askedAbout_append, askedAbout_append, askedAbout_dropped, askedAbout_cloned]
      rfl
  | removeIf test t =>
    exact ⟨rfl, rfl, (askedAbout_tested xs).trans (askedAbout_judged test t xs).symm⟩
  | removeRange bounds =>
    simp only [Shared.onString, Shared.onArray, Action.onBytes, SlotArray.Action.onList,
      ListReport.removeSpan, ListReport.removeRange]
    cases bounds.resolve xs.length with
    | error kind => exact ⟨rfl, rfl, rfl⟩
    | ok range => exact ⟨rfl, rfl, (askedAbout_dropped _).symm⟩
  | _ => exact ⟨rfl, rfl, rfl⟩

/-! ## Side by side -/

/-- A string and an array of bytes that nobody can tell apart. -/
structure Matches (s : ByteString) (a : SlotArray UInt8) : Prop where
  capacity : s.capacity = a.capacity
  content : s.content = a.toList
  len : s.len = a.len
  isEmpty : s.isEmpty = a.isEmpty
  isFull : s.isFull = a.isFull

/-- Two calls that end alike, ask about the same bytes and leave what cannot be told apart. -/
structure Agree (r : Report ByteString UInt8 (Answer UInt8))
    (q : Report (SlotArray UInt8) UInt8 (Answer UInt8)) : Prop where
  outcome : r.outcome = q.outcome
  asked : askedAbout r.ledger = askedAbout q.ledger
  state : Matches r.state q.state

theorem sound_matches {s : ByteString} (hs : Sound s) {xs : List UInt8} {free : List (Option UInt8)}
    (hcapacity : s.capacity = xs.length + free.length) (hcontent : s.content = xs) :
    Matches s (SlotArray.laid xs free) := by
  have hlen : s.len = xs.length := by rw [← length_content hs, hcontent]
  exact ⟨by simpa using hcapacity, by simpa using hcontent, by simpa using hlen,
    by simp [isEmpty, SlotArray.isEmpty, hlen], by simp [isFull, SlotArray.isFull, hcapacity, hlen]⟩

theorem run_agree (call : Shared) {s : ByteString} (hs : Sound s) {xs : List UInt8}
    {free : List (Option UInt8)} (hw : xs.length + free.length < wordLimit)
    (hcapacity : s.capacity = xs.length + free.length) (hcontent : s.content = xs) :
    Agree (call.onString.run s) (call.onArray.run (SlotArray.laid xs free)) := by
  obtain ⟨hsound, hsame, hleft⟩ := run_sound call.onString hs
  have halike := onBytes_alike call s.capacity s.content
  have hlen := SlotArray.length_left call.onArray xs free
  rw [hcontent, hcapacity] at halike hleft
  rw [SlotArray.Action.run_laid _ xs free hw]
  refine ⟨?_, ?_, sound_matches hsound (by omega) (hleft.trans halike.state)⟩
  · rw [Action.run_eq _ hs, hcapacity, hcontent]
    exact halike.outcome
  · rw [Action.run_eq _ hs, hcapacity, hcontent]
    exact halike.asked

/-- A string and an array of bytes of one capacity that start with the same content go through any
sequence of calls side by side. -/
theorem string_acts_as_array (calls : List Shared) {s : ByteString} (hs : Sound s) {a : SlotArray UInt8}
    (ha : SlotArray.Sound a) (hcapacity : s.capacity = a.capacity) (hcontent : s.content = a.toList) :
    List.Forall₂ Agree (Call.history (calls.map (·.onString.run)) s)
      (Call.history (calls.map (·.onArray.run)) a) := by
  induction calls generalizing s a with
  | nil => exact .nil
  | cons call calls ih =>
    obtain ⟨xs, free, rfl, hw⟩ := SlotArray.sound_iff.mp ha
    rw [SlotArray.capacity_laid] at hcapacity
    rw [SlotArray.toList_laid] at hcontent
    have hagree := run_agree call hs hw hcapacity hcontent
    have hsound := (run_sound call.onString hs).1
    have hlaid : SlotArray.Sound (call.onArray.run (SlotArray.laid xs free)).state := by
      have hlen := SlotArray.length_left call.onArray xs free
      rw [SlotArray.Action.run_laid _ xs free hw]
      exact SlotArray.sound_laid _ _ (by omega)
    exact .cons hagree (ih hsound hlaid hagree.state.capacity hagree.state.content)

/-- An insertion up to the capacity, a byte too many, a removal of every other byte, and an index that
violates the contract of both. -/
theorem string_acts_as_array_of_three :
    Sound (closed [65] [0, 0]) ∧ SlotArray.Sound (SlotArray.laid [65] [none, none] : SlotArray UInt8) ∧
      (closed [65] [0, 0]).capacity = (SlotArray.laid [65] [none, none] : SlotArray UInt8).capacity ∧
      (closed [65] [0, 0]).content = (SlotArray.laid [65] [none, none] : SlotArray UInt8).toList ∧
      let calls : List Shared :=
        [.insert 1 [66, 67], .push 68, .removeIf (fun t _ => (t, !t)) true, .index 1, .resize 3]
      List.Forall₂ Agree (Call.history (calls.map (·.onString.run)) (closed [65] [0, 0]))
        (Call.history (calls.map (·.onArray.run)) (SlotArray.laid [65] [none, none])) :=
  ⟨sound_closed _ _ (by decide), SlotArray.sound_laid _ _ (by decide), rfl, rfl,
    string_acts_as_array _ (sound_closed _ _ (by decide)) (SlotArray.sound_laid _ _ (by decide)) rfl rfl⟩

end FixedCapacity.ByteString
