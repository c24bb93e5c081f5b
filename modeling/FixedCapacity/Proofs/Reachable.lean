/-
  FixedCapacity.Proofs.Reachable — the arrays and strings that calls lead to.

  An array or a string is `Reachable` when it was made over some storage, laid over a
  region, or copied, and then any calls were made on it in any order, those that failed
  included. The arrays that a string fills with digits or with pieces count as well.
  All of them are sound (`SlotArray.Reachable.sound`, `ByteString.Reachable.sound`), so
  what holds of sound containers holds of whatever a caller has in hand.

  A call that fills an array is put together from calls on the array (`Filling`). `Steady`
  says that a call keeps arrays sound and ends without a violation; it passes from the parts
  to the whole (`Filling.steady`).
-/

import FixedCapacity.Proofs.ByteString.Hex
import FixedCapacity.Proofs.ByteString.Hidden
import FixedCapacity.Proofs.ByteString.Split
import FixedCapacity.Proofs.Normal
import FixedCapacity.Proofs.Region.View
import FixedCapacity.Proofs.SlotArray.Family

namespace FixedCapacity

open Call (wordLimit)

namespace SlotArray

variable {α β γ : Type}

/-! ## Steady calls -/

/-- A call that keeps arrays sound and returns. -/
def Steady (c : Op α β) : Prop := ∀ a, Sound a → Sound (c a).state ∧ (c a).outcome.Normal

theorem steady_bind {c : Op α β} {f : β → Op α γ} (hc : Steady c) (hf : ∀ b, Steady (f b)) :
    Steady (c >>= f) := by
  intro a ha
  obtain ⟨hsound, hnormal⟩ := hc a ha
  refine ⟨?_, (Call.normal_bind c f a).mpr ⟨hnormal, fun b _ => (hf b _ hsound).2⟩⟩
  rw [Call.bind_apply]
  rcases h : c a with ⟨o, left, trace, ledger⟩
  rw [h] at hsound
  cases o with
  | value b => exact (hf b left hsound).1
  | error kind => exact hsound
  | violation v => exact hsound

theorem steady_pushBack (x : α) : Steady (pushBack x) := by
  intro a ha
  obtain ⟨xs, free, rfl, hw⟩ := sound_iff.mp ha
  rw [pushBack_laid x xs free hw]
  cases free with
  | nil => exact ⟨ha, trivial⟩
  | cons slot free =>
    refine ⟨sound_laid _ _ ?_, trivial⟩
    simp only [List.length_cons, List.length_append, List.length_nil, List.tail_cons] at hw ⊢
    omega

theorem steady_clear : Steady (clear : Op α Unit) := by
  intro a ha
  obtain ⟨xs, free, rfl, hw⟩ := sound_iff.mp ha
  rw [clear_laid]
  refine ⟨sound_laid _ _ ?_, trivial⟩
  simpa using hw

/-- A call that does nothing to arrays and reports nothing. -/
def Aside (c : Op α β) : Prop := ∀ a, (c a).state = a ∧ (c a).outcome.Normal ∧ (c a).trace = []

/-- The calls put together from emptying an array, appending elements to it and what happens aside. -/
inductive Filling {α : Type} : {β : Type} → Op α β → Prop where
  | aside {β : Type} {c : Op α β} (h : Aside c) : Filling c
  | clear : Filling clear
  | pushBack (x : α) : Filling (pushBack x)
  | bind {β γ : Type} {c : Op α β} {f : β → Op α γ} (hc : Filling c) (hf : ∀ b, Filling (f b)) :
      Filling (c >>= f)

theorem aside_pure (b : β) : Aside (pure b : Op α β) := fun _ => ⟨rfl, trivial, rfl⟩

theorem aside_refuse (kind : Error.Kind) : Aside (Call.refuse kind : Op α β) := fun _ => ⟨rfl, trivial, rfl⟩

theorem aside_get : Aside (Call.get : Op α _) := fun _ => ⟨rfl, trivial, rfl⟩

theorem Filling.steady {c : Op α β} (h : Filling c) : Steady c := by
  induction h with
  | aside h =>
    intro a ha
    obtain ⟨hstate, hnormal, -⟩ := h a
    rw [hstate]
    exact ⟨ha, hnormal⟩
  | clear => exact steady_clear
  | pushBack x => exact steady_pushBack x
  | bind _ _ ihc ihf => exact steady_bind ihc ihf

end SlotArray

namespace ByteString

open SlotArray (Steady Filling Aside aside_pure aside_refuse aside_get)

/-- Making a string touches no array. -/
theorem aside_ofBytes (capacity : Nat) (text : List UInt8) :
    Aside (ofBytes capacity text : SlotArray.Op ByteString ByteString) := by
  intro a
  rw [ofBytes_apply]
  split
  · exact ⟨rfl, trivial, rfl⟩
  · exact ⟨rfl, trivial, rfl⟩

theorem filling_pushAll (capacity : Nat) (pieces : List (List UInt8)) : Filling (pushAll capacity pieces) := by
  induction pieces with
  | nil => exact .aside (aside_pure ())
  | cons piece rest ih => exact .bind (.bind (.aside (aside_ofBytes capacity piece)) .pushBack) fun _ => ih

theorem filling_pushing (bytes : List UInt8) (ends : Bool) : Filling (pushing bytes ends) := by
  induction bytes with
  | nil =>
    cases ends with
    | true => exact .aside (aside_pure ())
    | false => exact .aside (aside_refuse _)
  | cons b bytes ih =>
    rw [pushing_cons]
    exact .bind (.pushBack b) fun _ => ih

variable {s : ByteString}

/-- The slices and the positions of a splitting are those of a sound string. -/
theorem filling_split (hs : Sound s) (capacity : Nat) (delimiter : Option UInt8) :
    Filling (s.split capacity delimiter) := by
  rw [split_eq hs]
  exact .bind .clear fun _ => filling_pushAll capacity _

theorem filling_decodeHex (hs : Sound s) : Filling s.decodeHex := by
  rw [decodeHex_eq hs]
  refine .bind (.aside aside_get) fun target => ?_
  split
  · exact .aside (aside_refuse _)
  · exact .bind .clear fun _ => filling_pushing _ _

theorem steady_split (hs : Sound s) (capacity : Nat) (delimiter : Option UInt8) :
    Steady (s.split capacity delimiter) :=
  (filling_split hs capacity delimiter).steady

theorem steady_decodeHex (hs : Sound s) : Steady s.decodeHex := (filling_decodeHex hs).steady

end ByteString

/-! ## Strings -/

namespace ByteString

/-- The strings that a caller can come to have. A copy of a string with inline storage is the same value. -/
inductive Reachable : ByteString → Prop where
  | created {storage : Storage} {s : ByteString} (hw : storage.size < wordLimit)
      (hs : (storage.create ()).outcome = .value s) : Reachable s
  | called {s : ByteString} (h : Reachable s) (action : Action) : Reachable (action.run s).state
  | clonedAllocated {s copy : ByteString} (h : Reachable s) (allocator : Memory.Allocator)
      (hcopy : ((s.cloneAllocated allocator : Call Unit UInt8 ByteString) ()).outcome = .value copy) :
      Reachable copy

/-- A string that its text fills. -/
theorem reachable_closed (text : List UInt8) (hw : text.length + 1 < wordLimit) : (closed text []).Reachable := by
  refine .created (show (Storage.inlineOf text.length text).size < wordLimit from hw) ?_
  rw [Storage.create, ofBytes_apply, if_neg (Nat.lt_irrefl _), Nat.sub_self]
  rfl

theorem reachable_empty {capacity : Nat} (hw : capacity + 1 < wordLimit) : (empty capacity).Reachable :=
  .created (show (Storage.inline capacity).size < wordLimit from hw) rfl

theorem Reachable.sound {s : ByteString} (h : Reachable s) : Sound s := by
  induction h with
  | created hw hs => exact (Storage.create_sound hw hs).1
  | called _ action ih => exact (run_sound action ih).1
  | clonedAllocated _ _ hcopy ih => exact (cloneAllocated_twins ih hcopy).1

end ByteString

/-! ## Arrays -/

namespace SlotArray

/-- The arrays that a caller can come to have. -/
inductive Reachable : {α : Type} → SlotArray α → Prop where
  | created {α : Type} {storage : Storage α} {a : SlotArray α} (hw : storage.size < wordLimit)
      (ha : (storage.create ()).outcome = .value a) : Reachable a
  | bound {t : IntType} {r : Region} {a : SlotArray Int} (hw : r.size < wordLimit)
      (ha : ((r.bindArray t : Call Unit Int _) ()).outcome = .value a) : Reachable a
  | called {α : Type} {a : SlotArray α} (h : Reachable a) (action : Action α) :
      Reachable (action.run a).state
  | cloned {α : Type} {a copy : SlotArray α} (h : Reachable a)
      (hcopy : ((clone a : Call Unit α _) ()).outcome = .value copy) : Reachable copy
  | clonedAllocated {α : Type} {a copy : SlotArray α} (h : Reachable a) (allocator : Memory.Allocator)
      (hcopy : ((cloneAllocated a allocator : Call Unit α _) ()).outcome = .value copy) : Reachable copy
  | decoded {a : SlotArray UInt8} (h : Reachable a) {s : ByteString} (hs : s.Reachable) :
      Reachable (s.decodeHex a).state
  | split {a : SlotArray ByteString} (h : Reachable a) {s : ByteString} (hs : s.Reachable) (capacity : Nat)
      (delimiter : Option UInt8) : Reachable (s.split capacity delimiter a).state

/-- An array with an element in every slot. -/
theorem reachable_ofFull {α : Type} (items : List α) (hw : items.length < wordLimit) :
    (ofFull items).Reachable :=
  .created (show (Storage.filled items).size < wordLimit from hw) rfl

theorem Reachable.sound {α : Type} {a : SlotArray α} (h : Reachable a) : Sound a := by
  induction h with
  | created hw ha =>
    obtain ⟨free, rfl, hsize⟩ := Storage.create_laid hw ha
    exact sound_laid _ _ (by omega)
  | @bound t r a hw ha =>
    rw [Region.bindArray_apply] at ha
    by_cases hnone : r.slotCount t = 0
    · rw [if_pos hnone] at ha
      cases ha
    · rw [if_neg hnone] at ha
      cases ha
      exact Region.bound_sound hw
  | called _ action ih => exact (run_sound ih action).1
  | cloned _ hcopy ih => exact ((Family.clone_copyOf ih).made _ hcopy).1
  | clonedAllocated _ allocator hcopy ih => exact ((Family.cloneAllocated_copyOf ih allocator).made _ hcopy).1
  | decoded _ hs ih => exact (ByteString.steady_decodeHex hs.sound _ ih).1
  | split _ hs capacity delimiter ih => exact (ByteString.steady_split hs.sound capacity delimiter _ ih).1

end SlotArray

end FixedCapacity
