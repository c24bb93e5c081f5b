/-
  FixedCapacity.Proofs.Normal — calls that return.

  A call is normal if it ends with a value or with an error that its caller can handle. The
  steps a call is made of are normal exactly when sums and differences of positions are
  words (`normal_add`, `normal_sub`), those of bytes are bytes (`normal_addByte`,
  `normal_subByte`), and items, slices, slots and bytes lie in what they are taken from
  (`normal_item`, `normal_slice`, `normal_read`, `normal_write`, `normal_store`,
  `normal_copyWithin`, `normal_bytes`). A call is normal only
  if all of its steps are (`normal_bind`), and nothing turns a violation into an answer or an
  error (`normal_attempt`, `normal_build`). So a normal call stayed within the words and the
  storage throughout.
-/

import FixedCapacity.Proofs.Call
import FixedCapacity.ByteString.Basic
import FixedCapacity.SlotArray.Basic

namespace FixedCapacity

/-- A call returned: with a value, or with an error that its caller can handle. -/
def Outcome.Normal {β : Type} : Outcome β → Prop
  | .violation _ => False
  | _ => True

theorem Outcome.normal_of {β : Type} (found : Option β) {missing : Outcome β} (h : missing.Normal) :
    (Outcome.of found missing).Normal := by
  cases found with
  | none => exact h
  | some b => trivial

namespace Call

variable {σ τ α β γ : Type}

theorem normal_bind (c : Call σ α β) (f : β → Call σ α γ) (s : σ) :
    ((c >>= f) s).outcome.Normal ↔
      (c s).outcome.Normal ∧ ∀ b, (c s).outcome = .value b → (f b (c s).state).outcome.Normal := by
  rw [bind_apply]
  rcases h : c s with ⟨o, left, trace, ledger⟩
  cases o with
  | value b =>
    rw [Report.andThen_value, Report.outcome_after]
    constructor
    · intro hrest
      refine ⟨trivial, fun b' hb => ?_⟩
      cases hb
      exact hrest
    · rintro ⟨-, hrest⟩
      exact hrest b rfl
  | error kind => exact ⟨fun _ => ⟨trivial, fun b hb => nomatch hb⟩, fun _ => trivial⟩
  | violation v => exact ⟨fun hstop => hstop.elim, fun hstop => hstop.1.elim⟩

theorem normal_attempt (c : Call σ α β) (s : σ) :
    ((attempt c) s).outcome.Normal ↔ (c s).outcome.Normal := by
  rw [attempt_apply]
  rcases c s with ⟨o, left, trace, ledger⟩
  cases o <;> exact Iff.rfl

theorem normal_build (start : τ) (c : Call τ α Unit) (s : σ) :
    ((build start c : Call σ α τ) s).outcome.Normal ↔ (c start).outcome.Normal := by
  rw [build]
  rcases c start with ⟨o, left, trace, ledger⟩
  cases o <;> exact Iff.rfl

theorem normal_ite (p : Prop) [Decidable p] (b : β) (v : Violation) (s : σ) :
    ((if p then done b else violate v : Call σ α β) s).outcome.Normal ↔ p := by
  by_cases h : p
  · rw [if_pos h]
    exact ⟨fun _ => h, fun _ => trivial⟩
  · rw [if_neg h]
    exact ⟨fun hstop => hstop.elim, fun hp => absurd hp h⟩

theorem normal_add (m n : Nat) (s : σ) : ((add m n : Call σ α Nat) s).outcome.Normal ↔ m + n < wordLimit :=
  normal_ite _ _ _ s

theorem normal_sub (m n : Nat) (s : σ) : ((sub m n : Call σ α Nat) s).outcome.Normal ↔ n ≤ m :=
  normal_ite _ _ _ s

theorem normal_addByte (b c : UInt8) (s : σ) :
    ((addByte b c : Call σ α UInt8) s).outcome.Normal ↔ b.toNat + c.toNat < 256 :=
  normal_ite _ _ _ s

theorem normal_subByte (b c : UInt8) (s : σ) : ((subByte b c : Call σ α UInt8) s).outcome.Normal ↔ c ≤ b :=
  normal_ite _ _ _ s

theorem normal_item (items : List β) (i : Nat) (s : σ) :
    ((item items i : Call σ α β) s).outcome.Normal ↔ i < items.length := by
  rw [item]
  rcases h : items[i]? with _ | b
  · exact ⟨fun hstop => hstop.elim, fun hlt => absurd hlt (Nat.not_lt.mpr (List.getElem?_eq_none_iff.mp h))⟩
  · exact ⟨fun _ => (List.getElem?_eq_some_iff.mp h).1, fun _ => trivial⟩

theorem normal_slice (items : List β) (start stop : Nat) (s : σ) :
    ((slice items start stop : Call σ α (List β)) s).outcome.Normal ↔ start ≤ stop ∧ stop ≤ items.length :=
  normal_ite _ _ _ s

end Call

/-! ## Slots and bytes -/

theorem SlotArray.normal_read {α : Type} (i : Nat) (a : SlotArray α) :
    (read i a).outcome.Normal ↔ ∃ x, a.slots[i]? = some (some x) := by
  rw [read]
  rcases h : a.slots[i]? with _ | _ | x
  · exact ⟨fun hstop => hstop.elim, fun ⟨x, hx⟩ => nomatch hx⟩
  · exact ⟨fun hstop => hstop.elim, fun ⟨x, hx⟩ => nomatch hx⟩
  · exact ⟨fun _ => ⟨x, rfl⟩, fun _ => trivial⟩

theorem SlotArray.normal_write {α : Type} (i : Nat) (x : α) (a : SlotArray α) :
    (write i x a).outcome.Normal ↔ i < a.capacity := by
  rw [write]
  by_cases h : i < a.capacity
  · rw [if_pos h]
    exact ⟨fun _ => h, fun _ => trivial⟩
  · rw [if_neg h]
    exact ⟨fun hstop => hstop.elim, fun hlt => absurd hlt h⟩

namespace ByteString

theorem normal_bytes {σ α : Type} (s : ByteString) (t : σ) :
    ((s.bytes : Call σ α (List UInt8)) t).outcome.Normal ↔ s.len ≤ s.storage.length := by
  rw [bytes, Call.normal_slice]
  exact ⟨fun h => h.2, fun h => ⟨Nat.zero_le _, h⟩⟩

theorem normal_read (i : Nat) (s : ByteString) : (read i s).outcome.Normal ↔ i < s.storage.length := by
  rw [read]
  rcases h : s.storage[i]? with _ | b
  · exact ⟨fun hstop => hstop.elim, fun hlt => absurd hlt (Nat.not_lt.mpr (List.getElem?_eq_none_iff.mp h))⟩
  · exact ⟨fun _ => (List.getElem?_eq_some_iff.mp h).1, fun _ => trivial⟩

theorem normal_store (position : Nat) (bytes : List UInt8) (s : ByteString) :
    (store position bytes s).outcome.Normal ↔ position + bytes.length ≤ s.storage.length := by
  simp only [store]
  by_cases h : position + bytes.length ≤ s.storage.length
  · rw [if_pos h]
    exact ⟨fun _ => h, fun _ => trivial⟩
  · rw [if_neg h]
    exact ⟨fun hstop => hstop.elim, fun hle => absurd hle h⟩

/-- Both the bytes that are copied and the place they go to lie in the storage. -/
theorem normal_copyWithin (start stop target : Nat) (s : ByteString) :
    (copyWithin start stop target s).outcome.Normal ↔
      start ≤ stop ∧ stop ≤ s.storage.length ∧ target + (stop - start) ≤ s.storage.length := by
  rw [copyWithin]
  by_cases h : start ≤ stop ∧ stop ≤ s.storage.length
  · have hlength : ((s.storage.drop start).take (stop - start)).length = stop - start := by
      rw [List.length_take, List.length_drop]
      omega
    rw [if_pos h, normal_store, hlength]
    exact ⟨fun hplace => ⟨h.1, h.2, hplace⟩, fun hall => hall.2.2⟩
  · rw [if_neg h]
    exact ⟨fun hstop => hstop.elim, fun hall => absurd ⟨hall.1, hall.2.1⟩ h⟩

end ByteString

end FixedCapacity
