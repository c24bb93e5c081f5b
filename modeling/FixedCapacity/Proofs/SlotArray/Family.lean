/-
  FixedCapacity.Proofs.SlotArray.Family — an array and its copies account for every element.

  A `Family` is one array with the copies made of it and of its copies, and the books kept
  over all of them: what the callers gave, what they got back, and the ledger. Its members
  are called, copied and given up in any order. The books balance after every move
  (`step_kept`), so over every run, and when the last member is gone nothing is left
  (`elements_accounted`).
-/

import FixedCapacity.Proofs.SlotArray.Ownership

namespace FixedCapacity.SlotArray

open Call (wordLimit)

variable {α : Type}

/-- The elements that lie in a storage before there is an array over it. -/
def Storage.lent : Storage α → List α
  | filled items => items
  | _ => []

/-- An array and the copies made of it and of its copies, with all that came to them and left them
so far. -/
structure Family (α : Type) where
  members : List (SlotArray α)
  given : List α
  returned : List α
  ledger : List (Event α)

/-- What is done to a member. -/
inductive Move (α : Type) : Type 1 where
  | call (action : Action α)
  | clone
  | cloneAllocated (allocator : Memory.Allocator)
  | drop

namespace Family

def live (f : Family α) : List α := f.members.flatMap toList

/-- Takes in a copy, if there is one. -/
def adopt (f : Family α) (r : Report Unit α (SlotArray α)) : Family α :=
  match r.outcome with
  | .value copy => { f with members := f.members ++ [copy], ledger := f.ledger ++ r.ledger }
  | _ => { f with ledger := f.ledger ++ r.ledger }

/-- The family of one array that is being made over a storage. -/
def start (storage : Storage α) : Family α := adopt ⟨[], storage.lent, [], []⟩ (storage.create ())

/-- One move of a member. An array that is given up is cleared and gone. -/
def step (f : Family α) (member : Nat) (move : Move α) : Family α :=
  match f.members[member]? with
  | none => f
  | some a =>
    match move with
    | .call action =>
      let r := action.run a
      ⟨f.members.set member r.state, f.given ++ action.given r.outcome,
        f.returned ++ action.returned r.outcome, f.ledger ++ r.ledger⟩
    | .clone => f.adopt (SlotArray.clone a ())
    | .cloneAllocated allocator => f.adopt (SlotArray.cloneAllocated a allocator ())
    | .drop =>
      { f with members := f.members.eraseIdx member, ledger := f.ledger ++ (SlotArray.clear a).ledger }

def run (f : Family α) (moves : List (Nat × Move α)) : Family α :=
  moves.foldl (fun f move => f.step move.1 move.2) f

/-- Gives up every member. -/
def disband (f : Family α) : Family α := f.run (List.replicate f.members.length (0, .drop))

/-- A copy has the elements of its original, each copied once; without a copy nothing is copied. -/
structure CopyOf (a : SlotArray α) (r : Report Unit α (SlotArray α)) : Prop where
  made : ∀ copy, r.outcome = .value copy →
    Sound copy ∧ copy.toList = a.toList ∧ r.ledger = a.toList.map .cloned
  refused : (∀ copy, r.outcome ≠ .value copy) → r.ledger = []

theorem clone_copyOf {a : SlotArray α} (ha : Sound a) : CopyOf a (SlotArray.clone a ()) := by
  obtain ⟨xs, free, rfl, hw⟩ := sound_iff.mp ha
  rw [clone_laid xs free hw]
  refine ⟨?_, fun h => absurd rfl (h _)⟩
  rintro copy ⟨⟩
  exact ⟨sound_laid _ _ (by simpa using hw), by simp, by simp⟩

theorem cloneAllocated_copyOf {a : SlotArray α} (ha : Sound a) (allocator : Memory.Allocator) :
    CopyOf a (SlotArray.cloneAllocated a allocator ()) := by
  obtain ⟨xs, free, rfl, hw⟩ := sound_iff.mp ha
  rw [cloneAllocated_laid xs free allocator hw]
  split
  · exact ⟨by simp, fun _ => rfl⟩
  split
  · refine ⟨?_, fun h => absurd rfl (h _)⟩
    rintro copy ⟨⟩
    exact ⟨sound_laid _ _ (by simpa using hw), by simp, by simp⟩
  · exact ⟨by simp, fun _ => rfl⟩

theorem members_disband (f : Family α) : f.disband.members = [] := by
  obtain ⟨members, given, returned, ledger⟩ := f
  induction members generalizing ledger with
  | nil => rfl
  | cons a members ih => exact ih _

variable [DecidableEq α]

/-- What holds of a family at any time. -/
structure Kept (f : Family α) : Prop where
  sound : ∀ a ∈ f.members, Sound a
  balanced : Balanced [] f.given f.live f.returned f.ledger

theorem count_live_eraseIdx {members : List (SlotArray α)} {i : Nat} {a : SlotArray α}
    (h : members[i]? = some a) (x : α) :
    ((members.eraseIdx i).flatMap toList).count x + a.toList.count x = (members.flatMap toList).count x := by
  obtain ⟨hlt, rfl⟩ := List.getElem?_eq_some_iff.mp h
  have hperm := (List.getElem_cons_eraseIdx_perm hlt).flatMap_right toList
  rw [← hperm.count_eq, List.flatMap_cons, List.count_append, Nat.add_comm]

theorem count_live_set {members : List (SlotArray α)} {i : Nat} {a : SlotArray α}
    (h : members[i]? = some a) (b : SlotArray α) (x : α) :
    ((members.set i b).flatMap toList).count x + a.toList.count x =
      (members.flatMap toList).count x + b.toList.count x := by
  obtain ⟨hlt, -⟩ := List.getElem?_eq_some_iff.mp h
  have hperm := (List.set_perm_cons_eraseIdx hlt b).flatMap_right toList
  rw [hperm.count_eq, List.flatMap_cons, List.count_append, ← count_live_eraseIdx h]
  omega

theorem adopt_kept {f : Family α} (h : Kept f) {a : SlotArray α} {r : Report Unit α (SlotArray α)}
    (hr : CopyOf a r) : Kept (f.adopt r) := by
  unfold adopt
  split
  case h_1 copy hvalue =>
    obtain ⟨hsound, hcopy, hledger⟩ := hr.made copy hvalue
    refine ⟨fun b hb => ?_, fun x => ?_⟩
    · rcases List.mem_append.mp hb with hb | hb
      · exact h.sound b hb
      · rw [List.mem_singleton.mp hb]; exact hsound
    · have := h.balanced x
      simp [live, hcopy, hledger] at this ⊢
      omega
  case h_2 hrefused =>
    have hledger := hr.refused hrefused
    refine ⟨h.sound, ?_⟩
    rw [hledger, List.append_nil]
    exact h.balanced

theorem step_kept {f : Family α} (h : Kept f) (member : Nat) (move : Move α) :
    Kept (f.step member move) := by
  unfold step
  split
  case h_1 => exact h
  case h_2 a ha =>
    have hsound : Sound a := h.sound a (List.mem_of_getElem? ha)
    cases move with
    | call action =>
      obtain ⟨hstate, hbalanced⟩ := run_balanced hsound action
      refine ⟨fun b hb => ?_, fun x => ?_⟩
      · rcases List.mem_or_eq_of_mem_set hb with hb | rfl
        · exact h.sound b hb
        · exact hstate
      · have := h.balanced x
        have := hbalanced x
        have := count_live_set ha (action.run a).state x
        simp only [live, List.count_append, List.count_nil] at *
        omega
    | clone => exact adopt_kept h (clone_copyOf hsound)
    | cloneAllocated allocator => exact adopt_kept h (cloneAllocated_copyOf hsound allocator)
    | drop =>
      obtain ⟨xs, free, rfl, -⟩ := sound_iff.mp hsound
      refine ⟨fun b hb => h.sound b (List.mem_of_mem_eraseIdx hb), fun x => ?_⟩
      have := h.balanced x
      have := count_live_eraseIdx ha x
      simp [live, clear_laid, -List.map_reverse] at *
      omega

theorem kept_nobody : Kept (⟨[], [], [], []⟩ : Family α) := ⟨by simp, fun _ => rfl⟩

theorem kept_one {xs given : List α} {free : List (Option α)} {ledger : List (Event α)}
    (hw : xs.length + free.length < wordLimit) (hb : Balanced [] given xs [] ledger) :
    Kept ⟨[laid xs free], given, [], ledger⟩ := by
  refine ⟨fun a ha => ?_, ?_⟩
  · rw [List.mem_singleton.mp ha]
    exact sound_laid xs free hw
  · simpa [live] using hb

theorem start_kept (storage : Storage α) (hw : storage.size < wordLimit) : Kept (start storage) := by
  have hempty (capacity : Nat) (h : capacity < wordLimit) : Kept (⟨[empty capacity], [], [], []⟩ : Family α) :=
    empty_eq_laid capacity ▸ kept_one (by simpa using h) fun _ => rfl
  cases storage with
  | inline capacity => exact hempty capacity hw
  | inlineOf capacity items =>
    have hsize : capacity < wordLimit := hw
    have hmade := ofList_apply capacity items hsize ()
    by_cases hfit : capacity < items.length
    · rw [if_pos hfit] at hmade
      simpa [start, adopt, Storage.create, Storage.lent, hmade] using kept_nobody
    · rw [if_neg hfit] at hmade
      simpa [start, adopt, Storage.create, Storage.lent, hmade] using
        kept_one (by simp; omega) fun x => by simp
  | allocated capacity allocator =>
    have hmade : (allocate capacity allocator : Call Unit α _) () = _ := allocate_apply capacity allocator ()
    by_cases hzero : capacity = 0
    · rw [if_pos hzero] at hmade
      simpa [start, adopt, Storage.create, Storage.lent, hmade] using kept_nobody
    by_cases hgrant : allocator capacity
    · rw [if_neg hzero, if_pos hgrant] at hmade
      simpa [start, adopt, Storage.create, Storage.lent, hmade] using hempty capacity hw
    · rw [if_neg hzero, if_neg hgrant] at hmade
      simpa [start, adopt, Storage.create, Storage.lent, hmade] using kept_nobody
  | borrowed memory =>
    have hnew : start (.borrowed memory) = ⟨[laid [] memory], [], [], []⟩ := rfl
    rw [hnew]
    exact kept_one (by simpa [Storage.size] using hw) fun _ => rfl
  | filled items =>
    have hfull : start (.filled items) = ⟨[laid items []], items, [], []⟩ := by
      simp [start, adopt, Storage.create, Storage.lent, ofFull_eq_laid]
    rw [hfull]
    exact kept_one hw fun x => by simp

theorem run_kept {f : Family α} (h : Kept f) (moves : List (Nat × Move α)) : Kept (f.run moves) := by
  induction moves generalizing f with
  | nil => exact h
  | cons move moves ih => exact ih (step_kept h move.1 move.2)

end Family

variable [DecidableEq α]

/-- Every element is accounted for, no member fails carelessly, and once every member is given up
no element is left. -/
structure Family.Accounted (f : Family α) : Prop where
  balanced : ∀ x, f.given.count x + f.ledger.count (.made x) + f.ledger.count (.cloned x) =
    f.live.count x + f.returned.count x + f.ledger.count (.dropped x)
  careful : ∀ a ∈ f.members, Careful a
  disbanded : f.disband.members = []
  settled : ∀ x,
    f.disband.given.count x + f.disband.ledger.count (.made x) + f.disband.ledger.count (.cloned x) =
      f.disband.returned.count x + f.disband.ledger.count (.dropped x)

theorem elements_accounted (storage : Storage α) (hw : storage.size < wordLimit)
    (moves : List (Nat × Move α)) : ((Family.start storage).run moves).Accounted := by
  have hkept : ((Family.start storage).run moves).Kept :=
    Family.run_kept (Family.start_kept storage hw) moves
  have hdisband : ((Family.start storage).run moves).disband.Kept := Family.run_kept hkept _
  have hnone := Family.members_disband ((Family.start storage).run moves)
  refine ⟨fun x => ?_, fun a ha => careful (hkept.sound a ha), hnone, fun x => ?_⟩
  · simpa using hkept.balanced x
  · simpa [Family.live, hnone] using hdisband.balanced x

/-- A refused element, a copy, an element taken from the copy, and the array given up. -/
theorem elements_accounted_of_pair :
    (Storage.inline 2 : Storage Nat).size < wordLimit ∧
      ((Family.start (.inline 2)).run
        [(0, .call (.pushBack 5)), (0, .call (.emplaceNew 6)), (0, .call (.pushBack 7)), (0, .clone),
          (1, .call (.remove 0)), (0, .drop)]).Accounted :=
  ⟨by decide, elements_accounted (.inline 2) (by decide) _⟩

end FixedCapacity.SlotArray
