/-
  FixedCapacity.Proofs.Viewed — what a view over live elements leaves in the memory behind it.

  A view over live elements starts full, so that every slot holds an item from the first call on and none
  ever loses it: the array is always a `window` of a memory, whose first items are its elements (`viewed_window`).
  What a call leaves behind the elements is then a matter of items.

  All calls but one leave them alone (`run_window`). A removal by predicate takes out one element after
  another, and each time the element that is last moves down by one: it is found in every slot that the
  removal frees, also if it was removed itself (`removeIf_window`).
-/

import FixedCapacity.Proofs.ByteString.Hex
import FixedCapacity.Proofs.SlotArray.Refinement

namespace FixedCapacity.SlotArray

open Call (wordLimit)

variable {α : Type}

/-- A call through a view: one on arrays, or a decoding of the digits in a string, where the items are
bytes. -/
inductive Use : Type → Type 1 where
  | call {α : Type} (action : Action α) : Use α
  | decode (s : ByteString) (hs : s.Sound) : Use UInt8

namespace Use

/-- The array after the call, however it ended. -/
def run : Use α → SlotArray α → SlotArray α
  | call action, a => (action.run a).state
  | decode s _, a => (s.decodeHex a).state

/-- The one call that does not leave alone what is behind the elements. -/
def Sifts : Use α → Prop
  | call (.removeIf _ _) => True
  | _ => False

theorem exists_removeIf {use : Use α} (h : use.Sifts) :
    ∃ (τ : Type) (test : τ → α → Bool × τ) (t : τ), use = call (.removeIf test t) := by
  cases use with
  | decode => exact h.elim
  | call action =>
    cases action with
    | removeIf test t => exact ⟨_, test, t, rfl⟩
    | _ => exact h.elim

end Use

/-- The view over items after calls through it. -/
def viewed (items : List α) (uses : List (Use α)) : SlotArray α := uses.foldl (fun a use => use.run a) (ofFull items)

/-- The items in memory under an array. -/
def backing (a : SlotArray α) : List α := a.slots.filterMap id

/-- The array of the first items of a memory that holds nothing else. -/
def window (xs rest : List α) : SlotArray α := laid xs (rest.map some)

section Window

variable (xs rest : List α)

theorem slots_window : (window xs rest).slots = (xs ++ rest).map some := by
  rw [window, slots_laid, List.map_append]

@[simp] theorem backing_window : (window xs rest).backing = xs ++ rest := by
  rw [backing, slots_window, List.filterMap_map]
  exact List.filterMap_some

@[simp] theorem len_window : (window xs rest).len = xs.length := len_laid _ _

@[simp] theorem toList_window : (window xs rest).toList = xs := toList_laid _ _

theorem ofFull_eq_window (items : List α) : ofFull items = window items [] := ofFull_eq_laid items

end Window

/-! ## One call -/

section Run

variable {xs rest : List α}

theorem drop_items (n : Nat) : (xs.map some ++ rest.map some).drop n = ((xs ++ rest).drop n).map some := by
  rw [← List.map_append, List.map_drop]

/-- What is behind the elements after a call that does not sift is what was there before. -/
theorem run_window (hw : xs.length + rest.length < wordLimit) {use : Use α} (h : ¬ use.Sifts) :
    ∃ ys, ys.length ≤ xs.length + rest.length ∧ use.run (window xs rest) = window ys ((xs ++ rest).drop ys.length) := by
  have hcapacity : xs.length + (rest.map some).length = xs.length + rest.length := by rw [List.length_map]
  cases use with
  | call action =>
    have hrun := Action.run_laid action xs (rest.map some) (by rwa [hcapacity])
    rw [hcapacity] at hrun
    have hleft (ys : List α) : action.left xs (rest.map some) ys = ((xs ++ rest).drop ys.length).map some := by
      cases action with
      | removeIf => exact absurd trivial h
      | _ => exact drop_items ys.length
    refine ⟨_, length_onList_le action (Nat.le_add_right _ _), ?_⟩
    show (action.run (laid xs (rest.map some))).state = _
    rw [hrun, Report.state_on, hleft]
    rfl
  | decode s hs =>
    have hrun := ByteString.decodeHex_laid hs xs (rest.map some) (by rwa [hcapacity])
    rw [hcapacity] at hrun
    show ∃ ys, _ ∧ (s.decodeHex (laid xs (rest.map some))).state = _
    rw [hrun]
    by_cases hshort : xs.length + rest.length < (s.len + 1) / 2
    · refine ⟨xs, Nat.le_add_right _ _, ?_⟩
      rw [if_pos hshort, List.drop_left]
      rfl
    · have hread := Text.Hex.length_read_le s.content
      rw [ByteString.length_content hs] at hread
      refine ⟨(Text.Hex.read s.content).1, by omega, ?_⟩
      rw [if_neg hshort, drop_items]
      rfl

/-- Each slot that a removal by predicate frees holds the element that was last. -/
theorem removeIf_window {τ : Type} (test : τ → α → Bool × τ) (t : τ) (hw : xs.length < wordLimit) (rest : List α) :
    ∃ (ys freed : List α) (t' : τ), xs.length = ys.length + freed.length ∧ (∀ x ∈ freed, xs.getLast? = some x) ∧
      (removeIf test t (window xs rest)).outcome = .value (freed.length, t') ∧
      (removeIf test t (window xs rest)).state = window ys (freed ++ rest) := by
  have hcount := Predicate.length_kept_add_accepted test t xs
  have hrun := removeIf_laid test t xs (rest.map some) hw
  unfold window
  rw [hrun]
  rcases hlast : xs.getLast? with _ | z
  · obtain rfl : xs = [] := List.getLast?_eq_none_iff.mp hlast
    exact ⟨[], [], t, rfl, nofun, rfl, rfl⟩
  · refine ⟨Predicate.kept test t xs, List.replicate (Predicate.accepted test t xs).length z,
      Predicate.final test t xs, ?_, ?_, ?_, ?_⟩
    · rw [List.length_replicate, hcount]
    · intro x hx
      rw [List.eq_of_mem_replicate hx]
    · rw [List.length_replicate]
    · rw [List.map_append, List.map_replicate]

/-- Every call leaves an array over a memory of the same size. -/
theorem step_window (hw : xs.length + rest.length < wordLimit) (use : Use α) :
    ∃ ys behind, use.run (window xs rest) = window ys behind ∧ ys.length + behind.length = xs.length + rest.length := by
  by_cases h : use.Sifts
  case neg =>
    obtain ⟨ys, hys, hrun⟩ := run_window hw h
    refine ⟨ys, _, hrun, ?_⟩
    rw [List.length_drop, List.length_append]
    omega
  case pos =>
    obtain ⟨τ, test, t, rfl⟩ := Use.exists_removeIf h
    have hxs : xs.length < wordLimit := by omega
    obtain ⟨ys, freed, t', hlength, -, -, hstate⟩ := removeIf_window test t hxs rest
    refine ⟨ys, freed ++ rest, ?_, ?_⟩
    · show (Action.run (.removeIf test t) (window xs rest)).state = _
      rw [Action.run, Call.map_apply, hstate]
    · rw [List.length_append]
      omega

end Run

/-! ## Runs -/

theorem runs_window {xs rest : List α} (hw : xs.length + rest.length < wordLimit) (uses : List (Use α)) :
    ∃ ys behind, uses.foldl (fun a use => use.run a) (window xs rest) = window ys behind ∧
      ys.length + behind.length = xs.length + rest.length := by
  induction uses generalizing xs rest with
  | nil => exact ⟨xs, rest, rfl, rfl⟩
  | cons use uses ih =>
    obtain ⟨ys, behind, hrun, hsize⟩ := step_window hw use
    rw [List.foldl_cons, hrun, ← hsize]
    exact ih (by omega)

/-- A view is always an array over a memory of as many items as it was made over. -/
theorem viewed_window {items : List α} (hw : items.length < wordLimit) (uses : List (Use α)) :
    ∃ ys behind, viewed items uses = window ys behind ∧ ys.length + behind.length = items.length := by
  have hmemory : items.length + ([] : List α).length < wordLimit := hw
  unfold viewed
  rw [ofFull_eq_window]
  exact runs_window hmemory uses

/-! ## The memory behind a view -/

/-- What a removal by predicate leaves in memory: so many elements less, and the one that was last in every
slot that this freed. -/
structure LeavesLast {τ : Type} (a : SlotArray α) (r : Report (SlotArray α) α (Nat × τ)) : Prop where
  removed : ∃ count t, r.outcome = .value (count, t) ∧ r.state.len + count = a.len
  freed : ∀ i, r.state.len ≤ i → i < a.len → ∃ x, a.toList.getLast? = some x ∧
    a.backing[a.len - 1]? = some x ∧ r.state.backing[i]? = some x
  behind : r.state.backing.drop a.len = a.backing.drop a.len

/-- What a view over live elements leaves in the memory behind it. -/
structure Backed (items : List α) (a : SlotArray α) : Prop where
  /-- Every slot holds an item. -/
  live : a.slots = a.backing.map some
  size : a.backing.length = items.length
  elements : a.backing.take a.len = a.toList
  fits : a.len ≤ items.length
  /-- From its resulting length on, a call leaves all items as they were, unless it sifts. -/
  untouched : ∀ use : Use α, ¬ use.Sifts →
    (use.run a).backing.drop (use.run a).len = a.backing.drop (use.run a).len
  sifted : ∀ {τ : Type} (test : τ → α → Bool × τ) (t : τ), LeavesLast a (removeIf test t a)
  /-- A view that ends destroys its elements, and leaves the items. -/
  ended : (clear a).state.backing = a.backing

theorem leavesLast_window {xs rest : List α} {τ : Type} (test : τ → α → Bool × τ) (t : τ) (hw : xs.length < wordLimit) :
    LeavesLast (window xs rest) (removeIf test t (window xs rest)) := by
  obtain ⟨ys, freed, t', hlength, hlast, houtcome, hstate⟩ := removeIf_window test t hw rest
  constructor
  case removed =>
    refine ⟨freed.length, t', houtcome, ?_⟩
    rw [hstate, len_window, len_window, hlength]
  case freed =>
    intro i hi hi'
    rw [hstate, len_window] at hi
    rw [len_window] at hi'
    have hfreed : freed[i - ys.length]? = some freed[i - ys.length] := List.getElem?_eq_getElem (by omega)
    have hx := hlast _ (List.mem_of_getElem? hfreed)
    refine ⟨freed[i - ys.length], ?_, ?_, ?_⟩
    · rw [toList_window, hx]
    · rw [backing_window, len_window, List.getElem?_append_left (by omega), ← List.getLast?_eq_getElem?, hx]
    · rw [hstate, backing_window, List.getElem?_append_right hi, List.getElem?_append_left (by omega), hfreed]
  case behind =>
    have hsize : xs.length = (ys ++ freed).length := by rw [List.length_append, hlength]
    rw [hstate, backing_window, backing_window, len_window, List.drop_left, hsize, ← List.append_assoc, List.drop_left]

theorem backed_window {items xs rest : List α} (hw : items.length < wordLimit)
    (hsize : xs.length + rest.length = items.length) : Backed items (window xs rest) := by
  constructor
  case live => rw [backing_window, slots_window]
  case size => rw [backing_window, List.length_append, hsize]
  case elements => rw [backing_window, len_window, toList_window, List.take_left]
  case fits =>
    rw [len_window]
    omega
  case untouched =>
    intro use h
    have hmemory : xs.length + rest.length < wordLimit := by omega
    obtain ⟨ys, hys, hrun⟩ := run_window hmemory h
    rw [hrun, backing_window, backing_window, len_window, List.drop_left]
  case sifted => exact fun test t => leavesLast_window test t (by omega)
  case ended =>
    have hclear : (clear (window xs rest)).state = window [] (xs ++ rest) := by
      unfold window
      rw [clear_laid, List.map_append]
    rw [hclear, backing_window, backing_window, List.nil_append]

/-- Whatever calls are made through a view over live elements, the memory keeps its size and begins with
the elements of the view. Behind them the next call changes nothing, unless it is a removal by predicate,
which leaves the element that was last in the slots it frees. -/
theorem view_leaves_items {items : List α} (hw : items.length < wordLimit) (uses : List (Use α)) :
    Backed items (viewed items uses) := by
  obtain ⟨xs, rest, hviewed, hsize⟩ := viewed_window hw uses
  rw [hviewed]
  exact backed_window hw hsize

/-- The even ones go, the last one too, which is then found in the slots of all three. A removal at the
front moves the rest down, and the last slot keeps its item. -/
theorem view_leaves_items_of_five :
    let items : List Nat := [2, 5, 8, 1, 4]
    let even (t : Unit) (n : Nat) : Bool × Unit := (n % 2 == 0, t)
    let front : Use Nat := .call (.remove 0)
    let a := viewed items []
    items.length < wordLimit ∧ (removeIf even () a).state.backing = [5, 1, 4, 4, 4] ∧
      (∀ i, 2 ≤ i → i < 5 → (removeIf even () a).state.backing[i]? = some 4) ∧
      (front.run a).backing = [5, 8, 1, 4, 4] ∧ (front.run a).backing.drop 4 = a.backing.drop 4 := by
  intro items even front a
  have hw : items.length < wordLimit := by decide +kernel
  have ha : Backed items a := view_leaves_items hw []
  refine ⟨hw, by decide +kernel, ?_, by decide +kernel, ?_⟩
  · intro i hi hi'
    have hleft : (removeIf even () a).state.len = 2 := by decide +kernel
    have hlen : a.len = 5 := by decide +kernel
    have hlast : a.toList.getLast? = some 4 := by decide +kernel
    obtain ⟨x, hx, -, hfreed⟩ := (ha.sifted even ()).freed i (by rwa [hleft]) (by rwa [hlen])
    rw [hfreed, ← hx, hlast]
  · have hleft : (front.run a).len = 4 := by decide +kernel
    rw [← hleft]
    exact ha.untouched front nofun

end FixedCapacity.SlotArray
