/-
  FixedCapacity.Proofs.SlotArray.Free — the slots behind the elements, over whole runs.

  A run keeps an array sound and its capacity as it is (`final_sound`). It puts no value into
  the array that no caller brought (`final_brings`), and it leaves a slot alone that is behind
  the elements after every call (`final_behind`).

  What lies in the free slots at the start decides nothing: `overlaid` lays an array over
  memory, so that a slot that was never written holds what lies there, and a run over memory
  is the run without it, laid over the memory afterwards (`history_overlaid`,
  `final_overlaid`).
-/

import FixedCapacity.Proofs.SlotArray.Refinement

namespace FixedCapacity.SlotArray

open Call (wordLimit)

variable {α : Type} {a : SlotArray α}

/-- What a caller sees of an array. -/
def seen (a : SlotArray α) : List α × Nat := (a.toList, a.capacity)

/-! ## Soundness -/

/-- Below the length of a sound array there are elements, and the slots hold them. -/
theorem exists_element (ha : Sound a) {i : Nat} (hi : i < a.len) :
    ∃ x, a.toList[i]? = some x ∧ a.slots[i]? = some (some x) := by
  obtain ⟨xs, free, rfl, hw⟩ := sound_iff.mp ha
  rw [len_laid] at hi
  refine ⟨xs[i], ?_, ?_⟩
  · rw [toList_laid, List.getElem?_eq_getElem hi]
  · rw [slots_laid, List.getElem?_append_left (by simpa using hi), List.getElem?_map,
      List.getElem?_eq_getElem hi, Option.map_some]

theorem run_sound (ha : Sound a) (action : Action α) :
    Sound (action.run a).state ∧ (action.run a).state.capacity = a.capacity := by
  obtain ⟨xs, free, rfl, hw⟩ := sound_iff.mp ha
  have hlen := length_left action xs free
  rw [Action.run_laid action xs free hw, Report.state_on, capacity_laid, capacity_laid]
  exact ⟨sound_laid _ _ (by omega), hlen⟩

theorem final_sound (ha : Sound a) (actions : List (Action α)) :
    Sound (Call.final (actions.map Action.run) a) ∧
      (Call.final (actions.map Action.run) a).capacity = a.capacity := by
  induction actions generalizing a with
  | nil => exact ⟨ha, rfl⟩
  | cons action actions ih =>
    obtain ⟨hstate, hcapacity⟩ := run_sound ha action
    obtain ⟨hfinal, hsame⟩ := ih hstate
    exact ⟨hfinal, hsame.trans hcapacity⟩

/-! ## Values -/

/-- All values that a call can put into an array satisfy `P`. -/
def Action.Brings (P : α → Prop) : Action α → Prop
  | exchange _ x | exchangeIndex _ x | exchangeFront x | exchangeBack x | fill x | pushBack x
  | emplaceBack x | emplaceNew x | resize _ x => P x
  | resizeDefault _ => P default
  | resizeWith _ make _ => ∀ t, P (make t).1
  | insert _ items | extend items | assign items => ∀ x ∈ items, P x
  | append other => ∀ x ∈ other.toList, P x
  | _ => True

section Brings

variable {P : α → Prop} {capacity : Nat} {xs : List α}

theorem results_brings {τ : Type} {make : τ → α × τ} (hmake : ∀ t, P (make t).1) (n : Nat) (t : τ) :
    ∀ x ∈ results make n t, P x := by
  induction n generalizing t with
  | zero => simp [results]
  | succ n ih =>
    intro x hx
    rw [results] at hx
    rcases List.mem_cons.mp hx with rfl | hx
    · exact hmake t
    · exact ih _ x hx

theorem replicate_brings {y : α} (hy : P y) (n : Nat) : ∀ x ∈ List.replicate n y, P x := by
  intro x hx
  rw [List.eq_of_mem_replicate hx]
  exact hy

theorem set_brings {y : α} (hy : P y) (hxs : ∀ x ∈ xs, P x) (position : Nat) :
    ∀ x ∈ xs.set position y, P x := by
  intro x hx
  rcases List.mem_or_eq_of_mem_set hx with hx | rfl
  · exact hxs x hx
  · exact hy

theorem push_brings {y : α} (hy : P y) (hxs : ∀ x ∈ xs, P x) (answer : Answer α) (ready lost : List (Event α)) :
    ∀ x ∈ (ListReport.push capacity xs y answer ready lost).state, P x := by
  intro x hx
  rw [ListReport.push] at hx
  split at hx
  · exact hxs x hx
  rcases List.mem_append.mp hx with hx | hx
  · exact hxs x hx
  · rw [List.mem_singleton.mp hx]
    exact hy

theorem resize_brings {fresh : List α} (hfresh : ∀ x ∈ fresh, P x) (hxs : ∀ x ∈ xs, P x) (len : Nat)
    (entry : α → Event α) : ∀ x ∈ (ListReport.resize capacity xs len fresh entry).state, P x := by
  intro x hx
  rw [ListReport.resize] at hx
  split at hx
  · exact hxs x hx
  rcases List.mem_append.mp hx with hx | hx
  · exact hxs x (List.mem_of_mem_take hx)
  · exact hfresh x hx

theorem insert_brings {items : List α} (hitems : ∀ x ∈ items, P x) (hxs : ∀ x ∈ xs, P x) (position : Nat) :
    ∀ x ∈ (ListReport.insert capacity xs position items).state, P x := by
  intro x hx
  rw [ListReport.insert] at hx
  split at hx
  · exact hxs x hx
  split at hx
  · exact hxs x hx
  rcases List.mem_append.mp hx with hx | hx
  · rcases List.mem_append.mp hx with hx | hx
    · exact hxs x (List.mem_of_mem_take hx)
    · exact hitems x hx
  · exact hxs x (List.mem_of_mem_drop hx)

/-- The values that a call leaves were there before, or were brought. -/
theorem onList_brings {action : Action α} (hbrings : action.Brings P) (hxs : ∀ x ∈ xs, P x) :
    ∀ x ∈ (action.onList capacity xs).state, P x := by
  cases action with
  | get | index | front | back | find | findIf => exact hxs
  | exchange position y | exchangeIndex position y => exact set_brings hbrings hxs position
  | exchangeFront y => exact set_brings hbrings hxs 0
  | exchangeBack y => exact set_brings hbrings hxs (xs.length - 1)
  | reverse => exact fun x hx => hxs x (List.mem_reverse.mp hx)
  | fill y => exact replicate_brings hbrings xs.length
  | pushBack y | emplaceBack y | emplaceNew y => exact push_brings hbrings hxs _ _ _
  | popBack => exact fun x hx => hxs x (List.mem_of_mem_dropLast hx)
  | truncate | clear => exact fun x hx => hxs x (List.mem_of_mem_take hx)
  | resize len y => exact resize_brings (replicate_brings hbrings _) hxs len .cloned
  | resizeDefault len => exact resize_brings (replicate_brings hbrings _) hxs len .made
  | resizeWith len make t => exact resize_brings (results_brings hbrings _ t) hxs len .made
  | insert position items => exact insert_brings hbrings hxs position
  | extend items => exact insert_brings hbrings hxs xs.length
  | append other => exact insert_brings hbrings hxs xs.length
  | assign items =>
    intro x hx
    rw [Action.onList, ListReport.assign] at hx
    split at hx
    · exact hxs x hx
    · exact hbrings x hx
  | remove position => exact fun x hx => hxs x (List.mem_of_mem_eraseIdx hx)
  | removeIf test t => exact fun x hx => hxs x ((Predicate.kept_sublist test t xs).subset hx)
  | removeRange bounds =>
    intro x hx
    rw [Action.onList, ListReport.removeRange] at hx
    split at hx
    · exact hxs x hx
    rcases List.mem_append.mp hx with hx | hx
    · exact hxs x (List.mem_of_mem_take hx)
    · exact hxs x (List.mem_of_mem_drop hx)
  | sort | sortBy => exact fun x hx => hxs x (Exchange.sort_perm.mem_iff.mp hx)

theorem run_brings (ha : Sound a) {action : Action α} (hbrings : action.Brings P)
    (hall : ∀ x ∈ a.toList, P x) : ∀ x ∈ (action.run a).state.toList, P x := by
  obtain ⟨xs, free, rfl, hw⟩ := sound_iff.mp ha
  rw [toList_laid] at hall
  rw [Action.run_laid action xs free hw, Report.state_on, toList_laid]
  exact onList_brings hbrings hall

theorem final_brings (ha : Sound a) {actions : List (Action α)}
    (hbrings : ∀ action ∈ actions, action.Brings P) (hall : ∀ x ∈ a.toList, P x) :
    ∀ x ∈ (Call.final (actions.map Action.run) a).toList, P x := by
  induction actions generalizing a with
  | nil => exact hall
  | cons action actions ih =>
    have hhead := run_brings ha (hbrings action List.mem_cons_self) hall
    exact ih (run_sound ha action).1 (fun later h => hbrings later (List.mem_cons_of_mem _ h)) hhead

end Brings

/-! ## The slots behind the elements -/

/-- A slot that is free before a call and after it is as it was. -/
theorem run_behind (ha : Sound a) (action : Action α) {i : Nat} (hbefore : a.len ≤ i)
    (hafter : (action.run a).state.len ≤ i) : (action.run a).state.slots[i]? = a.slots[i]? := by
  obtain ⟨xs, free, rfl, hw⟩ := sound_iff.mp ha
  rw [len_laid] at hbefore
  rw [Action.run_laid action xs free hw, Report.state_on] at hafter ⊢
  rw [len_laid] at hafter
  rw [slots_laid, slots_laid, List.getElem?_append_right (by simpa using hafter), List.length_map]
  cases action with
  | removeIf test t =>
    -- The last element went into the slots between the two lengths, and no further.
    have hcount := Predicate.length_kept_add_accepted test t xs
    simp only [Action.onList, ListReport.removeIf, Action.left] at hafter ⊢
    rw [List.getElem?_append_right (by simp; omega), List.getElem?_append_right (by simpa using hbefore)]
    congr 1
    simp
    omega
  | _ =>
    simp only [Action.left, List.getElem?_drop]
    congr 1
    omega

theorem final_behind (ha : Sound a) (actions : List (Action α)) {i : Nat} (hstart : a.len ≤ i)
    (hlens : ∀ report ∈ Call.history (actions.map Action.run) a, report.state.len ≤ i) :
    (Call.final (actions.map Action.run) a).slots[i]? = a.slots[i]? := by
  induction actions generalizing a with
  | nil => rfl
  | cons action actions ih =>
    have hafter : (action.run a).state.len ≤ i := hlens _ List.mem_cons_self
    have hrest := ih (run_sound ha action).1 hafter fun report h => hlens report (List.mem_cons_of_mem _ h)
    exact hrest.trans (run_behind ha action hstart hafter)

/-! ## Memory under the slots -/

/-- The slots over memory: one that was never written shows what lies under it. -/
def overlay (memory slots : List (Option α)) : List (Option α) :=
  List.zipWith (fun under slot => slot.or under) memory slots

/-- The array laid over memory. -/
def overlaid (memory : List (Option α)) (a : SlotArray α) : SlotArray α := ⟨overlay memory a.slots, a.len⟩

section Overlay

variable {memory : List (Option α)}

@[simp] theorem length_overlay (memory slots : List (Option α)) :
    (overlay memory slots).length = min memory.length slots.length := List.length_zipWith

theorem overlay_none (memory : List (Option α)) :
    overlay memory (List.replicate memory.length none) = memory := by
  induction memory with
  | nil => rfl
  | cons under memory ih =>
    rw [List.length_cons, List.replicate_succ, overlay, List.zipWith_cons_cons]
    exact congrArg (under :: ·) ih

theorem drop_overlay (memory slots : List (Option α)) (n : Nat) :
    (overlay memory slots).drop n = overlay (memory.drop n) (slots.drop n) := List.drop_zipWith

/-- Written slots hide the memory under them. -/
theorem overlay_written (memory : List (Option α)) (ys : List α) (rest : List (Option α))
    (h : ys.length ≤ memory.length) :
    overlay memory (ys.map some ++ rest) = ys.map some ++ overlay (memory.drop ys.length) rest := by
  induction ys generalizing memory with
  | nil => rfl
  | cons y ys ih =>
    obtain ⟨under, memory, rfl⟩ : ∃ under rest, memory = under :: rest :=
      List.exists_cons_of_length_pos (by rw [List.length_cons] at h; omega)
    have hrest := ih memory (by simpa using h)
    rw [overlay] at hrest ⊢
    simp [hrest]

theorem overlaid_laid (xs : List α) (free : List (Option α)) (h : xs.length ≤ memory.length) :
    (laid xs free).overlaid memory = laid xs (overlay (memory.drop xs.length) free) := by
  rw [overlaid, slots_laid, overlay_written memory xs free h]
  rfl

/-- A call leaves the same slots behind the elements over memory. -/
theorem left_overlay (action : Action α) (xs : List α) (free : List (Option α))
    (hlen : memory.length = xs.length + free.length) :
    let ys := (action.onList (xs.length + free.length) xs).state
    action.left xs (overlay (memory.drop xs.length) free) ys =
      overlay (memory.drop ys.length) (action.left xs free ys) := by
  intro ys
  cases action with
  | removeIf test t =>
    have hcount : ys.length + (Predicate.accepted test t xs).length = xs.length :=
      Predicate.length_kept_add_accepted test t xs
    simp only [Action.left]
    cases hlast : xs.getLast? with
    | none =>
      obtain rfl : xs = [] := List.getLast?_eq_none_iff.mp hlast
      obtain ⟨hnone, hzero⟩ := Nat.add_eq_zero_iff.mp hcount
      rw [hnone, hzero]
      rfl
    | some z =>
      -- What a removal frees was written: the last element lies there, not the memory.
      have hwritten := overlay_written (memory.drop ys.length)
        (List.replicate (Predicate.accepted test t xs).length z) free
        (by rw [List.length_replicate, List.length_drop]; omega)
      rw [List.map_replicate, List.length_replicate, List.drop_drop, hcount] at hwritten
      exact hwritten.symm
  | _ =>
    simp only [Action.left]
    rw [← overlay_written memory xs free (by omega), drop_overlay]

theorem run_overlaid (ha : Sound a) (hmemory : memory.length = a.capacity) (action : Action α) :
    action.run (a.overlaid memory) = (action.run a).on (overlaid memory) := by
  obtain ⟨xs, free, rfl, hw⟩ := sound_iff.mp ha
  rw [capacity_laid] at hmemory
  have hfree : (overlay (memory.drop xs.length) free).length = free.length := by
    rw [length_overlay, List.length_drop]
    omega
  have hfits := length_left action xs free
  rw [overlaid_laid xs free (by omega), Action.run_laid action xs _ (by omega), hfree,
    Action.run_laid action xs free hw]
  simp only [Report.on, left_overlay action xs free hmemory]
  rw [overlaid_laid _ _ (by omega)]

/-- A caller sees nothing of the memory. -/
theorem seen_overlaid (ha : Sound a) (hmemory : memory.length = a.capacity) :
    (a.overlaid memory).seen = a.seen := by
  obtain ⟨xs, free, rfl, hw⟩ := sound_iff.mp ha
  rw [capacity_laid] at hmemory
  have hfree : (overlay (memory.drop xs.length) free).length = free.length := by
    rw [length_overlay, List.length_drop]
    omega
  rw [overlaid_laid xs free (by omega), seen, seen, toList_laid, toList_laid, capacity_laid, capacity_laid,
    hfree]

theorem history_overlaid (ha : Sound a) (hmemory : memory.length = a.capacity) (actions : List (Action α)) :
    (Call.history (actions.map Action.run) (a.overlaid memory)).map (Report.on seen) =
      (Call.history (actions.map Action.run) a).map (Report.on seen) := by
  induction actions generalizing a with
  | nil => rfl
  | cons action actions ih =>
    obtain ⟨hstate, hcapacity⟩ := run_sound ha action
    have hstays := hmemory.trans hcapacity.symm
    have hhead : ((action.run a).on (overlaid memory)).on seen = (action.run a).on seen := by
      simp only [Report.on, seen_overlaid hstate hstays]
    have hrest := ih hstate hstays
    rw [List.map_cons, Call.history, Call.history, List.map_cons, List.map_cons,
      run_overlaid ha hmemory action, hhead]
    exact congrArg _ hrest

theorem final_overlaid (ha : Sound a) (hmemory : memory.length = a.capacity) (actions : List (Action α)) :
    Call.final (actions.map Action.run) (a.overlaid memory) =
      (Call.final (actions.map Action.run) a).overlaid memory := by
  induction actions generalizing a with
  | nil => rfl
  | cons action actions ih =>
    obtain ⟨hstate, hcapacity⟩ := run_sound ha action
    have hrest := ih hstate (hmemory.trans hcapacity.symm)
    rw [List.map_cons, Call.final_cons, Call.final_cons, run_overlaid ha hmemory action]
    exact hrest

end Overlay

end FixedCapacity.SlotArray
