/-
  FixedCapacity.Proofs.SlotArray.Ownership — what one call does to elements.

  Elements come to an array from the caller, from makers and as copies. They leave it to the
  caller or are destroyed. `Balanced` says that the two sides agree, element by element:
  nothing is lost and nothing is destroyed twice. Every call balances (`run_balanced`), and
  every call is `Careful`: one that fails destroys what it was given and nothing else, and
  one that moves elements neither copies nor destroys those it moves.
-/

import FixedCapacity.Proofs.SlotArray.Refinement

namespace FixedCapacity.SlotArray

open Call (wordLimit)
open Predicate

variable {α : Type}

/-! ## What a caller hands over and gets back -/

namespace Action

/-- The elements that a call takes from its caller. One that goes in the place of another is taken
only when there is such a place. -/
def given : Action α → Outcome (Answer α) → List α
  | pushBack x, _ | emplaceBack x, _ | resize _ x, _ => [x]
  | exchange _ x, .value _ | exchangeIndex _ x, .value _ | exchangeFront x, .value _
  | exchangeBack x, .value _ => [x]
  | _, _ => []

/-- The elements that a call hands to its caller. -/
def returned : Action α → Outcome (Answer α) → List α
  | popBack, .value (.element x) | remove _, .value (.element x) | exchange _ _, .value (.element x)
  | exchangeIndex _ _, .value (.element x) | exchangeFront _, .value (.element x)
  | exchangeBack _, .value (.element x) => [x]
  | _, _ => []

end Action

theorem eq_none_of_found {found : Option α} {missing : Outcome (Answer α)} {left : List α}
    (hfail : ∀ answer, (ListReport.found found missing left).outcome ≠ .value answer) : found = none := by
  cases found with
  | none => rfl
  | some x => exact absurd rfl (hfail _)

/-- A call that fails leaves the list alone. All it wrote into the ledger are the questions of a
predicate and the end of what the caller gave. -/
theorem onList_failed (action : Action α) (capacity : Nat) (xs : List α)
    (hfail : ∀ answer, (action.onList capacity xs).outcome ≠ .value answer) :
    let r := action.onList capacity xs
    r.state = xs ∧ ∃ asked : List α,
      r.ledger = asked.map .tested ++ (action.given r.outcome).map .dropped := by
  intro r
  cases action with
  | get | index | front | back => exact ⟨rfl, [], rfl⟩
  | find y => exact ⟨rfl, Predicate.asked (fun t z => (z == y, t)) () xs, (List.append_nil _).symm⟩
  | findIf test t => exact ⟨rfl, Predicate.asked test t xs, (List.append_nil _).symm⟩
  | exchange position y | exchangeIndex position y =>
    have h := eq_none_of_found hfail
    have hset : xs.set position y = xs := List.set_eq_of_length_le (by simpa using h)
    refine ⟨hset, [], ?_⟩
    simp [r, Action.onList, ListReport.found, Action.given, h]
  | exchangeFront y | exchangeBack y =>
    obtain rfl : xs = [] := by simpa using eq_none_of_found hfail
    exact ⟨rfl, [], rfl⟩
  | reverse | fill | truncate | clear | removeIf | sort | sortBy => exact absurd rfl (hfail _)
  | pushBack | emplaceBack | emplaceNew =>
    simp only [r, Action.onList, ListReport.push] at hfail ⊢
    rw [ListReport.eq_refused rfl hfail]
    exact ⟨rfl, [], rfl⟩
  | popBack =>
    obtain rfl : xs = [] := by simpa using eq_none_of_found hfail
    exact ⟨rfl, [], rfl⟩
  | resize | resizeDefault | resizeWith =>
    simp only [r, Action.onList, ListReport.resize] at hfail ⊢
    rw [ListReport.eq_refused rfl hfail]
    exact ⟨rfl, [], rfl⟩
  | insert | extend | append =>
    simp only [r, Action.onList, ListReport.insert] at hfail ⊢
    split at hfail
    case isTrue h =>
      rw [if_pos h]
      exact ⟨rfl, [], rfl⟩
    split at hfail
    case isTrue h h' =>
      rw [if_neg h, if_pos h']
      exact ⟨rfl, [], rfl⟩
    case isFalse => exact absurd rfl (hfail _)
  | assign =>
    simp only [r, Action.onList, ListReport.assign] at hfail ⊢
    rw [ListReport.eq_refused rfl hfail]
    exact ⟨rfl, [], rfl⟩
  | remove position =>
    have h := eq_none_of_found hfail
    have herase : xs.eraseIdx position = xs := List.eraseIdx_of_length_le (by simpa using h)
    refine ⟨herase, [], ?_⟩
    simp [r, Action.onList, ListReport.found, Action.given, h]
  | removeRange bounds =>
    simp only [r, Action.onList, ListReport.removeRange] at hfail ⊢
    cases h : bounds.resolve xs.length with
    | error kind => exact ⟨rfl, [], rfl⟩
    | ok range =>
      rw [h] at hfail
      exact absurd rfl (hfail _)

variable [DecidableEq α]

/-- What was there before, was given, or came to be is there afterwards, was returned, or was destroyed. -/
def Balanced (before given after returned : List α) (ledger : List (Event α)) : Prop :=
  ∀ x, before.count x + given.count x + ledger.count (.made x) + ledger.count (.cloned x) =
    after.count x + returned.count x + ledger.count (.dropped x)

/-! ## Counting -/

section Count

variable (x : α) (xs : List α)

@[simp] theorem count_map_made : (xs.map Event.made).count (.made x) = xs.count x :=
  List.count_map_of_injective xs _ (fun _ _ => Event.made.inj) x

@[simp] theorem count_map_cloned : (xs.map Event.cloned).count (.cloned x) = xs.count x :=
  List.count_map_of_injective xs _ (fun _ _ => Event.cloned.inj) x

@[simp] theorem count_map_dropped : (xs.map Event.dropped).count (.dropped x) = xs.count x :=
  List.count_map_of_injective xs _ (fun _ _ => Event.dropped.inj) x

/-- A ledger with entries of one kind has none of another. -/
@[simp] theorem count_map_event {β : Type} {e : Event α} {f : β → Event α} (hf : ∀ b, f b ≠ e) (l : List β) :
    (l.map f).count e = 0 := by
  simp [List.count_eq_zero, hf]

theorem count_take_add_drop (n : Nat) : (xs.take n).count x + (xs.drop n).count x = xs.count x := by
  rw [← List.count_append, List.take_append_drop]

theorem count_eraseIdx_toList (position : Nat) :
    (xs.eraseIdx position).count x + xs[position]?.toList.count x = xs.count x := by
  cases h : xs[position]? with
  | none => rw [List.eraseIdx_of_length_le (by simpa using h)]; rfl
  | some y =>
    obtain ⟨hlt, rfl⟩ := List.getElem?_eq_some_iff.mp h
    rw [← (List.getElem_cons_eraseIdx_perm hlt).count_eq, Nat.add_comm, ← List.count_append]
    rfl

theorem count_set_toList (position : Nat) (y : α) :
    (xs.set position y).count x + xs[position]?.toList.count x =
      xs.count x + (xs[position]?.map fun _ => y).toList.count x := by
  cases h : xs[position]? with
  | none => rw [List.set_eq_of_length_le (by simpa using h)]; rfl
  | some old =>
    obtain ⟨hlt, rfl⟩ := List.getElem?_eq_some_iff.mp h
    have hset := (List.set_perm_cons_eraseIdx hlt y).count_eq x
    have hget := (List.getElem_cons_eraseIdx_perm hlt).count_eq x
    simp only [List.count_cons, List.count_nil, Option.map_some, Option.toList_some] at hset hget ⊢
    omega

end Count

/-- A predicate splits the elements in two. -/
theorem count_kept_add_accepted {τ : Type} (test : τ → α → Bool × τ) (t : τ) (xs : List α) (x : α) :
    (kept test t xs).count x + (accepted test t xs).count x = xs.count x := by
  induction xs generalizing t with
  | nil => rfl
  | cons y xs ih =>
    have := ih (test t y).2
    rw [kept_cons, accepted_cons]
    split <;> simp only [List.count_cons] <;> omega

/-- A removal by predicate destroys what the predicate accepts and makes nothing. -/
theorem count_judged {τ : Type} (test : τ → α → Bool × τ) (t : τ) (xs : List α) (x : α) :
    (judged test t xs).count (.dropped x) = (accepted test t xs).count x ∧
      (judged test t xs).count (.made x) = 0 ∧ (judged test t xs).count (.cloned x) = 0 := by
  induction xs generalizing t with
  | nil => exact ⟨rfl, rfl, rfl⟩
  | cons y xs ih =>
    obtain ⟨hd, hm, hc⟩ := ih (test t y).2
    rw [accepted_cons]
    simp only [judged] at hd hm hc ⊢
    cases h : (test t y).1 <;>
      simp [answers, h, List.count_cons, hd, hm, hc]

/-! ## One call -/

theorem resize_balanced (capacity : Nat) (xs : List α) (len : Nat) (fresh : List α) (entry : α → Event α)
    (hnew : ∀ x, (fresh.map entry).count (.made x) + (fresh.map entry).count (.cloned x) = fresh.count x)
    (hold : ∀ x, (fresh.map entry).count (.dropped x) = 0) :
    let r := ListReport.resize capacity xs len fresh entry
    Balanced xs [] r.state [] r.ledger := by
  intro r x
  have hsplit := count_take_add_drop x xs len
  have := hnew x
  simp only [r, ListReport.resize]
  split
  · simp
  · simp [hold, -List.map_drop, -List.map_reverse]; omega

theorem insert_balanced (capacity : Nat) (xs : List α) (position : Nat) (items : List α) :
    let r := ListReport.insert capacity xs position items
    Balanced xs [] r.state [] r.ledger := by
  intro r x
  have hsplit := count_take_add_drop x xs position
  simp only [r, ListReport.insert]
  split
  · simp
  split
  · simp
  · simp; omega

theorem truncate_balanced (xs : List α) (len : Nat) :
    let r := ListReport.truncate xs len
    Balanced xs [] r.state [] r.ledger := by
  intro r x
  have hsplit := count_take_add_drop x xs len
  simp [r, ListReport.truncate, -List.map_drop, -List.map_reverse]
  omega

theorem sort_balanced {τ : Type} (xs : List α) (compare : τ → α → α → Ordering × τ) (t : τ) :
    let r := ListReport.sort xs compare t
    Balanced xs [] r.state [] r.ledger := by
  intro r x
  have hnone (e : Event α) (he : ∀ pair, compared pair ≠ e) : r.ledger.count e = 0 := count_map_event he _
  rw [hnone (.made x) (by simp [compared]), hnone (.cloned x) (by simp [compared]),
    hnone (.dropped x) (by simp [compared])]
  simp [r, ListReport.sort, Exchange.sort_perm.count_eq]

theorem fill_balanced (xs : List α) (y : α) :
    Balanced xs [] (List.replicate xs.length y) [] (xs.flatMap fun old => [.cloned y, .dropped old]) := by
  intro x
  induction xs with
  | nil => rfl
  | cons old xs ih =>
    simp [List.count_cons, List.replicate_succ] at ih ⊢
    omega

theorem onList_balanced (action : Action α) (capacity : Nat) (xs : List α) :
    let r := action.onList capacity xs
    Balanced xs (action.given r.outcome) r.state (action.returned r.outcome) r.ledger := by
  intro r x
  cases action with
  | get | index | front | back | reverse =>
    simp [r, Action.onList, ListReport.found, Action.given, Action.returned]
  | find | findIf => simp [r, Action.onList, ListReport.search, Action.given, Action.returned]
  | exchange position y | exchangeIndex position y =>
    have hset := count_set_toList x xs position y
    cases h : xs[position]? <;>
      simp [r, Action.onList, ListReport.found, Action.given, Action.returned, h] at hset ⊢ <;> omega
  | exchangeFront y =>
    have hset := count_set_toList x xs 0 y
    rw [← List.head?_eq_getElem?] at hset
    cases h : xs.head? <;>
      simp [r, Action.onList, ListReport.found, Action.given, Action.returned, h,
        -List.head?_eq_none_iff] at hset ⊢ <;> omega
  | exchangeBack y =>
    have hset := count_set_toList x xs (xs.length - 1) y
    rw [← List.getLast?_eq_getElem?] at hset
    cases h : xs.getLast? <;>
      simp [r, Action.onList, ListReport.found, Action.given, Action.returned, h] at hset ⊢ <;> omega
  | fill y =>
    simpa [r, Action.onList, Action.given, Action.returned] using fill_balanced xs y x
  | pushBack y | emplaceBack y | emplaceNew y =>
    simp only [r, Action.onList, ListReport.push]
    split <;> simp [Action.given, Action.returned, List.count_singleton]
  | popBack =>
    have herase := count_eraseIdx_toList x xs (xs.length - 1)
    rw [← List.getLast?_eq_getElem?, List.eraseIdx_length_sub_one] at herase
    cases h : xs.getLast? <;>
      simp [r, Action.onList, ListReport.found, Action.given, Action.returned, h] at herase ⊢ <;> omega
  | truncate len => exact truncate_balanced xs len x
  | clear => exact truncate_balanced xs 0 x
  | resize len y =>
    have h := resize_balanced capacity xs len (List.replicate (len - xs.length) y) .cloned
      (by simp [List.count_replicate]) (by simp [List.count_replicate]) x
    simp [r, Action.onList, Action.given, Action.returned, List.count_singleton] at h ⊢
    omega
  | resizeDefault len =>
    exact resize_balanced capacity xs len (List.replicate (len - xs.length) default) .made
      (by simp [List.count_replicate]) (by simp [List.count_replicate]) x
  | resizeWith len make t =>
    exact resize_balanced capacity xs len (results make (len - xs.length) t) .made (by simp) (by simp) x
  | insert position items => exact insert_balanced capacity xs position items x
  | extend items => exact insert_balanced capacity xs _ items x
  | append other => exact insert_balanced capacity xs _ other.toList x
  | assign items =>
    simp only [r, Action.onList, ListReport.assign]
    split <;> simp [Action.given, Action.returned, -List.map_reverse, Nat.add_comm]
  | remove position =>
    have herase := count_eraseIdx_toList x xs position
    cases h : xs[position]? <;>
      simp [r, Action.onList, ListReport.found, Action.given, Action.returned, h] at herase ⊢ <;> omega
  | removeIf test t =>
    have hkept := count_kept_add_accepted test t xs x
    obtain ⟨hd, hm, hc⟩ := count_judged test t xs x
    simp only [r, Action.onList, ListReport.removeIf, Action.given, Action.returned, hd, hm, hc, List.count_nil]
    omega
  | removeRange bounds =>
    simp only [r, Action.onList, ListReport.removeRange]
    cases h : bounds.resolve xs.length with
    | error kind => simp [Action.given, Action.returned]
    | ok range =>
      obtain ⟨start, stop⟩ := range
      obtain ⟨hle, hstop⟩ := Bounds.resolve_le h
      have hsplit := count_take_add_drop x xs stop
      have hinner := count_take_add_drop x (xs.take stop) start
      rw [List.take_take, Nat.min_eq_left hle] at hinner
      simp [Action.given, Action.returned, -List.map_drop, -List.map_take]
      omega
  | sort => exact sort_balanced xs _ () x
  | sortBy compare t => exact sort_balanced xs compare t x

/-- A call leaves a sound array and balances. -/
theorem run_balanced {a : SlotArray α} (ha : Sound a) (action : Action α) :
    let r := action.run a
    Sound r.state ∧
      Balanced a.toList (action.given r.outcome) r.state.toList (action.returned r.outcome) r.ledger := by
  obtain ⟨xs, free, rfl, hw⟩ := sound_iff.mp ha
  have hlen := length_left action xs free
  rw [Action.run_laid action xs free hw]
  refine ⟨sound_laid _ _ (by omega), ?_⟩
  simpa using onList_balanced action (xs.length + free.length) xs

/-! ## What a call may do to elements -/

/-- What every member keeps to, whatever it is called with. -/
structure Careful (a : SlotArray α) : Prop where
  /-- A call that fails leaves the elements alone and destroys just what it was given. -/
  failing : ∀ action : Action α, (∀ answer, (action.run a).outcome ≠ .value answer) →
    (action.run a).state.toList = a.toList ∧
      ∀ x, (action.run a).ledger.count (.dropped x) = (action.given (action.run a).outcome).count x ∧
        (action.run a).ledger.count (.made x) = 0 ∧ (action.run a).ledger.count (.cloned x) = 0
  insert : ∀ position items, ((Action.insert position items).run a).ledger = [] ∨
    ((Action.insert position items).run a).ledger = items.map .cloned
  remove : ∀ position, ((Action.remove position).run a).ledger = []
  removeRange : ∀ bounds : Bounds, ((Action.removeRange bounds).run a).ledger =
    match bounds.resolve a.len with
    | .ok (start, stop) => ((a.toList.take stop).drop start).map .dropped
    | .error _ => []
  sortBy : ∀ (τ : Type) (compare : τ → α → α → Ordering × τ) (t : τ),
    ∀ event ∈ ((Action.sortBy compare t).run a).ledger, ∃ x y, event = .compared x y
  clear : (SlotArray.clear a).state.toList = [] ∧ (SlotArray.clear a).ledger = a.toList.reverse.map .dropped

theorem onList_failing (action : Action α) (capacity : Nat) (xs : List α)
    (hfail : ∀ answer, (action.onList capacity xs).outcome ≠ .value answer) :
    let r := action.onList capacity xs
    r.state = xs ∧ ∀ x, r.ledger.count (.dropped x) = (action.given r.outcome).count x ∧
      r.ledger.count (.made x) = 0 ∧ r.ledger.count (.cloned x) = 0 := by
  intro r
  obtain ⟨hstate, asked, hledger⟩ := onList_failed action capacity xs hfail
  refine ⟨hstate, fun x => ?_⟩
  rw [hledger]
  simp [r]

theorem careful {a : SlotArray α} (ha : Sound a) : Careful a := by
  obtain ⟨xs, free, rfl, hw⟩ := sound_iff.mp ha
  constructor
  case failing =>
    intro action hfail
    rw [Action.run_laid action xs free hw] at hfail ⊢
    simpa using onList_failing action _ xs hfail
  case insert =>
    intro position items
    rw [Action.run_laid _ xs free hw]
    simp only [Action.onList, ListReport.insert, Report.ledger_on]
    repeat' split
    all_goals simp
  case remove =>
    intro position
    rw [Action.run_laid _ xs free hw]
    rfl
  case removeRange =>
    intro bounds
    rw [Action.run_laid _ xs free hw]
    simp only [Action.onList, ListReport.removeRange, Report.ledger_on, toList_laid, len_laid]
    split <;> simp_all
  case sortBy =>
    intro τ compare t event hevent
    rw [Action.run_laid _ xs free hw] at hevent
    obtain ⟨pair, -, rfl⟩ := List.mem_map.mp hevent
    exact ⟨pair.1, pair.2, rfl⟩
  case clear => simp [clear_laid]

end FixedCapacity.SlotArray
