/-
  FixedCapacity.Proofs.Variant.Observers — what a variant shows over a run.

  A run is a list of commands. One command stores a value (`Command.run_storing`), empties
  the variant (`Command.run_emptying`) or writes to what is stored (`Command.run_writing`,
  `Command.run_empty`). By induction a run leaves either nothing, and nothing was stored
  since the variant was last emptied, or the value that was stored last with the writes
  since (`run_history`). What all observers show of the one and of the other is `SeenEmpty`
  and `SeenHolding`, as whole reports: they agree on the alternative, refuse every other one
  by its own position, and change nothing.
-/

import FixedCapacity.Proofs.Call
import FixedCapacity.Variant.Sets

namespace FixedCapacity

namespace Alternatives

variable (A : Alternatives)

theorem indexFrom_eq {i : A.Name} {names : List A.Name} (h : i ∈ names) (start : Nat) :
    A.indexFrom i start names = some (start + names.idxOf i) := by
  induction names generalizing start with
  | nil => cases h
  | cons j rest ih =>
    by_cases same : j = i
    · rw [indexFrom, if_pos same, List.idxOf_cons_eq rest same, Nat.add_zero]
    · have hrest : i ∈ rest := (List.mem_cons.mp h).resolve_left (Ne.symm same)
      rw [indexFrom, if_neg same, ih hrest, List.idxOf_cons_ne rest same, Nat.add_right_comm, Nat.add_assoc]

/-- The index that the declaration counts up to is the place in its order. -/
theorem position_eq (i : A.Name) : A.position i = A.names.idxOf i := by
  have hfound := A.indexFrom_eq (A.complete i) 0
  rw [Nat.zero_add] at hfound
  exact Option.get_of_eq_some _ hfound

theorem position_lt (i : A.Name) : A.position i < A.count := by
  rw [position_eq]
  exact List.idxOf_lt_length_of_mem (A.complete i)

/-- Alternatives are numbered in the order of declaration. -/
theorem position_names {k : Nat} (h : k < A.count) : A.position A.names[k] = k := by
  rw [position_eq]
  exact A.nodup.idxOf_getElem k h

theorem position_inj {i j : A.Name} : A.position i = A.position j ↔ i = j := by
  rw [position_eq, position_eq]
  exact List.idxOf_inj (A.complete i)

theorem position_bijOn : Set.BijOn A.position Set.univ (Set.Iio A.count) := by
  refine ⟨fun i _ => A.position_lt i, fun i _ j _ h => A.position_inj.mp h, fun k hk => ?_⟩
  exact ⟨A.names[k], trivial, A.position_names hk⟩

end Alternatives

namespace Variant

variable {A : Alternatives} {i : A.Name} {x : A.Payload i}

theorem eq_empty_or (v : Variant A) : v = empty ∨ ∃ i x, v = ofValue i x := by
  obtain ⟨_ | ⟨i, x⟩⟩ := v
  · exact .inl rfl
  · exact .inr ⟨i, x, rfl⟩

/-! ## Observers -/

/-- What all observers of one alternative show when it is not stored. -/
structure Refused (v : Variant A) (i : A.Name) : Prop where
  is : v.holds i = false
  read : get i v = ⟨.violation (.alternativeInactive (A.position i)), v, [], []⟩
  tried : tryGet i v = ⟨.error .notFound, v, [.alert (.alternativeInactive (A.position i))], []⟩
  written : ∀ y, overwrite i y v = ⟨.violation (.alternativeInactive (A.position i)), v, [], []⟩
  writeTried : ∀ y, tryOverwrite i y v = ⟨.error .notFound, v, [], []⟩

/-- What all observers show of a variant that holds nothing. -/
structure SeenEmpty (v : Variant A) : Prop where
  bare : v.isEmpty = true
  index : v.index? = none
  refused : ∀ i, Refused v i
  visited : ∀ {β τ : Type} (visitor : (i : A.Name) → A.Payload i → τ → β × τ) (t : τ),
    visit visitor t v = ⟨.violation .emptyVariant, v, [], []⟩ ∧
      tryVisit visitor t v = ⟨.error .notFound, v, [.alert .visitedEmpty], []⟩
  based : ∀ {β : Type} (view : (i : A.Name) → A.Payload i → β),
    base view v = ⟨.violation .emptyVariant, v, [], []⟩ ∧ tryBase view v = ⟨.error .notFound, v, [], []⟩
  baseWritten : ∀ change, modifyBase change v = ⟨.violation .emptyVariant, v, [], []⟩

/-- What all observers show of a variant that holds this value of this alternative. -/
structure SeenHolding (v : Variant A) (i : A.Name) (x : A.Payload i) : Prop where
  bare : v.isEmpty = false
  index : v.index? = some (A.position i)
  is : ∀ j, v.holds j = true ↔ j = i
  read : get i v = ⟨.value x, v, [], []⟩ ∧ tryGet i v = ⟨.value x, v, [], []⟩
  written : ∀ y, overwrite i y v = ⟨.value (), ofValue i y, [], [.dropped ⟨i, x⟩]⟩ ∧
    tryOverwrite i y v = ⟨.value (), ofValue i y, [], [.dropped ⟨i, x⟩]⟩
  visited : ∀ {β τ : Type} (visitor : (i : A.Name) → A.Payload i → τ → β × τ) (t : τ),
    visit visitor t v = ⟨.value (visitor i x t), v, [], []⟩ ∧
      tryVisit visitor t v = ⟨.value (visitor i x t), v, [], []⟩
  based : ∀ {β : Type} (view : (i : A.Name) → A.Payload i → β),
    base view v = ⟨.value (view i x), v, [], []⟩ ∧ tryBase view v = ⟨.value (view i x), v, [], []⟩
  baseWritten : ∀ change, modifyBase change v = ⟨.value (), ofValue i (change i x), [], []⟩
  refused : ∀ j, j ≠ i → Refused v j

@[simp] theorem payload?_empty (i : A.Name) : (empty : Variant A).payload? i = none := rfl

@[simp] theorem payload?_ofValue : (ofValue i x).payload? i = some x := by simp [payload?, ofValue]

theorem payload?_ofValue_of_ne {j : A.Name} (h : j ≠ i) : (ofValue i x).payload? j = none := by
  simp [payload?, ofValue, A.unwrap_of_ne h]

/-- Every observer of an alternative asks for what it holds. -/
theorem refused_of_payload? {v : Variant A} (h : v.payload? i = none) : Refused v i where
  is := by simp [holds, h]
  read := by simp [get, h]
  tried := by simp [tryGet, h]
  written y := by simp [overwrite, get, h]
  writeTried y := by simp [tryOverwrite, h]

theorem seenEmpty : SeenEmpty (empty : Variant A) where
  bare := rfl
  index := rfl
  refused i := refused_of_payload? (payload?_empty i)
  visited _ _ := ⟨rfl, rfl⟩
  based _ := ⟨rfl, rfl⟩
  baseWritten _ := rfl

theorem seenHolding (i : A.Name) (x : A.Payload i) : SeenHolding (ofValue i x) i x where
  bare := rfl
  index := congrArg some (A.dispatch_mk _ i x)
  is j := by
    constructor
    · intro h
      by_contra hne
      simp [holds, payload?_ofValue_of_ne hne] at h
    · rintro rfl
      simp [holds]
  read := ⟨by simp [get], by simp [tryGet]⟩
  written y := ⟨by simp [overwrite, get], by simp [tryOverwrite]⟩
  visited _ _ := ⟨by simp [visit, ofValue], by simp [tryVisit, ofValue]⟩
  based _ := ⟨by simp [base, ofValue], by simp [tryBase, ofValue]⟩
  baseWritten _ := by simp [modifyBase, ofValue]
  refused j h := refused_of_payload? (payload?_ofValue_of_ne h)

/-! ## Commands -/

/-- What is done to a variant over a run. A write puts a value made from the old one in its place,
and a clone takes the place of the variant that it was made from. -/
inductive Command (A : Alternatives) where
  | set (i : A.Name) (x : A.Payload i)
  | setWith (i : A.Name) (x : A.Payload i)
  | replace (i : A.Name) (x : A.Payload i)
  | reset
  | take
  | write (i : A.Name) (change : A.Payload i → A.Payload i)
  | tryWrite (i : A.Name) (change : A.Payload i → A.Payload i)
  | modifyBase (change : (i : A.Name) → A.Payload i → A.Payload i)
  | clone (copy : (i : A.Name) → A.Payload i → A.Payload i)

namespace Command

def run : Command A → Op A Unit
  | .set i x => Variant.set i x
  | .setWith i x => Variant.setWith i x
  | .replace i x => Variant.replace i x
  | .reset => Variant.reset
  | .take => do
    let _ ← Variant.take
    pure ()
  | .write i change => do Variant.overwrite i (change (← Variant.get i))
  | .tryWrite i change => do
    match (← Call.get).payload? i with
    | some old => Variant.tryOverwrite i (change old)
    | none => Call.refuse .notFound
  | .modifyBase change => Variant.modifyBase change
  | .clone copy => do Call.set ((← Call.get).cloned copy)

/-- What a command stores, whatever was stored before. -/
def stored? : Command A → Option A.Value
  | .set i x | .setWith i x | .replace i x => some ⟨i, x⟩
  | _ => none

def empties : Command A → Bool
  | .reset | .take => true
  | _ => false

/-- What a command that neither stores nor empties makes of the value of an alternative. -/
def written (i : A.Name) : Command A → A.Payload i → A.Payload i
  | .write j change, x | .tryWrite j change, x => Function.update (fun _ => id) j change i x
  | .modifyBase change, x => change i x
  | .clone copy, x => copy i x
  | _, x => x

theorem run_empty (c : Command A) : (c.run empty).state = ⟨c.stored?⟩ := by
  cases c <;> rfl

theorem run_storing {c : Command A} {value : A.Value} (h : c.stored? = some value) (v : Variant A) :
    (c.run v).state = ⟨some value⟩ := by
  obtain ⟨active⟩ := v
  cases c <;> cases h <;> cases active <;> rfl

theorem run_emptying {c : Command A} (h : c.empties = true) (v : Variant A) : (c.run v).state = empty := by
  obtain ⟨active⟩ := v
  cases c <;> cases h <;> cases active <;> rfl

theorem run_write_active (change : A.Payload i → A.Payload i) :
    (Command.write i change).run (ofValue i x) = ⟨.value (), ofValue i (change x), [], [.dropped ⟨i, x⟩]⟩ ∧
      (Command.tryWrite i change).run (ofValue i x) =
        ⟨.value (), ofValue i (change x), [], [.dropped ⟨i, x⟩]⟩ := by
  have hheld := seenHolding i x
  exact ⟨by simp [run, hheld.read.1, (hheld.written _).1], by simp [run, (hheld.written _).2]⟩

theorem run_write_inactive {j : A.Name} (h : j ≠ i) (change : A.Payload j → A.Payload j) :
    ((Command.write j change).run (ofValue i x)).state = ofValue i x ∧
      ((Command.tryWrite j change).run (ofValue i x)).state = ofValue i x := by
  have hrefused := (seenHolding i x).refused j h
  exact ⟨by simp [run, hrefused.read], by simp [run, payload?_ofValue_of_ne h]⟩

theorem run_writing {c : Command A} (hstores : c.stored? = none) (hempties : c.empties = false) :
    (c.run (ofValue i x)).state = ofValue i (c.written i x) := by
  cases c with
  | set | setWith | replace => cases hstores
  | reset | take => cases hempties
  | write j change =>
    by_cases same : j = i
    · subst same
      rw [(run_write_active change).1, written, Function.update_self]
    · rw [(run_write_inactive same change).1, written, Function.update_of_ne (Ne.symm same), id]
  | tryWrite j change =>
    by_cases same : j = i
    · subst same
      rw [(run_write_active change).2, written, Function.update_self]
    · rw [(run_write_inactive same change).2, written, Function.update_of_ne (Ne.symm same), id]
  | modifyBase change => rw [run, (seenHolding i x).baseWritten, written]
  | clone copy => rfl

/-- A command that does not end well changes nothing. -/
theorem run_failed (c : Command A) (v : Variant A) (h : (c.run v).outcome ≠ .value ()) :
    (c.run v).state = v := by
  rcases eq_empty_or v with rfl | ⟨i, x, rfl⟩
  · cases c <;> first | rfl | exact absurd rfl h
  cases c with
  | write j change =>
    by_cases same : j = i
    · subst same
      exact absurd (congrArg Report.outcome (run_write_active change).1) h
    · exact (run_write_inactive same change).1
  | tryWrite j change =>
    by_cases same : j = i
    · subst same
      exact absurd (congrArg Report.outcome (run_write_active change).2) h
    · exact (run_write_inactive same change).2
  | _ => exact absurd rfl h

end Command

/-! ## Runs -/

/-- The variant after commands on an empty one. -/
def after (commands : List (Command A)) : Variant A := Call.final (commands.map Command.run) empty

/-- Nothing was stored since the beginning, or since the variant was last emptied. -/
def NothingStored (commands : List (Command A)) : Prop :=
  ∃ earlier later, commands = earlier ++ later ∧ (∀ c ∈ earlier.getLast?, c.empties = true) ∧
    ∀ c ∈ later, c.stored? = none

/-- What was stored last, with the writes since. -/
def StoredLast (commands : List (Command A)) (i : A.Name) (x : A.Payload i) : Prop :=
  ∃ earlier store later first, commands = earlier ++ store :: later ∧ store.stored? = some ⟨i, first⟩ ∧
    (∀ c ∈ later, c.stored? = none ∧ c.empties = false) ∧ x = later.foldl (fun x c => c.written i x) first

section History

variable {commands : List (Command A)} {c : Command A}

theorem nothingStored_of_empties (commands : List (Command A)) (h : c.empties = true) :
    NothingStored (commands ++ [c]) :=
  ⟨commands ++ [c], [], (List.append_nil _).symm, by simp [h], by simp⟩

theorem NothingStored.concat (h : NothingStored commands) (hc : c.stored? = none) :
    NothingStored (commands ++ [c]) := by
  obtain ⟨earlier, later, rfl, hemptied, hlater⟩ := h
  refine ⟨earlier, later ++ [c], List.append_assoc .., hemptied, fun d hd => ?_⟩
  rcases List.mem_append.mp hd with hd | hd
  · exact hlater d hd
  · rwa [List.mem_singleton.mp hd]

theorem storedLast_of_stored (commands : List (Command A)) (h : c.stored? = some ⟨i, x⟩) :
    StoredLast (commands ++ [c]) i x :=
  ⟨commands, c, [], x, rfl, h, by simp, rfl⟩

theorem StoredLast.concat (h : StoredLast commands i x) (hstores : c.stored? = none)
    (hempties : c.empties = false) : StoredLast (commands ++ [c]) i (c.written i x) := by
  obtain ⟨earlier, store, later, first, rfl, hstore, hlater, rfl⟩ := h
  refine ⟨earlier, store, later ++ [c], first, by simp, hstore, fun d hd => ?_, by simp⟩
  rcases List.mem_append.mp hd with hd | hd
  · exact hlater d hd
  · rw [List.mem_singleton.mp hd]
    exact ⟨hstores, hempties⟩

/-- A run leaves what was stored last with the writes since, or nothing. -/
theorem run_history (commands : List (Command A)) :
    (NothingStored commands ∧ after commands = empty) ∨
      ∃ i x, StoredLast commands i x ∧ after commands = ofValue i x := by
  induction commands using List.reverseRecOn with
  | nil => exact .inl ⟨⟨[], [], rfl, by simp, by simp⟩, rfl⟩
  | append_singleton commands c ih =>
    have hlast : after (commands ++ [c]) = (c.run (after commands)).state := by
      rw [after, List.map_append, List.map_singleton, Call.final_concat, after]
    rw [hlast]
    cases hstored : c.stored? with
    | some value =>
      exact .inr ⟨value.1, value.2, storedLast_of_stored commands hstored, Command.run_storing hstored _⟩
    | none =>
      cases hempties : c.empties with
      | true => exact .inl ⟨nothingStored_of_empties commands hempties, Command.run_emptying hempties _⟩
      | false =>
        rcases ih with ⟨hnothing, hempty⟩ | ⟨i, x, hlast, hholding⟩
        · rw [hempty, Command.run_empty, hstored]
          exact .inl ⟨hnothing.concat hstored, rfl⟩
        · rw [hholding, Command.run_writing hstored hempties]
          exact .inr ⟨i, _, hlast.concat hstored hempties, rfl⟩

end History

/-- The observers of variants over a set of alternatives agree. -/
structure ObserversAgree (A : Alternatives) : Prop where
  /-- After every run they show nothing, or they all show what was stored last with the writes
  since. -/
  runs : ∀ commands : List (Command A),
    (NothingStored commands ∧ SeenEmpty (after commands)) ∨
      ∃ i x, StoredLast commands i x ∧ SeenHolding (after commands) i x
  failed : ∀ (c : Command A) (v : Variant A), (c.run v).outcome ≠ .value () → (c.run v).state = v
  /-- Positions in the order of declaration tell the alternatives apart and leave none out. -/
  positions : Set.BijOn A.position Set.univ (Set.Iio A.count)
  declared : ∀ k (h : k < A.count), A.position A.names[k] = k
  indexed : ∀ (v : Variant A) (j : A.Name), v.index? = some (A.position j) ↔ v.holds j = true

theorem observers_agree (A : Alternatives) : ObserversAgree A where
  runs commands := by
    rcases run_history commands with ⟨hnothing, hempty⟩ | ⟨i, x, hlast, hholding⟩
    · rw [hempty]
      exact .inl ⟨hnothing, seenEmpty⟩
    · rw [hholding]
      exact .inr ⟨i, x, hlast, seenHolding i x⟩
  failed := Command.run_failed
  positions := A.position_bijOn
  declared k h := A.position_names h
  indexed v j := by
    rcases eq_empty_or v with rfl | ⟨i, x, rfl⟩
    · simp [seenEmpty.index, (seenEmpty.refused j).is]
    · rw [(seenHolding i x).index, Option.some.injEq, A.position_inj, (seenHolding i x).is j]
      exact eq_comm

example :
    after (A := shapes)
        [.set .rect (2, 3), .write .square fun (side : UInt32) => side + 1, .modifyBase (Shape.scale 2)] =
      ofValue (A := shapes) .rect (4, 6) := by
  rfl

end Variant

end FixedCapacity
