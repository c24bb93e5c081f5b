/-
  FixedCapacity.Proofs.Variant.Lifetime — every value of a variant goes once, and before the next one.

  The ledger of a run is in order (`Orderly`) when values are taken in and go in turn: a value is
  taken in only where none is held, and what goes is what is held. One use of a variant does one of
  five things (`run_step`), each in order (`Step.orderly`), and by induction every course of uses is,
  with the end of the variant as the last event (`course_orderly`). From the order alone: at each
  moment what was taken in is what is gone and at most one value more (`Orderly.balance`).

  The two setters differ in when the new value is made: `set` finds it made and destroys the old one
  then, `setWith` makes it when the old one is gone (`set_apply`, `setWith_apply`). Putting a whole
  variant in the place of another one is out of order (`replace_overlaps`).
-/

import FixedCapacity.Proofs.Variant.Observers

namespace FixedCapacity.Variant

variable {A : Alternatives}

/-! ## Ledgers in order -/

section Ledger

variable {α : Type}

/-- The values taken in, in order. -/
def storedIn (events : List (Event α)) : List α :=
  events.filterMap fun
    | .stored a => some a
    | _ => none

/-- The values that are gone, destroyed or handed out, in order. -/
def goneIn (events : List (Event α)) : List α :=
  events.filterMap fun
    | .dropped a | .released a => some a
    | _ => none

/-- The values that makers built, in order. -/
def madeIn (events : List (Event α)) : List α :=
  events.filterMap fun
    | .made a => some a
    | _ => none

/-- What an event makes of the value that is held. -/
inductive Moves : Option α → Event α → Option α → Prop
  | made (held : Option α) (a : α) : Moves held (.made a) held
  | stored (a : α) : Moves none (.stored a) (some a)
  | dropped (a : α) : Moves (some a) (.dropped a) none
  | released (a : α) : Moves (some a) (.released a) none

/-- Events that begin with one value held, or none, and leave another one, or none. -/
inductive Orderly : Option α → List (Event α) → Option α → Prop
  | nil (held : Option α) : Orderly held [] held
  | cons {held next left : Option α} {event : Event α} {events : List (Event α)}
      (first : Moves held event next) (rest : Orderly next events left) : Orderly held (event :: events) left

namespace Orderly

variable {held mid left : Option α} {earlier later events : List (Event α)}

theorem append (h : Orderly held earlier mid) (h' : Orderly mid later left) :
    Orderly held (earlier ++ later) left := by
  induction h with
  | nil => exact h'
  | cons first _ ih => exact .cons first (ih h')

theorem split (h : Orderly held (earlier ++ later) left) :
    ∃ mid, Orderly held earlier mid ∧ Orderly mid later left := by
  induction earlier generalizing held with
  | nil => exact ⟨held, .nil held, h⟩
  | cons event earlier ih =>
    obtain _ | ⟨first, rest⟩ := h
    obtain ⟨mid, hearlier, hlater⟩ := ih rest
    exact ⟨mid, .cons first hearlier, hlater⟩

/-- Of the values that were ever held, those that are gone went first, and one may be left. -/
theorem balance (h : Orderly held events left) :
    held.toList ++ storedIn events = goneIn events ++ left.toList := by
  induction h with
  | nil held => exact List.append_nil _
  | cons first _ ih =>
    cases first with
    | made held a => exact ih
    | stored a => exact ih
    | dropped a => exact congrArg (a :: ·) ih
    | released a => exact congrArg (a :: ·) ih

/-- A value is taken in when all values before it are gone. -/
theorem before_stored {a : α} (h : Orderly held (earlier ++ .stored a :: later) left) :
    held.toList ++ storedIn earlier = goneIn earlier := by
  obtain ⟨mid, hearlier, hlater⟩ := h.split
  obtain _ | ⟨first, -⟩ := hlater
  cases first with
  | stored a => rw [hearlier.balance, Option.toList_none, List.append_nil]

end Orderly

end Ledger

/-! ## Uses -/

/-- The end of what a variant holds. -/
def drops (v : Variant A) : List (Event A.Value) := v.active.toList.map .dropped

theorem reset_apply (v : Variant A) : reset v = ⟨.value (), empty, [], v.drops⟩ := by
  obtain ⟨_ | old⟩ := v <;> rfl

/-- The new value is there before the old one is destroyed, and is taken in after that. -/
theorem set_apply (i : A.Name) (x : A.Payload i) (v : Variant A) :
    set i x v = ⟨.value (), ofValue i x, [], .made ⟨i, x⟩ :: v.drops ++ [.stored ⟨i, x⟩]⟩ := by
  obtain ⟨_ | old⟩ := v <;> rfl

/-- The old value is destroyed before the new one is made. -/
theorem setWith_apply (i : A.Name) (x : A.Payload i) (v : Variant A) :
    setWith i x v = ⟨.value (), ofValue i x, [], v.drops ++ [.made ⟨i, x⟩, .stored ⟨i, x⟩]⟩ := by
  obtain ⟨_ | old⟩ := v <;> rfl

theorem take_apply (v : Variant A) :
    take v = ⟨.value v.active, empty, [], v.active.toList.map .released⟩ := by
  obtain ⟨_ | old⟩ := v <;> rfl

/-- What is done to a variant over its life: values come and go, and anybody looks. -/
inductive Use (A : Alternatives) : Type 1
  | set (i : A.Name) (x : A.Payload i)
  | setWith (i : A.Name) (x : A.Payload i)
  | reset
  | take
  | get (i : A.Name)
  | tryGet (i : A.Name)
  | visit {β τ : Type} (visitor : (i : A.Name) → A.Payload i → τ → β × τ) (t : τ)
  | tryVisit {β τ : Type} (visitor : (i : A.Name) → A.Payload i → τ → β × τ) (t : τ)
  | base {β : Type} (view : (i : A.Name) → A.Payload i → β)
  | tryBase {β : Type} (view : (i : A.Name) → A.Payload i → β)

namespace Use

/-- A use; what it answers is left to the calls themselves. -/
def run : Use A → Op A Unit
  | .set i x => Variant.set i x
  | .setWith i x => Variant.setWith i x
  | .reset => Variant.reset
  | .take => Function.const _ () <$> Variant.take
  | .get i => Function.const _ () <$> Variant.get i
  | .tryGet i => Function.const _ () <$> Variant.tryGet i
  | .visit visitor t => Function.const _ () <$> Variant.visit visitor t
  | .tryVisit visitor t => Function.const _ () <$> Variant.tryVisit visitor t
  | .base view => Function.const _ () <$> Variant.base view
  | .tryBase view => Function.const _ () <$> Variant.tryBase view

def looks : Use A → Bool
  | .set .. | .setWith .. | .reset | .take => false
  | _ => true

/-- Looking neither changes a variant nor does anything to values, whether it finds one or not. -/
theorem run_look {use : Use A} (h : use.looks = true) (v : Variant A) :
    (use.run v).state = v ∧ (use.run v).ledger = [] := by
  cases use with
  | set | setWith | reset | take => cases h
  | get i => cases hfound : v.payload? i <;> simp [run, Variant.get, hfound]
  | tryGet i => cases hfound : v.payload? i <;> simp [run, Variant.tryGet, hfound]
  | visit | tryVisit | base | tryBase => obtain ⟨_ | held⟩ := v <;> exact ⟨rfl, rfl⟩

end Use

/-- What one use does: the ledger it adds and the variant it leaves. -/
inductive Step (v : Variant A) : List (Event A.Value) → Variant A → Prop
  | look : Step v [] v
  | set (i : A.Name) (x : A.Payload i) : Step v (.made ⟨i, x⟩ :: v.drops ++ [.stored ⟨i, x⟩]) (ofValue i x)
  | setWith (i : A.Name) (x : A.Payload i) : Step v (v.drops ++ [.made ⟨i, x⟩, .stored ⟨i, x⟩]) (ofValue i x)
  | reset : Step v v.drops empty
  | take : Step v (v.active.toList.map .released) empty

theorem run_step (use : Use A) (v : Variant A) : Step v (use.run v).ledger (use.run v).state := by
  by_cases hlooks : use.looks = true
  · obtain ⟨hstate, hledger⟩ := Use.run_look hlooks v
    rw [hstate, hledger]
    exact .look
  cases use with
  | set i x =>
    rw [Use.run, set_apply]
    exact .set i x
  | setWith i x =>
    rw [Use.run, setWith_apply]
    exact .setWith i x
  | reset =>
    rw [Use.run, reset_apply]
    exact .reset
  | take =>
    rw [Use.run, Call.map_apply, take_apply]
    exact .take
  | get | tryGet | visit | tryVisit | base | tryBase => exact absurd rfl hlooks

theorem orderly_drops (v : Variant A) : Orderly v.active v.drops none := by
  obtain ⟨_ | old⟩ := v
  · exact .nil none
  · exact .cons (.dropped old) (.nil none)

namespace Step

variable {v w : Variant A} {events : List (Event A.Value)}

theorem orderly (h : Step v events w) : Orderly v.active events w.active := by
  cases h with
  | look => exact .nil _
  | set i x => exact .cons (.made _ _) (v.orderly_drops.append (.cons (.stored _) (.nil _)))
  | setWith i x => exact v.orderly_drops.append (.cons (.made _ _) (.cons (.stored _) (.nil _)))
  | reset => exact v.orderly_drops
  | take =>
    obtain ⟨_ | held⟩ := v
    · exact .nil none
    · exact .cons (.released held) (.nil none)

/-- What makers build in a use is taken in by it. -/
theorem made_eq (h : Step v events w) : madeIn events = storedIn events := by
  obtain ⟨_ | held⟩ := v <;> cases h <;> rfl

/-- A use of an empty variant destroys nothing and hands out nothing. -/
theorem gone_of_empty (h : Step empty events w) : goneIn events = [] := by
  cases h <;> rfl

end Step

/-! ## Courses -/

/-- What happens to values from now to the end of a variant, which is used some times before. Its end
is the end of what it holds, as a last `reset` is. -/
def course : List (Use A) → Variant A → List (Event A.Value)
  | [], v => (reset v).ledger
  | use :: uses, v => (use.run v).ledger ++ course uses (use.run v).state

theorem course_orderly (uses : List (Use A)) (v : Variant A) : Orderly v.active (course uses v) none := by
  induction uses generalizing v with
  | nil =>
    rw [course, reset_apply]
    exact v.orderly_drops
  | cons use uses ih => exact (run_step use v).orderly.append (ih (use.run v).state)

/-- A course goes on where its first uses left the variant. -/
theorem course_append (uses : List (Use A)) (v : Variant A) :
    ∃ (earlier : List (Event A.Value)) (w : Variant A), Orderly v.active earlier w.active ∧
      ∀ more, course (uses ++ more) v = earlier ++ course more w := by
  induction uses generalizing v with
  | nil => exact ⟨[], v, .nil _, fun more => rfl⟩
  | cons use uses ih =>
    obtain ⟨earlier, w, horderly, hcourse⟩ := ih (use.run v).state
    refine ⟨(use.run v).ledger ++ earlier, w, (run_step use v).orderly.append horderly, fun more => ?_⟩
    rw [List.cons_append, course, hcourse, List.append_assoc]

/-- Wherever in a course a value is set, it is made while the old one is held. -/
theorem course_set (uses more : List (Use A)) (v : Variant A) (i : A.Name) (x : A.Payload i) :
    ∃ (earlier later : List (Event A.Value)) (held : Option A.Value),
      course (uses ++ .set i x :: more) v =
          earlier ++ .made ⟨i, x⟩ :: held.toList.map .dropped ++ .stored ⟨i, x⟩ :: later ∧
        v.active.toList ++ storedIn earlier = goneIn earlier ++ held.toList := by
  obtain ⟨earlier, w, horderly, hcourse⟩ := course_append uses v
  refine ⟨earlier, course more (ofValue i x), w.active, ?_, horderly.balance⟩
  rw [hcourse, course, Use.run, set_apply]
  simp [drops]

/-- Wherever in a course a value is set by its maker, nothing is held when the maker runs. -/
theorem course_setWith (uses more : List (Use A)) (v : Variant A) (i : A.Name) (x : A.Payload i) :
    ∃ earlier later : List (Event A.Value),
      course (uses ++ .setWith i x :: more) v = earlier ++ .made ⟨i, x⟩ :: .stored ⟨i, x⟩ :: later ∧
        v.active.toList ++ storedIn earlier = goneIn earlier := by
  obtain ⟨earlier, w, horderly, hcourse⟩ := course_append uses v
  refine ⟨earlier ++ w.drops, course more (ofValue i x), ?_, ?_⟩
  · rw [hcourse, course, Use.run, setWith_apply]
    simp
  · rw [(horderly.append w.orderly_drops).balance, Option.toList_none, List.append_nil]

theorem course_made (uses : List (Use A)) (v : Variant A) : madeIn (course uses v) = storedIn (course uses v) := by
  induction uses generalizing v with
  | nil => exact (run_step .reset v).made_eq
  | cons use uses ih =>
    have happend (events events' : List (Event A.Value)) :
        madeIn (events ++ events') = madeIn events ++ madeIn events' ∧
          storedIn (events ++ events') = storedIn events ++ storedIn events' :=
      ⟨List.filterMap_append, List.filterMap_append⟩
    rw [course, (happend _ _).1, (happend _ _).2, (run_step use v).made_eq, ih]

/-- Putting a whole variant in the place of one that holds a value takes the new value in while the
old one is held. -/
theorem replace_overlaps {i j : A.Name} (x : A.Payload i) (y : A.Payload j) (left : Option A.Value) :
    ¬ Orderly (some ⟨i, x⟩) (replace j y (ofValue i x)).ledger left := by
  intro h
  have hledger : (replace j y (ofValue i x)).ledger = [.made ⟨j, y⟩, .stored ⟨j, y⟩, .dropped ⟨i, x⟩] := rfl
  rw [hledger] at h
  cases h with
  | cons hmade rest =>
    cases hmade
    cases rest with
    | cons hstored _ => cases hstored

/-- Each value of a variant goes once, and in time. -/
structure GoInTime (A : Alternatives) : Prop where
  inOrder : ∀ (uses : List (Use A)) v, Orderly v.active (course uses v) none
  /-- Up to any moment, what was held is gone, in the same order, but for one value at most. -/
  oneAtATime : ∀ (uses : List (Use A)) v earlier later, course uses v = earlier ++ later →
    ∃ held : Option A.Value, v.active.toList ++ storedIn earlier = goneIn earlier ++ held.toList
  beforeNext : ∀ (uses : List (Use A)) v earlier value later, course uses v = earlier ++ .stored value :: later →
    v.active.toList ++ storedIn earlier = goneIn earlier
  onceEach : ∀ (uses : List (Use A)) v, v.active.toList ++ storedIn (course uses v) = goneIn (course uses v)
  made : ∀ (uses : List (Use A)) v, madeIn (course uses v) = storedIn (course uses v)
  /-- The value that `take` answers with is the one it hands out. -/
  taken : ∀ v : Variant A, take v = ⟨.value v.active, empty, [], v.active.toList.map .released⟩
  argumentFirst : ∀ (uses more : List (Use A)) v i x,
    ∃ (earlier later : List (Event A.Value)) (held : Option A.Value),
      course (uses ++ .set i x :: more) v =
          earlier ++ .made ⟨i, x⟩ :: held.toList.map .dropped ++ .stored ⟨i, x⟩ :: later ∧
        v.active.toList ++ storedIn earlier = goneIn earlier ++ held.toList
  makerLast : ∀ (uses more : List (Use A)) v i x, ∃ earlier later : List (Event A.Value),
    course (uses ++ .setWith i x :: more) v = earlier ++ .made ⟨i, x⟩ :: .stored ⟨i, x⟩ :: later ∧
      v.active.toList ++ storedIn earlier = goneIn earlier
  looks : ∀ (use : Use A), use.looks = true → ∀ v, (use.run v).state = v ∧ (use.run v).ledger = []
  /-- A value that is not found is not written to either. -/
  missed : ∀ (v : Variant A) i, v.payload? i = none → ∀ x,
    (overwrite i x v).state = v ∧ (overwrite i x v).ledger = [] ∧
      (tryOverwrite i x v).state = v ∧ (tryOverwrite i x v).ledger = []
  bare : ∀ use : Use A, goneIn (use.run empty).ledger = []
  resetTwice : ∀ v : Variant A, reset (reset v).state = ⟨.value (), empty, [], []⟩

theorem values_go_in_time (A : Alternatives) : GoInTime A where
  inOrder := course_orderly
  oneAtATime uses v earlier later h := by
    obtain ⟨held, hearlier, -⟩ := (h ▸ course_orderly uses v).split
    exact ⟨held, hearlier.balance⟩
  beforeNext uses v earlier value later h := (h ▸ course_orderly uses v).before_stored
  onceEach uses v := by rw [(course_orderly uses v).balance, Option.toList_none, List.append_nil]
  made := course_made
  taken := take_apply
  argumentFirst := course_set
  makerLast := course_setWith
  looks use h := Use.run_look h
  missed v i h x := by
    have hrefused := refused_of_payload? h
    rw [hrefused.written, hrefused.writeTried]
    exact ⟨rfl, rfl, rfl, rfl⟩
  bare use := (run_step use empty).gone_of_empty
  resetTwice v := by
    rw [reset_apply v]
    rfl

example :
    course (A := cells) [.set .tracked (1 : Int), .setWith .plain (5 : UInt8), .reset] empty =
      [.made ⟨.tracked, (1 : Int)⟩, .stored ⟨.tracked, (1 : Int)⟩, .dropped ⟨.tracked, (1 : Int)⟩,
        .made ⟨.plain, (5 : UInt8)⟩, .stored ⟨.plain, (5 : UInt8)⟩, .dropped ⟨.plain, (5 : UInt8)⟩] := by
  rfl

end FixedCapacity.Variant
