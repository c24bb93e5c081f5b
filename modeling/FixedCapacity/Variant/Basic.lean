/-
  FixedCapacity.Variant.Basic — one value out of a closed set of alternatives, or none.

  A variant holds a value of at most one alternative of a set. Storing a value destroys the
  one before it: `set` when the new value exists already, `setWith` before the new value is made.

  What an alternative holds is asked for by name. `get`, `overwrite`, `visit`, `base`
  are for callers that know what is stored and violate their contract otherwise; the
  calls that begin with `try` refuse instead.
-/

import FixedCapacity.Call
import FixedCapacity.Variant.Alternatives

namespace FixedCapacity

structure Variant (A : Alternatives) where
  active : Option A.Value

namespace Variant

variable {A : Alternatives} {β τ : Type}

/-- A call on a variant. -/
abbrev Op (A : Alternatives) (β : Type) := Call (Variant A) A.Value β

def empty : Variant A := ⟨none⟩

/-- A variant that holds a value. -/
def ofValue (i : A.Name) (x : A.Payload i) : Variant A := ⟨some ⟨i, x⟩⟩

def isEmpty (v : Variant A) : Bool := v.active.isNone

/-- The position of the alternative that is stored. -/
def index? (v : Variant A) : Option Nat := v.active.map A.index

/-- What is stored, if it is of a given alternative. -/
def payload? (i : A.Name) (v : Variant A) : Option (A.Payload i) := v.active.bind (A.unwrap i)

/-- Whether a given alternative is stored. -/
def holds (i : A.Name) (v : Variant A) : Bool := (v.payload? i).isSome

/-- Variants are equal when both are empty or hold equal values of one alternative. -/
instance [∀ i, BEq (A.Payload i)] : BEq (Variant A) where
  beq v w :=
    match v.active with
    | none => w.isEmpty
    | some ⟨i, x⟩ => (w.payload? i).any fun y => x == y

/-! ## Storing -/

/-- Destroys what is stored and leaves the variant empty. -/
def reset : Op A Unit := do
  let v ← Call.get
  match v.active with
  | none => pure ()
  | some old =>
    Call.set empty
    Call.record (.dropped old)

/-- Takes a value in, in the place of anything else. -/
def store (i : A.Name) (x : A.Payload i) : Op A Unit := do
  Call.set (ofValue i x)
  Call.record (.stored ⟨i, x⟩)

/-- Stores a value that was made before the call. -/
def set (i : A.Name) (x : A.Payload i) : Op A Unit := do
  Call.record (.made ⟨i, x⟩)
  reset
  store i x

/-- Stores a value that is made when the old one is gone. -/
def setWith (i : A.Name) (x : A.Payload i) : Op A Unit := do
  reset
  Call.record (.made ⟨i, x⟩)
  store i x

/-- Puts a whole new variant in the place of this one, whose value goes last. -/
def replace (i : A.Name) (x : A.Payload i) : Op A Unit := do
  Call.record (.made ⟨i, x⟩)
  let v ← Call.get
  store i x
  match v.active with
  | none => pure ()
  | some old => Call.record (.dropped old)

/-- Hands out what is stored and leaves the variant empty. -/
def take : Op A (Option A.Value) := do
  let v ← Call.get
  match v.active with
  | none => pure none
  | some held =>
    Call.set empty
    Call.record (.released held)
    pure (some held)

/-! ## Looking -/

/-- What a given alternative holds. -/
def get (i : A.Name) : Op A (A.Payload i) := do
  let v ← Call.get
  match v.payload? i with
  | some x => pure x
  | none => Call.violate (.alternativeInactive (A.position i))

def tryGet (i : A.Name) : Op A (A.Payload i) := do
  let v ← Call.get
  match v.payload? i with
  | some x => pure x
  | none =>
    Call.alert (.alternativeInactive (A.position i))
    Call.refuse .notFound

/-- Changes what a given alternative holds into another value; the old value is destroyed. -/
def overwrite (i : A.Name) (x : A.Payload i) : Op A Unit := do
  let old ← get i
  Call.record (.dropped ⟨i, old⟩)
  Call.set (ofValue i x)

/-- The same; an alternative that is not stored is refused without a word. -/
def tryOverwrite (i : A.Name) (x : A.Payload i) : Op A Unit := do
  let v ← Call.get
  match v.payload? i with
  | some old =>
    Call.record (.dropped ⟨i, old⟩)
    Call.set (ofValue i x)
  | none => Call.refuse .notFound

/-- Shows what is stored to a visitor, which has one answer for each alternative and a state of its
own. -/
def visit (visitor : (i : A.Name) → A.Payload i → τ → β × τ) (t : τ) : Op A (β × τ) := do
  let v ← Call.get
  match v.active with
  | some value => pure (A.dispatch (fun i x => visitor i x t) value)
  | none => Call.violate .emptyVariant

def tryVisit (visitor : (i : A.Name) → A.Payload i → τ → β × τ) (t : τ) :
    Op A (β × τ) := do
  let v ← Call.get
  match v.active with
  | some value => pure (A.dispatch (fun i x => visitor i x t) value)
  | none =>
    Call.alert .visitedEmpty
    Call.refuse .notFound

/-! ## The interface all alternatives share -/

/-- What is stored, seen through an interface that every alternative has. -/
def base (view : (i : A.Name) → A.Payload i → β) : Op A β := do
  let v ← Call.get
  match v.active with
  | some value => pure (A.dispatch view value)
  | none => Call.violate .emptyVariant

def tryBase (view : (i : A.Name) → A.Payload i → β) : Op A β := do
  let v ← Call.get
  match v.active with
  | some value => pure (A.dispatch view value)
  | none => Call.refuse .notFound

/-- Changes what is stored through an interface that every alternative has. -/
def modifyBase (change : (i : A.Name) → A.Payload i → A.Payload i) : Op A Unit := do
  let v ← Call.get
  match v.active with
  | some value => Call.set ⟨some (A.dispatch (fun i x => ⟨i, change i x⟩) value)⟩
  | none => Call.violate .emptyVariant

/-! ## Copies and texts -/

/-- The variant whose value is a copy of the one that is stored. -/
def cloned (copy : (i : A.Name) → A.Payload i → A.Payload i) (v : Variant A) : Variant A :=
  ⟨v.active.map fun value => ⟨value.1, copy value.1 value.2⟩⟩

/-- A variant with its fields spelled out. -/
def debug (text : (i : A.Name) → A.Payload i → String) (v : Variant A) : String :=
  let value := match v.active with
    | none => "None"
    | some ⟨i, x⟩ => "Some(" ++ text i x ++ ")"
  s!"Variant \x7b value: {value} \x7d"

end Variant

end FixedCapacity
