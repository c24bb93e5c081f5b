/-
  FixedCapacity.Variant.Alternatives — a closed set of alternatives and what its declaration gives it.

  A declaration lists the alternatives in order and gives each one its index, the first one zero and every
  other one more than the one before it (`indexFrom`). What all alternatives have in common is a match with
  an arm for each, in the same order (`firstArm`); as none is left out, one of the arms fits (`dispatch`).
  What is asked of a single alternative is a match with its arm only (`unwrap`).
-/

namespace FixedCapacity

/-- A closed set of alternatives: their names in the order of declaration, and what each holds. -/
structure Alternatives where
  Name : Type
  names : List Name
  Payload : Name → Type
  [decEq : DecidableEq Name]
  nodup : names.Nodup
  complete : ∀ i, i ∈ names

attribute [instance] Alternatives.decEq

namespace Alternatives

variable (A : Alternatives) {β : Type}

/-- A value of one of the alternatives. -/
abbrev Value : Type := (i : A.Name) × A.Payload i

/-- How many alternatives there are. -/
def count : Nat := A.names.length

/-! ## Indices -/

/-- The index that a declaration of these alternatives gives to one of them, counting from `start`. -/
def indexFrom (i : A.Name) (start : Nat) : List A.Name → Option Nat
  | [] => none
  | j :: rest => if j = i then some start else indexFrom i (start + 1) rest

theorem isSome_indexFrom {i : A.Name} (start : Nat) {names : List A.Name} (h : i ∈ names) :
    (A.indexFrom i start names).isSome := by
  induction names generalizing start with
  | nil => cases h
  | cons j rest ih =>
    rw [indexFrom]
    split
    · rfl
    case isFalse hne => exact ih _ ((List.mem_cons.mp h).resolve_left (Ne.symm hne))

/-- The position of an alternative in the order of declaration. -/
def position (i : A.Name) : Nat :=
  (A.indexFrom i 0 A.names).get (A.isSome_indexFrom 0 (A.complete i))

/-! ## Arms -/

/-- The arm of one alternative: what the value holds if it is of this one. -/
def unwrap (i : A.Name) (value : A.Value) : Option (A.Payload i) :=
  if same : value.1 = i then some (same ▸ value.2) else none

@[simp] theorem unwrap_self (i : A.Name) (x : A.Payload i) : A.unwrap i ⟨i, x⟩ = some x := dif_pos rfl

theorem unwrap_of_ne {i j : A.Name} (h : j ≠ i) (x : A.Payload i) : A.unwrap j ⟨i, x⟩ = none :=
  dif_neg (Ne.symm h)

/-- The first arm that fits, of one arm for each of these alternatives. -/
def firstArm (arm : (i : A.Name) → A.Payload i → β) (value : A.Value) : List A.Name → Option β
  | [] => none
  | i :: rest =>
    match A.unwrap i value with
    | some x => some (arm i x)
    | none => firstArm arm value rest

theorem firstArm_of_mem (arm : (i : A.Name) → A.Payload i → β) {i : A.Name} (x : A.Payload i)
    {names : List A.Name} (h : i ∈ names) : A.firstArm arm ⟨i, x⟩ names = some (arm i x) := by
  induction names with
  | nil => cases h
  | cons j rest ih =>
    rw [firstArm]
    by_cases same : j = i
    · subst same
      rw [unwrap_self]
    · rw [A.unwrap_of_ne same]
      exact ih ((List.mem_cons.mp h).resolve_left (Ne.symm same))

/-- A match with an arm for every alternative. -/
def dispatch (arm : (i : A.Name) → A.Payload i → β) (value : A.Value) : β :=
  (A.firstArm arm value A.names).get
    (Option.isSome_of_eq_some (A.firstArm_of_mem arm value.2 (A.complete value.1)))

/-- The arm that fits is that of the alternative whose value it is. -/
@[simp] theorem dispatch_mk (arm : (i : A.Name) → A.Payload i → β) (i : A.Name) (x : A.Payload i) :
    A.dispatch arm ⟨i, x⟩ = arm i x :=
  Option.get_of_eq_some _ (A.firstArm_of_mem arm x (A.complete i))

/-- The index of the alternative that a value is of. -/
def index (value : A.Value) : Nat := A.dispatch (fun i _ => A.position i) value

end Alternatives

end FixedCapacity
