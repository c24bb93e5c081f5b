/-
  FixedCapacity.Proofs.Bounds — what a range of positions resolves to.

  Bounds are words, and the position behind one of them need not be. `resolve_eq` says that this does not
  show: a range resolves to its ends in unbounded numbers wherever these lie within the container, and is
  refused everywhere else.
-/

import FixedCapacity.Bounds

namespace FixedCapacity.Bounds

/-- A resolved range lies within the container. -/
theorem resolve_le {bounds : Bounds} {len start stop : Nat} (h : bounds.resolve len = .ok (start, stop)) :
    start ≤ stop ∧ stop ≤ len := by
  obtain ⟨first, last⟩ := bounds
  cases first <;> cases last <;>
    simp only [resolve, successor?, bind, Except.bind] at h <;>
    repeat' split at h
  all_goals simp_all <;> omega

theorem successor?_error {n : Nat} {kind : Error.Kind} (h : successor? n = .error kind) :
    kind = .invalidArgument := by
  rw [successor?] at h
  split at h
  · cases h
  · cases h
    rfl

/-- A range that is refused is an invalid argument. -/
theorem resolve_error {bounds : Bounds} {len : Nat} {kind : Error.Kind} (h : bounds.resolve len = .error kind) :
    kind = .invalidArgument := by
  obtain ⟨first, last⟩ := bounds
  cases first <;> cases last <;>
    simp only [resolve, bind, Except.bind] at h <;>
    repeat' split at h
  all_goals grind [successor?_error]

/-- The range of the positions from `start` up to and without `stop`. -/
def between (start stop : Nat) : Bounds := ⟨.included start, .excluded stop⟩

theorem resolve_between (start stop len : Nat) :
    (between start stop).resolve len =
      if stop < start ∨ len < stop then .error .invalidArgument else .ok (start, stop) := rfl

theorem resolve_single {position len : Nat} (h : position < len) (hw : len < Call.wordLimit) :
    (single position).resolve len = .ok (position, position + 1) := by
  have hnext : position + 1 < Call.wordLimit := by omega
  simp only [single, resolve, successor?, if_pos hnext, bind, Except.bind]
  rw [if_neg (by omega)]

/-! ## Exact arithmetic -/

/-- The first position of a range, in unbounded numbers. -/
def start (bounds : Bounds) : Nat :=
  match bounds.first with
  | .unbounded => 0
  | .included n => n
  | .excluded n => n + 1

/-- The position behind a range over `len` elements, in unbounded numbers. -/
def stop (bounds : Bounds) (len : Nat) : Nat :=
  match bounds.last with
  | .unbounded => len
  | .included n => n + 1
  | .excluded n => n

/-- The range is one of `len` elements. -/
def Within (bounds : Bounds) (len : Nat) : Prop := bounds.start ≤ bounds.stop len ∧ bounds.stop len ≤ len

instance (bounds : Bounds) (len : Nat) : Decidable (bounds.Within len) := inferInstanceAs (Decidable (_ ∧ _))

/-- Whether a range from `first` up to and without `last` is one of `len` elements. -/
def checked (len first last : Nat) : Except Error.Kind (Nat × Nat) :=
  if first ≤ last ∧ last ≤ len then .ok (first, last) else .error .invalidArgument

/-- The first bound as a word. -/
def start? (bounds : Bounds) : Except Error.Kind Nat :=
  match bounds.first with
  | .unbounded => .ok 0
  | .included n => .ok n
  | .excluded n => successor? n

/-- The last bound as a word. -/
def stop? (bounds : Bounds) (len : Nat) : Except Error.Kind Nat :=
  match bounds.last with
  | .unbounded => .ok len
  | .included n => successor? n
  | .excluded n => .ok n

theorem resolve_eq_bind (bounds : Bounds) (len : Nat) :
    bounds.resolve len = bounds.start? >>= fun first => bounds.stop? len >>= fun last => checked len first last := by
  have hcheck (first last : Nat) :
      (if first > last ∨ last > len then Except.error Error.Kind.invalidArgument else .ok (first, last)) =
        checked len first last := by
    rw [checked]
    by_cases h : first ≤ last ∧ last ≤ len
    · rw [if_pos h, if_neg (by omega)]
    · rw [if_neg h, if_pos (by omega)]
  simp only [resolve, hcheck]
  obtain ⟨first, last⟩ := bounds
  cases first <;> cases last <;> rfl

/-- A bound without a successor among the words lies behind all elements. What comes of it would be refused
anyway, so nothing is lost if it is refused at once. -/
theorem successor?_bind {n len : Nat} (hw : len < Call.wordLimit)
    {next : Nat → Except Error.Kind (Nat × Nat)} (hnext : len < n + 1 → next (n + 1) = .error .invalidArgument) :
    successor? n >>= next = next (n + 1) := by
  rw [successor?]
  split
  case isTrue => rfl
  case isFalse hword => exact (hnext (by omega)).symm

theorem stop?_bind (bounds : Bounds) {len : Nat} (hw : len < Call.wordLimit) (first : Nat) :
    bounds.stop? len >>= checked len first = checked len first (bounds.stop len) := by
  obtain ⟨-, last⟩ := bounds
  cases last with
  | unbounded => rfl
  | included n => exact successor?_bind hw fun hbehind => if_neg (by omega)
  | excluded n => rfl

/-- A range is resolved as if positions had no limit. -/
theorem resolve_eq (bounds : Bounds) {len : Nat} (hw : len < Call.wordLimit) :
    bounds.resolve len =
      if bounds.Within len then .ok (bounds.start, bounds.stop len) else .error .invalidArgument := by
  have hfirst : bounds.start? >>= (fun first => checked len first (bounds.stop len)) =
      checked len bounds.start (bounds.stop len) := by
    obtain ⟨first, last⟩ := bounds
    cases first with
    | unbounded => rfl
    | included n => rfl
    | excluded n => exact successor?_bind hw fun hbehind => if_neg (by omega)
  calc bounds.resolve len
    _ = bounds.start? >>= fun first => bounds.stop? len >>= fun last => checked len first last :=
      resolve_eq_bind bounds len
    _ = bounds.start? >>= fun first => checked len first (bounds.stop len) := by simp only [stop?_bind bounds hw]
    _ = checked len bounds.start (bounds.stop len) := hfirst

end FixedCapacity.Bounds
