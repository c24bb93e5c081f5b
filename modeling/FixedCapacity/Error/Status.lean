/-
  FixedCapacity.Error.Status — a value together with an error.

  A pair is fine when its error is none. A pair and a result turn into each other: a
  failed result has no value, so the pair made from it holds the default one, and a
  failure whose error is none comes back as a success.
-/

import FixedCapacity.Error.Basic

namespace FixedCapacity.Error

structure Status (α : Type) where
  value : α
  error : Error
  deriving Repr

namespace Status

variable {α β : Type}

def ofValue (a : α) : Status α := ⟨a, ofKind .none⟩

def isOk (s : Status α) : Bool := s.error.isNone

def toExcept (s : Status α) : Except Error α :=
  if s.error.isNone then .ok s.value else .error s.error

def ofExcept [Inhabited α] : Except Error α → Status α
  | .ok a => ofValue a
  | .error e => ⟨default, e⟩

def map (f : α → β) (s : Status α) : Status β := ⟨f s.value, s.error⟩

instance [Inhabited α] : Inhabited (Status α) := ⟨⟨default, default⟩⟩

instance [BEq α] : BEq (Status α) := ⟨fun a b => a.value == b.value && a.error == b.error⟩

/-- What a pair feeds a hasher: its value, then its error. -/
def digest (s : Status α) : α × Digest := (s.value, s.error.digest)

end Status

end FixedCapacity.Error
