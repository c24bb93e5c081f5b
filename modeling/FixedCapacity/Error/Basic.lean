/-
  FixedCapacity.Error.Basic — an error: a kind, perhaps an operating-system number,
  perhaps the place where it was first noticed.

  Two errors are the same when their numbers agree, if either has one, and when their
  kinds agree otherwise. Where an error was noticed plays no part in that. `is` asks
  the same of one side only: the number counts when the receiver has one.

  Passing an error on (`wrap`) records the place only if none is recorded yet, so the
  first place stays.
-/

import FixedCapacity.Error.Kind
import FixedCapacity.Error.Errno

namespace FixedCapacity

/-- A line of a source file. -/
structure Location where
  file : String
  line : Nat
  deriving DecidableEq, Repr

structure Error where
  kind : Error.Kind
  errno : Int
  location : Option Location
  deriving Repr

namespace Error

/-- The largest error number: numbers are 32-bit and signed. -/
def maxErrno : Int := 0x7FFFFFFF

def ofKind (kind : Kind) : Error := ⟨kind, 0, none⟩

def ofKindAt (kind : Kind) (file : String) (line : Nat) : Error := ⟨kind, 0, some ⟨file, line⟩⟩

/-- The error of an operating-system number, whose sign is dropped. The least number has
no positive counterpart and becomes the largest. -/
def ofErrno (errno : Int) : Error :=
  ⟨if errno = 0 then .none else .runtime, min errno.natAbs maxErrno, none⟩

instance : Inhabited Error := ⟨ofKind .none⟩

/-- Notes where an error passed by, unless a place is known already. -/
def wrap (e : Error) (file : String) (line : Nat) : Error :=
  match e.location with
  | some _ => e
  | none => { e with location := some ⟨file, line⟩ }

def isNone (e : Error) : Bool := e.kind = .none

/-- Whether an error is another one, seen from the receiver's side. -/
def is (e other : Error) : Bool :=
  if e.errno ≠ 0 then e.errno = other.errno else e.kind = other.kind

instance : BEq Error where
  beq a b := if a.errno ≠ 0 ∨ b.errno ≠ 0 then a.errno = b.errno else a.kind = b.kind

/-- An error against a bare kind: only the kinds are compared. -/
def hasKind (e : Error) (kind : Kind) : Bool := e.kind = kind

/-- The one value an error hashes as: its number if it has one, else its kind. -/
inductive Digest where
  | errno (n : Int)
  | kind (k : Kind)
  deriving DecidableEq, Repr

/-- What an error feeds a hasher: the number as a 32-bit value, the kind as the number of its
declaration, each of its own width. -/
def digest (e : Error) : Digest := if e.errno ≠ 0 then .errno e.errno else .kind e.kind

def category (e : Error) : Category := if e.errno ≠ 0 then .system else e.kind.category

/-- The text of the number if there is one, else the text of the kind. -/
def message (e : Error) (describe : Descriptions := Error.describe) : String :=
  if e.errno ≠ 0 ∧ describe e.errno ≠ "" then describe e.errno else e.kind.message

/-- An error as the end of a computation: the error that is none is a success. -/
def status (e : Error) : Except Error Unit := if e.isNone then .ok () else .error e

/-- The result of a system call: a negative value is an error number. -/
def checkReturn (value : Int) : Except Error Int :=
  if value < 0 then .error (ofErrno value) else .ok value

/-- A result handed up through a call at the given place. -/
def passUp {α : Type} (file : String) (line : Nat) : Except Error α → Except Error α
  | .ok a => .ok a
  | .error e => .error (e.wrap file line)

end Error

end FixedCapacity
