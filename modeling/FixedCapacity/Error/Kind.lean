/-
  FixedCapacity.Error.Kind — the kinds of error and their categories.

  Kinds are numbered from zero in the order of declaration; `Kind.code` and
  `Kind.ofCode?` are the two directions of that numbering. A category groups kinds
  by who has to act on them; `system` belongs to no kind, only to an error that
  carries an operating-system number.
-/

namespace FixedCapacity.Error

inductive Kind where
  | none
  | failed
  | runtime
  | noMemory
  | outOfRange
  | notFound
  | invalidArgument
  | timeout
  | alreadyExist
  | wrongState
  | invalidChecksum
  deriving DecidableEq, Repr

inductive Category where
  | none
  | generic
  | capacity
  | lookup
  | consumer
  | system
  deriving DecidableEq, Repr

namespace Kind

/-- Every kind, in the order of declaration. -/
def all : List Kind :=
  [.none, .failed, .runtime, .noMemory, .outOfRange, .notFound, .invalidArgument, .timeout,
   .alreadyExist, .wrongState, .invalidChecksum]

/-- The number of a kind: how many are declared before it. -/
def code : Kind → Nat
  | none => 0
  | failed => 1
  | runtime => 2
  | noMemory => 3
  | outOfRange => 4
  | notFound => 5
  | invalidArgument => 6
  | timeout => 7
  | alreadyExist => 8
  | wrongState => 9
  | invalidChecksum => 10

/-- The kind with a given number. -/
def ofCode? (code : Nat) : Option Kind := all[code]?

/-- The texts of the kinds, in the order of their numbers. -/
def messages : List String :=
  ["none", "failed", "runtime error", "not enough memory", "out of range", "not found",
   "invalid argument", "timeout", "already exist", "wrong state", "invalid checksum"]

/-- The text that belongs to a number, whether or not a kind has it. -/
def messageOfCode (code : Nat) : String := messages[code]?.getD "unknown"

def message (kind : Kind) : String := messageOfCode kind.code

def category : Kind → Category
  | none => .none
  | failed | runtime => .generic
  | noMemory => .capacity
  | outOfRange | notFound | invalidArgument => .lookup
  | timeout | alreadyExist | wrongState | invalidChecksum => .consumer

/-- The name a kind goes by in a report. -/
def name : Kind → String
  | none => "None"
  | failed => "Failed"
  | runtime => "Runtime"
  | noMemory => "NoMemory"
  | outOfRange => "OutOfRange"
  | notFound => "NotFound"
  | invalidArgument => "InvalidArgument"
  | timeout => "Timeout"
  | alreadyExist => "AlreadyExist"
  | wrongState => "WrongState"
  | invalidChecksum => "InvalidChecksum"

/-- Kinds are ordered as they are declared. -/
instance : Ord Kind := ⟨fun a b => compare a.code b.code⟩

end Kind

namespace Category

/-- How many categories are declared before this one. -/
def rank : Category → Nat
  | none => 0
  | generic => 1
  | capacity => 2
  | lookup => 3
  | consumer => 4
  | system => 5

def name : Category → String
  | none => "None"
  | generic => "Generic"
  | capacity => "Capacity"
  | lookup => "Lookup"
  | consumer => "Consumer"
  | system => "System"

/-- Categories are ordered as they are declared. -/
instance : Ord Category := ⟨fun a b => compare a.rank b.rank⟩

end Category

end FixedCapacity.Error
