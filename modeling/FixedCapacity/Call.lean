/-
  FixedCapacity.Call — a call on a container, and everything it leaves behind.

  A call takes a state and gives a `Report`: how it ended, the state it left, the trace
  it emitted and the ledger of what happened to elements. It ends with a value, with an
  error that the caller can handle, or with a violation of its contract; in all three
  cases the state, the trace and the ledger up to that point stand.

  Calls compose: `bind` runs the second call on the state of the first and appends its
  trace and ledger. Nothing is undone when a later part fails, so a call that leaves its
  container alone on failure does so by checking first.

  The arithmetic of positions (`Call.add`, `Call.sub`) is that of 64-bit words, and that of
  bytes (`Call.addByte`, `Call.subByte`) that of 8-bit ones; both stop a call instead of
  wrapping round. So do an item and a slice that are not there (`Call.item`, `Call.slice`).
-/

import FixedCapacity.Error.Kind
import FixedCapacity.Trace

namespace FixedCapacity

/-- A use of a container that its contract rules out. -/
inductive Violation where
  | indexOutOfBounds (len index : Nat)
  | conversionTooLong (capacity : Nat)
  | alternativeInactive (index : Nat)
  | emptyVariant
  | wordOverflow
  | byteOverflow
  | deadSlot (index : Nat)
  deriving DecidableEq, Repr

def Violation.message : Violation → String
  | indexOutOfBounds len index =>
    s!"index out of bounds: the len is {Text.decimal len} but the index is {Text.decimal index}"
  | conversionTooLong capacity =>
    s!"converted value exceeds string capacity {Text.decimal capacity}"
  | alternativeInactive index => s!"variant alternative {Text.decimal index} is not active"
  | emptyVariant => "variant is empty"
  | wordOverflow => "position arithmetic overflows"
  | byteOverflow => "byte arithmetic overflows"
  | deadSlot index => s!"slot {Text.decimal index} holds no element"

/-- How a call ended. -/
inductive Outcome (β : Type) where
  | value (b : β)
  | error (kind : Error.Kind)
  | violation (v : Violation)
  deriving DecidableEq, Repr

/-- One entry of the ledger of elements. -/
inductive Event (α : Type) where
  /-- A maker built the element during the call. -/
  | made (a : α)
  /-- A maker that owned the element ran and handed it over. -/
  | handed (a : α)
  /-- A copy of the element was made. -/
  | cloned (a : α)
  /-- The element was destroyed. -/
  | dropped (a : α)
  /-- A predicate was asked about the element. -/
  | tested (a : α)
  /-- A comparison was asked about the two elements. -/
  | compared (a b : α)
  /-- A variant took the element in; one that is written over where it is held is in already. -/
  | stored (a : α)
  /-- A variant handed the element out. -/
  | released (a : α)
  deriving DecidableEq, Repr

/-- All that a call leaves behind. -/
structure Report (σ α β : Type) where
  outcome : Outcome β
  state : σ
  trace : List Trace.Entry
  ledger : List (Event α)
  deriving DecidableEq, Repr

/-- A call on a container of type `σ` with elements of type `α` that answers with a `β`. -/
def Call (σ α β : Type) := σ → Report σ α β

namespace Call

variable {σ τ α β γ : Type}

/-- Runs a call on a container. -/
def run (c : Call σ α β) (s : σ) : Report σ α β := c s

/-- Ends with a value and leaves everything alone. -/
def done (b : β) : Call σ α β := fun s => ⟨.value b, s, [], []⟩

/-- Ends with an error. -/
def refuse (kind : Error.Kind) : Call σ α β := fun s => ⟨.error kind, s, [], []⟩

/-- Ends with a violation. -/
def violate (v : Violation) : Call σ α β := fun s => ⟨.violation v, s, [], []⟩

/-- Runs `f` on the value of `c`, if there is one. -/
def andThen (c : Call σ α β) (f : β → Call σ α γ) : Call σ α γ := fun s =>
  let first := c s
  match first.outcome with
  | .value b =>
    let second := f b first.state
    { second with
      trace := first.trace ++ second.trace
      ledger := first.ledger ++ second.ledger }
  | .error kind => { first with outcome := .error kind }
  | .violation v => { first with outcome := .violation v }

instance : Monad (Call σ α) where
  pure := done
  bind := andThen

/-- The container as it is now. -/
def get : Call σ α σ := fun s => ⟨.value s, s, [], []⟩

/-- Puts another container in its place. -/
def set (s : σ) : Call σ α Unit := fun _ => ⟨.value (), s, [], []⟩

def emit (entry : Trace.Entry) : Call σ α Unit := fun s => ⟨.value (), s, [entry], []⟩

/-- Reports a span. -/
def enter (span : Trace.Span) : Call σ α Unit := emit (.span span)

/-- Reports why a call is refused. -/
def alert (a : Trace.Alert) : Call σ α Unit := emit (.alert a)

def record (event : Event α) : Call σ α Unit := fun s => ⟨.value (), s, [], [event]⟩

/-- Adds a last ledger entry to a call, however it ends. -/
def closing (event : Event α) (c : Call σ α β) : Call σ α β := fun s =>
  let r := c s
  { r with ledger := r.ledger ++ [event] }

/-- Turns an error into an answer: `none` in place of a value. -/
def attempt (c : Call σ α β) : Call σ α (Option β) := fun s =>
  let r := c s
  match r.outcome with
  | .value b => { r with outcome := .value (some b) }
  | .error _ => { r with outcome := .value none }
  | .violation v => { r with outcome := .violation v }

/-- Builds a container by a call on a first version of it. -/
def build (start : τ) (c : Call τ α Unit) : Call σ α τ := fun s =>
  let r := c start
  match r.outcome with
  | .value _ => ⟨.value r.state, s, r.trace, r.ledger⟩
  | .error kind => ⟨.error kind, s, r.trace, r.ledger⟩
  | .violation v => ⟨.violation v, s, r.trace, r.ledger⟩

/-- Builds a container of plain data, whose elements have no ledger outside it. -/
def buildPlain {δ : Type} (start : τ) (c : Call τ δ Unit) : Call σ α τ := fun s =>
  let r := c start
  match r.outcome with
  | .value _ => ⟨.value r.state, s, r.trace, []⟩
  | .error kind => ⟨.error kind, s, r.trace, []⟩
  | .violation v => ⟨.violation v, s, r.trace, []⟩

/-- Asks a predicate about elements, the first of them at `position`, until it says yes. The
predicate carries a state of its own from one question to the next. -/
def searchFrom (test : τ → α → Bool × τ) (position : Nat) (t : τ) : List α → Call σ α (Option Nat)
  | [] => pure none
  | x :: rest => do
    record (.tested x)
    let (yes, t) := test t x
    if yes then pure (some position) else searchFrom test (position + 1) t rest

/-- Positions and lengths are below this number, two to the power 64. -/
def wordLimit : Nat := 0x10000000000000000

/-- The sum of two positions, if it is one. -/
def add (a b : Nat) : Call σ α Nat :=
  if a + b < wordLimit then done (a + b) else violate .wordOverflow

/-- The difference of two positions, if it is one. -/
def sub (a b : Nat) : Call σ α Nat :=
  if b ≤ a then done (a - b) else violate .wordOverflow

/-- The sum of two bytes, if it is one. -/
def addByte (a b : UInt8) : Call σ α UInt8 :=
  if a.toNat + b.toNat < 256 then done (a + b) else violate .byteOverflow

/-- The difference of two bytes, if it is one. -/
def subByte (a b : UInt8) : Call σ α UInt8 :=
  if b ≤ a then done (a - b) else violate .byteOverflow

/-- The item of a sequence at a position, if it has one there. -/
def item (items : List β) (index : Nat) : Call σ α β :=
  match items[index]? with
  | some b => done b
  | none => violate (.indexOutOfBounds items.length index)

/-- The items `[start, stop)` of a sequence, if it has them all. -/
def slice (items : List β) (start stop : Nat) : Call σ α (List β) :=
  if start ≤ stop ∧ stop ≤ items.length then done ((items.drop start).take (stop - start))
  else violate (.indexOutOfBounds items.length stop)

end Call

end FixedCapacity
