/-
  FixedCapacity.Proofs.Trace — when a trace tells the truth.

  A call may alert once, and only to explain the error it ends with (`Report.Explained`): each
  alert belongs to one kind of error (`Alert.kind`), and its figures are so. A call that reports
  insertions makes them (`Report.Truthful`). Which alerts a call has to tell, with which figures,
  and which insertions it makes, is said for each kind of container on its own.
-/

import FixedCapacity.Proofs.Call

namespace FixedCapacity

variable {σ τ α β γ : Type}

namespace Trace

/-- The kind of error that an alert explains. -/
def Alert.kind : Alert → Error.Kind
  | arrayFull _ | resizeOverflow .. | insertOverflow .. | copyOverflow .. | allocationFailed .. => .noMemory
  | bufferTooSmall | invalidPattern _ => .invalidArgument
  | alternativeInactive _ | visitedEmpty => .notFound

def Entry.alert? : Entry → Option Alert
  | .alert a => some a
  | .span _ => none

def Entry.insertion? : Entry → Option Span
  | .span (.insert container len count capacity) => some (.insert container len count capacity)
  | _ => none

/-- What a trace alerts to, in order. -/
def alerts (trace : List Entry) : List Alert := trace.filterMap Entry.alert?

/-- The insertions that a trace reports, in order. -/
def insertions (trace : List Entry) : List Span := trace.filterMap Entry.insertion?

end Trace

open Trace

namespace Report

/-- Nothing is alerted, or one thing, which is so and for which the call fails. -/
def Explained (so : Alert → Prop) (failure : Alert → Outcome β) (r : Report σ α β) : Prop :=
  alerts r.trace = [] ∨ ∃ alert, alerts r.trace = [alert] ∧ r.outcome = failure alert ∧ so alert

/-- Alerts explain the error a call ends with, and the insertions of a call that succeeds are reported,
no others. -/
structure Truthful (so : Alert → Prop) (inserted : List Span) (r : Report σ α β) : Prop where
  explained : r.Explained so fun alert => .error alert.kind
  succeeded : ∀ b, r.outcome = .value b → insertions r.trace = inserted
  failed : (∀ b, r.outcome ≠ .value b) → insertions r.trace = []

variable {so : Alert → Prop} {inserted : List Span} {r : Report σ α β}

/-- Another view of the container changes nothing about the trace. -/
theorem truthful_on (f : σ → τ) : (r.on f).Truthful so inserted ↔ r.Truthful so inserted :=
  ⟨fun ⟨h, h', h''⟩ => ⟨h, h', h''⟩, fun ⟨h, h', h''⟩ => ⟨h, h', h''⟩⟩

theorem truthful_of_quiet (halerts : alerts r.trace = []) (hinsertions : insertions r.trace = []) :
    r.Truthful so [] :=
  ⟨.inl halerts, fun _ _ => hinsertions, fun _ => hinsertions⟩

theorem truthful_of_silent (h : r.trace = []) : r.Truthful so [] := by
  apply truthful_of_quiet
  · rw [h]
    rfl
  · rw [h]
    rfl

/-- A call that succeeds has made its insertions and alerts to nothing. -/
theorem truthful_of_value {b : β} (hvalue : r.outcome = .value b) (halerts : alerts r.trace = [])
    (hinsertions : insertions r.trace = inserted) : r.Truthful so inserted :=
  ⟨.inl halerts, fun _ _ => hinsertions, fun hfail => absurd hvalue (hfail b)⟩

/-- A call that fails without a word. -/
theorem truthful_of_error {kind : Error.Kind} (herror : r.outcome = .error kind) (halerts : alerts r.trace = [])
    (hinsertions : insertions r.trace = []) : r.Truthful so inserted := by
  refine ⟨.inl halerts, fun b hvalue => ?_, fun _ => hinsertions⟩
  rw [herror] at hvalue
  cases hvalue

/-- A call that fails and says why. -/
theorem truthful_of_alert {alert : Alert} (herror : r.outcome = .error alert.kind)
    (halerts : alerts r.trace = [alert]) (hso : so alert) (hinsertions : insertions r.trace = []) :
    r.Truthful so inserted := by
  refine ⟨.inr ⟨alert, halerts, herror, hso⟩, fun b hvalue => ?_, fun _ => hinsertions⟩
  rw [herror] at hvalue
  cases hvalue

end Report

end FixedCapacity
