/-
  FixedCapacity.Proofs.Call — running calls.

  A call applied to a container is a `Report`. The lemmas here run composed calls one
  step at a time: `bind_apply` runs the first part, `Report.andThen` looks at how it
  ended, and `Report.after` puts what it left behind in front of what the second part
  leaves. With a lemma that gives the report of each part, `simp` runs a whole call.
-/

import Mathlib
import FixedCapacity.Bounds

namespace FixedCapacity

variable {σ τ α β γ δ : Type}

/-- The outcome of looking for something: what was found, or else `missing`. -/
def Outcome.of (found : Option β) (missing : Outcome β) : Outcome β :=
  match found with
  | some b => .value b
  | none => missing

@[simp] theorem Outcome.of_some (b : β) (missing : Outcome β) : of (some b) missing = .value b := rfl

@[simp] theorem Outcome.of_none (missing : Outcome β) : of none missing = missing := rfl

/-- Changes the value of a call that ended with one. -/
def Outcome.map (f : β → γ) : Outcome β → Outcome γ
  | .value b => .value (f b)
  | .error kind => .error kind
  | .violation v => .violation v

@[simp] theorem Outcome.map_value (f : β → γ) (b : β) : (value b).map f = .value (f b) := rfl
@[simp] theorem Outcome.map_error (f : β → γ) (kind : Error.Kind) :
    (error kind : Outcome β).map f = .error kind := rfl
@[simp] theorem Outcome.map_violation (f : β → γ) (v : Violation) :
    (violation v : Outcome β).map f = .violation v := rfl

@[simp] theorem Outcome.map_of (f : β → γ) (found : Option β) (missing : Outcome β) :
    (of found missing).map f = of (found.map f) (missing.map f) := by
  cases found <;> rfl

namespace Report

/-- The same report of a container seen otherwise. -/
def on (f : σ → τ) (r : Report σ α β) : Report τ α β := ⟨r.outcome, f r.state, r.trace, r.ledger⟩

@[simp] theorem on_mk (f : σ → τ) (o : Outcome β) (s : σ) (t : List Trace.Entry) (l : List (Event α)) :
    (⟨o, s, t, l⟩ : Report σ α β).on f = ⟨o, f s, t, l⟩ := rfl

@[simp] theorem outcome_on (f : σ → τ) (r : Report σ α β) : (r.on f).outcome = r.outcome := rfl
@[simp] theorem state_on (f : σ → τ) (r : Report σ α β) : (r.on f).state = f r.state := rfl
@[simp] theorem trace_on (f : σ → τ) (r : Report σ α β) : (r.on f).trace = r.trace := rfl
@[simp] theorem ledger_on (f : σ → τ) (r : Report σ α β) : (r.on f).ledger = r.ledger := rfl

/-- A report with an earlier trace and ledger in front. -/
def after (r : Report σ α β) (trace : List Trace.Entry) (ledger : List (Event α)) : Report σ α β :=
  { r with trace := trace ++ r.trace, ledger := ledger ++ r.ledger }

/-- What composing a call that ended so with another one gives. -/
def andThen (r : Report σ α β) (f : β → Call σ α γ) : Report σ α γ :=
  match r.outcome with
  | .value b => (f b r.state).after r.trace r.ledger
  | .error kind => { r with outcome := .error kind }
  | .violation v => { r with outcome := .violation v }

@[simp] theorem after_mk (o : Outcome β) (s : σ) (t t' : List Trace.Entry) (l l' : List (Event α)) :
    (⟨o, s, t, l⟩ : Report σ α β).after t' l' = ⟨o, s, t' ++ t, l' ++ l⟩ := rfl

@[simp] theorem after_nil (r : Report σ α β) : r.after [] [] = r := rfl

@[simp] theorem after_after (r : Report σ α β) (t t' : List Trace.Entry) (l l' : List (Event α)) :
    (r.after t l).after t' l' = r.after (t' ++ t) (l' ++ l) := by simp [after]

@[simp] theorem outcome_after (r : Report σ α β) (t : List Trace.Entry) (l : List (Event α)) :
    (r.after t l).outcome = r.outcome := rfl

@[simp] theorem state_after (r : Report σ α β) (t : List Trace.Entry) (l : List (Event α)) :
    (r.after t l).state = r.state := rfl

@[simp] theorem andThen_value (b : β) (s : σ) (t : List Trace.Entry) (l : List (Event α))
    (f : β → Call σ α γ) : (⟨.value b, s, t, l⟩ : Report σ α β).andThen f = (f b s).after t l := rfl

@[simp] theorem andThen_error (kind : Error.Kind) (s : σ) (t : List Trace.Entry) (l : List (Event α))
    (f : β → Call σ α γ) :
    (⟨.error kind, s, t, l⟩ : Report σ α β).andThen f = ⟨.error kind, s, t, l⟩ := rfl

@[simp] theorem andThen_violation (v : Violation) (s : σ) (t : List Trace.Entry)
    (l : List (Event α)) (f : β → Call σ α γ) :
    (⟨.violation v, s, t, l⟩ : Report σ α β).andThen f = ⟨.violation v, s, t, l⟩ := rfl

/-- The report of a call whose errors are turned into an answer. -/
def attempted (r : Report σ α β) : Report σ α (Option β) :=
  match r.outcome with
  | .value b => { r with outcome := .value (some b) }
  | .error _ => { r with outcome := .value none }
  | .violation v => { r with outcome := .violation v }

@[simp] theorem attempted_value (b : β) (s : σ) (t : List Trace.Entry) (l : List (Event α)) :
    (⟨.value b, s, t, l⟩ : Report σ α β).attempted = ⟨.value (some b), s, t, l⟩ := rfl

@[simp] theorem attempted_error (kind : Error.Kind) (s : σ) (t : List Trace.Entry) (l : List (Event α)) :
    (⟨.error kind, s, t, l⟩ : Report σ α β).attempted = ⟨.value none, s, t, l⟩ := rfl

end Report

namespace Call

@[simp] theorem bind_apply (c : Call σ α β) (f : β → Call σ α γ) (s : σ) :
    (c >>= f) s = (c s).andThen f := rfl

@[simp] theorem pure_apply (b : β) (s : σ) : (pure b : Call σ α β) s = ⟨.value b, s, [], []⟩ := rfl

@[simp] theorem done_apply (b : β) (s : σ) : (done b : Call σ α β) s = ⟨.value b, s, [], []⟩ := rfl

@[simp] theorem refuse_apply (kind : Error.Kind) (s : σ) :
    (refuse kind : Call σ α β) s = ⟨.error kind, s, [], []⟩ := rfl

@[simp] theorem refuse_bind (kind : Error.Kind) (f : β → Call σ α γ) : (refuse kind >>= f) = refuse kind := rfl

@[simp] theorem violate_apply (v : Violation) (s : σ) :
    (violate v : Call σ α β) s = ⟨.violation v, s, [], []⟩ := rfl

@[simp] theorem get_apply (s : σ) : (get : Call σ α σ) s = ⟨.value s, s, [], []⟩ := rfl

@[simp] theorem set_apply (s s' : σ) : (set s' : Call σ α Unit) s = ⟨.value (), s', [], []⟩ := rfl

@[simp] theorem enter_apply (span : Trace.Span) (s : σ) :
    (enter span : Call σ α Unit) s = ⟨.value (), s, [.span span], []⟩ := rfl

@[simp] theorem alert_apply (a : Trace.Alert) (s : σ) :
    (alert a : Call σ α Unit) s = ⟨.value (), s, [.alert a], []⟩ := rfl

@[simp] theorem record_apply (event : Event α) (s : σ) :
    (record event : Call σ α Unit) s = ⟨.value (), s, [], [event]⟩ := rfl

@[simp] theorem map_apply (f : β → γ) (c : Call σ α β) (s : σ) :
    (f <$> c) s = ⟨(c s).outcome.map f, (c s).state, (c s).trace, (c s).ledger⟩ := by
  change ((c s).andThen fun b => pure (f b)) = _
  obtain ⟨o, s', t, l⟩ := c s
  cases o <;> simp

@[simp] theorem ite_apply (p : Prop) [Decidable p] (c d : Call σ α β) (s : σ) :
    (if p then c else d) s = if p then c s else d s := by split <;> rfl

@[simp] theorem closing_apply (event : Event α) (c : Call σ α β) (s : σ) :
    closing event c s = { c s with ledger := (c s).ledger ++ [event] } := rfl

@[simp] theorem attempt_apply (c : Call σ α β) (s : σ) : attempt c s = (c s).attempted := rfl

instance : LawfulMonad (Call σ α) := by
  refine LawfulMonad.mk' _ (fun c => ?_) (fun b f => rfl) fun c f g => ?_
  · funext s
    simp only [map_apply]
    obtain ⟨o, s', t, l⟩ := c s
    cases o <;> rfl
  · funext s
    simp only [bind_apply]
    obtain ⟨o, s', t, l⟩ := c s
    cases o with
    | value b =>
      simp only [Report.andThen_value, bind_apply]
      obtain ⟨o', s'', t', l'⟩ := f b s'
      cases o' <;> simp
    | error kind => rfl
    | violation v => rfl

/-- The reports of calls made one after another. -/
def history : List (Call σ α β) → σ → List (Report σ α β)
  | [], _ => []
  | c :: rest, s => c s :: history rest (c s).state

/-- The container after calls made one after another. -/
def final (calls : List (Call σ α β)) (s : σ) : σ := calls.foldl (fun s c => (c s).state) s

@[simp] theorem final_nil (s : σ) : final ([] : List (Call σ α β)) s = s := rfl

@[simp] theorem final_cons (c : Call σ α β) (rest : List (Call σ α β)) (s : σ) :
    final (c :: rest) s = final rest (c s).state := rfl

theorem final_concat (calls : List (Call σ α β)) (c : Call σ α β) (s : σ) :
    final (calls ++ [c]) s = (c (final calls s)).state := by
  rw [final, List.foldl_append]
  rfl

theorem add_of_lt {a b : Nat} (h : a + b < wordLimit) : (add a b : Call σ α Nat) = done (a + b) :=
  if_pos h

theorem sub_of_le {a b : Nat} (h : b ≤ a) : (sub a b : Call σ α Nat) = done (a - b) :=
  if_pos h

theorem addByte_of_lt {a b : UInt8} (h : a.toNat + b.toNat < 256) :
    (addByte a b : Call σ α UInt8) = pure (a + b) :=
  if_pos h

theorem subByte_of_le {a b : UInt8} (h : b ≤ a) : (subByte a b : Call σ α UInt8) = pure (a - b) :=
  if_pos h

theorem slice_of_le {items : List β} {start stop : Nat} (h : start ≤ stop) (h' : stop ≤ items.length) :
    (slice items start stop : Call σ α (List β)) = pure ((items.drop start).take (stop - start)) :=
  if_pos ⟨h, h'⟩

end Call

end FixedCapacity
