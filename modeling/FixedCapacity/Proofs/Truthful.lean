/-
  FixedCapacity.Proofs.Truthful — traces tell the truth.

  Whatever calls led to an array, a string or a variant, the next one alerts once at most, and
  only when it fails: with an error of the kind that the alert explains, or, if it converts a value
  that its caller vouched for, with a violation. The figures of an alert are those of the container
  that is written, at the moment it is found too short. An insertion is reported by the calls on
  arrays that insert something and succeed, once, and by no others.

  A writer of pieces is the exception: it alerts to the piece that stops it, and its failure has no
  kind (`stopped_writer_gives_no_error`).
-/

import FixedCapacity.Proofs.ByteString.Trace
import FixedCapacity.Proofs.Variant.Lifetime

namespace FixedCapacity

open Call (wordLimit)
open Trace

/-! ## Variants -/

namespace Variant

variable {A : Alternatives}

/-- The alert of a use of a variant, if there is one. -/
def Use.Alerts (v : Variant A) : Use A → Alert → Prop
  | .tryGet i, alert => alert = .alternativeInactive (A.position i) ∧ v.holds i = false
  | .tryVisit _ _, alert => alert = .visitedEmpty ∧ v.isEmpty = true
  | _, _ => False

/-- The traces of calls on a variant tell the truth. -/
structure Truthful (v : Variant A) : Prop where
  commands : ∀ c : Command A, (c.run v).trace = []
  uses : ∀ use : Use A, (use.run v).Truthful (use.Alerts v) []

theorem trace_command (c : Command A) (v : Variant A) : (c.run v).trace = [] := by
  cases c with
  | write i change =>
    cases hfound : v.payload? i <;> simp [Command.run, get, overwrite, hfound]
  | tryWrite i change =>
    cases hfound : v.payload? i <;> simp [Command.run, tryOverwrite, hfound]
  | set | setWith | replace | reset | take | modifyBase | clone => obtain ⟨_ | held⟩ := v <;> rfl

theorem use_truthful (use : Use A) (v : Variant A) : (use.run v).Truthful (use.Alerts v) [] := by
  cases use with
  | get i =>
    apply Report.truthful_of_silent
    cases hfound : v.payload? i <;> simp [Use.run, get, hfound]
  | tryGet i =>
    cases hfound : v.payload? i with
    | none =>
      have hrun : (Use.tryGet i).run v =
          ⟨.error .notFound, v, [.alert (.alternativeInactive (A.position i))], []⟩ := by
        simp [Use.run, tryGet, hfound]
      rw [hrun]
      exact Report.truthful_of_alert rfl rfl ⟨rfl, (refused_of_payload? hfound).is⟩ rfl
    | some x =>
      apply Report.truthful_of_silent
      simp [Use.run, tryGet, hfound]
  | tryVisit visitor t =>
    obtain ⟨_ | held⟩ := v
    · exact Report.truthful_of_alert rfl rfl ⟨rfl, rfl⟩ rfl
    · exact Report.truthful_of_silent rfl
  | set | setWith | reset | take | visit | base | tryBase =>
    obtain ⟨_ | held⟩ := v <;> exact Report.truthful_of_silent rfl

theorem truthful (v : Variant A) : Truthful v := ⟨fun c => trace_command c v, fun use => use_truthful use v⟩

end Variant

/-! ## All of them -/

/-- The traces of calls on arrays, strings and variants tell the truth, and so do those of making an
array or a string, of laying one over a region and of copying it. -/
theorem traces_tell_truth :
    (∀ {α : Type} {a : SlotArray α}, a.Reachable → a.Truthful) ∧
      (∀ {α : Type} (storage : SlotArray.Storage α), storage.size < wordLimit →
        (storage.create ()).Truthful storage.Alerts storage.inserted) ∧
      (∀ (t : IntType) (r : Region), ((r.bindArray t : Call Unit Int _) ()).Truthful
        (fun alert => alert = .bufferTooSmall ∧ r.slotCount t = 0) []) ∧
      (∀ {s : ByteString}, s.Reachable → s.Truthful) ∧
      (∀ storage : ByteString.Storage, (storage.create ()).Truthful storage.Alerts []) ∧
      ∀ {A : Alternatives} (v : Variant A), v.Truthful := by
  refine ⟨?arrays, SlotArray.create_truthful, SlotArray.bind_truthful, ?strings, ByteString.create_truthful,
    Variant.truthful⟩
  case arrays => exact fun h => SlotArray.truthful h.sound
  case strings => exact fun h => ByteString.truthful h.sound

/-- A full array that is assigned to and one that is given an element too many, an array that is made
of too many elements, a short string and an empty variant. -/
theorem traces_tell_truth_of_full :
    let full : SlotArray Nat := .ofFull [5]
    let short := ByteString.empty 2
    full.Reachable ∧ insertions ((SlotArray.Action.assign [6]).run full).trace = [.insert .array 0 1 1] ∧
      ((SlotArray.Action.pushBack 6).run full).Explained (fun alert => alert = .arrayFull 1 ∧ 1 ≤ 1)
        (fun alert => .error alert.kind) ∧
      (((SlotArray.Storage.inlineOf 1 [5, 6]).create ()).Truthful
        (fun alert => alert = .insertOverflow .array 0 2 1 ∧ 1 < 0 + 2)
        (SlotArray.Storage.inlineOf 1 [5, 6]).inserted) ∧
      short.Reachable ∧ short.Truthful ∧ (Variant.empty (A := cells)).Truthful := by
  intro full short
  have hfull : full.Reachable := SlotArray.reachable_ofFull [5] (by decide)
  have hshort : short.Reachable := ByteString.reachable_empty (by decide)
  obtain ⟨harrays, hmade, -, hstrings, -, hvariants⟩ := traces_tell_truth
  refine ⟨hfull, ?_, ?_, ?_, hshort, hstrings hshort, hvariants _⟩
  · exact ((harrays hfull).calls (.assign [6])).succeeded .nothing rfl
  · exact ((harrays hfull).calls (.pushBack 6)).explained
  · exact hmade (.inlineOf 1 [5, 6]) (by decide)

/-- A writer that is stopped alerts to the piece, and answers with neither an error nor a violation. -/
theorem stopped_writer_gives_no_error :
    let short := ByteString.empty 2
    let report := (ByteString.Action.write ["abc".toList]).run short
    short.Reachable ∧ alerts report.trace = [.insertOverflow .string 0 3 2] ∧
      (∀ kind, report.outcome ≠ .error kind) ∧ ∀ v, report.outcome ≠ .violation v := by
  intro short report
  have hshort : short.Reachable := ByteString.reachable_empty (by decide)
  have hreport : report = ⟨.value (.flag false), short, [.alert (.insertOverflow .string 0 3 2)], []⟩ := by
    decide +kernel
  refine ⟨hshort, ?_, ?_, ?_⟩
  · rw [hreport]
    rfl
  · rw [hreport]
    intro kind h
    cases h
  · rw [hreport]
    intro v h
    cases h

end FixedCapacity
