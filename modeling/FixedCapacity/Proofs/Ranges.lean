/-
  FixedCapacity.Proofs.Ranges — removing a range removes what its bounds name in unbounded numbers.

  Arrays and strings resolve a range before they touch anything, and never read its bounds again. So what
  holds of the resolution (`Bounds.resolve_eq`) holds of the calls: a range whose ends are in order and
  within the container is removed, element for element, and any other is refused with everything left as it
  was, the bounds without a successor included (`Editor.Cuts`).
-/

import FixedCapacity.Proofs.Splice

namespace FixedCapacity

open Call (wordLimit)

variable {σ α : Type}

/-- The elements in a range. -/
def Bounds.inside (bounds : Bounds) (xs : List α) : List α :=
  (xs.take (bounds.stop xs.length)).drop bounds.start

/-- The elements in front of a range, and those behind it. -/
def Bounds.outside (bounds : Bounds) (xs : List α) : List α :=
  xs.take bounds.start ++ xs.drop (bounds.stop xs.length)

/-- A range without elements leaves all of them outside. -/
theorem Bounds.outside_of_empty {bounds : Bounds} {xs : List α} (h : bounds.start = bounds.stop xs.length) :
    bounds.outside xs = xs := by
  rw [outside, h, List.take_append_drop]

theorem Bounds.length_outside_le {bounds : Bounds} {xs : List α} (h : bounds.Within xs.length) :
    (bounds.outside xs).length + (bounds.stop xs.length - bounds.start) = xs.length := by
  obtain ⟨hle, hstop⟩ := h
  rw [outside, List.length_append, List.length_take, List.length_drop]
  omega

/-- What becomes of a container when a range is removed. -/
structure Editor.Cuts (e : Editor σ α) (s : σ) (bounds : Bounds) : Prop where
  succeeds : (e.removeRange bounds s).outcome = .value () ↔ bounds.Within (e.len s)
  leaves : bounds.Within (e.len s) → e.Leaves s (e.removeRange bounds s) (bounds.outside (e.elements s))
  /-- A range without elements is removed by doing nothing. -/
  nothing : bounds.Within (e.len s) → bounds.start = bounds.stop (e.len s) →
    e.removeRange bounds s = ⟨.value (), s, [], []⟩
  refused : ¬ bounds.Within (e.len s) → e.removeRange bounds s = ⟨.error .invalidArgument, s, [], []⟩

/-- Either a call succeeds or it ends with an error. -/
theorem Outcome.value_iff {p : Prop} {o : Outcome Unit} {kind : Error.Kind} (hyes : p → o = .value ())
    (hno : ¬ p → o = .error kind) : o = .value () ↔ p := by
  constructor
  · intro hvalue
    by_contra h
    rw [hno h] at hvalue
    cases hvalue
  · exact hyes

namespace SlotArray

/-- The report of a removal, by the ends of the range in unbounded numbers. -/
theorem removeRange_exact (bounds : Bounds) {xs : List α} (free : List (Option α)) (hw : xs.length < wordLimit) :
    removeRange bounds (laid xs free) =
      if bounds.Within xs.length then
        ⟨.value (), laid (bounds.outside xs)
            ((xs.drop (xs.length - (bounds.stop xs.length - bounds.start))).map some ++ free), [],
          (bounds.inside xs).map .dropped⟩
      else ⟨.error .invalidArgument, laid xs free, [], []⟩ := by
  rw [removeRange_laid, Bounds.resolve_eq bounds hw]
  by_cases h : bounds.Within xs.length
  · rw [if_pos h, if_pos h]
    rfl
  · rw [if_neg h, if_neg h]

theorem cuts {a : SlotArray α} (ha : Sound a) (bounds : Bounds) : editor.Cuts a bounds := by
  obtain ⟨xs, free, rfl, hw⟩ := sound_iff.mp ha
  have hlen : editor.len (laid xs free) = xs.length := congrArg List.length (toList_laid xs free)
  have hreport := removeRange_exact bounds free (show xs.length < wordLimit by omega)
  have hwithin (h : bounds.Within xs.length) := hreport.trans (if_pos h)
  have hbeyond (h : ¬ bounds.Within xs.length) := hreport.trans (if_neg h)
  constructor <;> rw [hlen]
  case succeeds =>
    exact Outcome.value_iff (fun h => congrArg Report.outcome (hwithin h))
      fun h => congrArg Report.outcome (hbeyond h)
  case leaves =>
    intro h
    have hlength := Bounds.length_outside_le h
    have hleft := congrArg Report.state (hwithin h)
    rw [elements_editor, toList_laid]
    refine leaves_laid rfl hw ?_ (congrArg Report.outcome (hwithin h)) hleft
    rw [List.length_append, List.length_map, List.length_drop]
    omega
  case nothing =>
    intro h hempty
    refine (hwithin h).trans ?_
    rw [Bounds.outside_of_empty hempty, Bounds.inside, ← hempty]
    simp
  case refused => exact hbeyond

end SlotArray

namespace ByteString

theorem cuts {s : ByteString} (hs : Sound s) (bounds : Bounds) : editor.Cuts s bounds := by
  have hlen := length_content hs
  have hfits := len_le_capacity hs
  have hword : s.content.length < wordLimit := by
    have haddressable := hs.addressable
    have hinside := hs.fits
    omega
  have hreport : removeRange bounds s =
      if bounds.Within s.content.length then ⟨.value (), s.holding (bounds.outside s.content), [], []⟩
      else ⟨.error .invalidArgument, s, [], []⟩ := by
    rw [removeRange_eq hs, ← hlen, Bounds.resolve_eq bounds hword]
    by_cases h : bounds.Within s.content.length
    · rw [if_pos h, if_pos h]
      rfl
    · rw [if_neg h, if_neg h]
  have hwithin (h : bounds.Within s.content.length) := hreport.trans (if_pos h)
  have hbeyond (h : ¬ bounds.Within s.content.length) := hreport.trans (if_neg h)
  constructor <;> rw [len_editor hs, ← hlen]
  case succeeds =>
    exact Outcome.value_iff (fun h => congrArg Report.outcome (hwithin h))
      fun h => congrArg Report.outcome (hbeyond h)
  case leaves =>
    intro h
    have hlength := Bounds.length_outside_le h
    exact leaves_holding hs (show (bounds.outside s.content).length ≤ s.capacity by omega)
      (congrArg Report.outcome (hwithin h)) (congrArg Report.state (hwithin h))
  case nothing =>
    intro h hempty
    refine (hwithin h).trans ?_
    rw [Bounds.outside_of_empty hempty, holding_content hs]
  case refused => exact hbeyond

end ByteString

/-- Removal of ranges, from arrays and from strings. -/
structure RangeRemoval : Prop where
  array : ∀ {α : Type} {a : SlotArray α}, a.Sound → ∀ bounds, SlotArray.editor.Cuts a bounds
  /-- The elements that go are destroyed, each of them once and no others, in order. -/
  destroyed : ∀ {α : Type} {a : SlotArray α}, a.Sound → ∀ bounds : Bounds, bounds.Within a.len →
    (a.removeRange bounds).ledger = (bounds.inside a.toList).map .dropped
  string : ∀ {s : ByteString}, s.Sound → ∀ bounds, ByteString.editor.Cuts s bounds

/-- Whatever its bounds, a range is removed as if positions had no limit. -/
theorem ranges_cut_exactly : RangeRemoval := by
  constructor
  case array => exact SlotArray.cuts
  case destroyed =>
    intro α a ha bounds h
    obtain ⟨xs, free, rfl, hw⟩ := SlotArray.sound_iff.mp ha
    rw [SlotArray.len_laid] at h
    rw [SlotArray.removeRange_exact bounds free (by omega), if_pos h, SlotArray.toList_laid]
  case string => exact ByteString.cuts

/-- The last word has no successor: as an included end or an excluded start it is refused. An empty range at
the end is removed. -/
theorem ranges_cut_exactly_of_three :
    let last := wordLimit - 1
    let a : SlotArray Nat := .laid [5, 6, 7] [none]
    let s := ByteString.closed [97, 98, 99] [0]
    a.Sound ∧ s.Sound ∧
      a.removeRange ⟨.unbounded, .included last⟩ = ⟨.error .invalidArgument, a, [], []⟩ ∧
      s.removeRange ⟨.excluded last, .unbounded⟩ = ⟨.error .invalidArgument, s, [], []⟩ ∧
      s.removeRange ⟨.excluded 2, .unbounded⟩ = ⟨.value (), s, [], []⟩ ∧
      (a.removeRange ⟨.excluded 0, .included 1⟩).state.toList = [5, 7] ∧
      (a.removeRange ⟨.excluded 0, .included 1⟩).ledger = [.dropped 6] := by
  intro last a s
  have ha : a.Sound := SlotArray.sound_laid _ _ (by decide)
  have hs : s.Sound := ByteString.sound_closed _ _ (by decide)
  obtain ⟨harray, hdestroyed, hstring⟩ := ranges_cut_exactly
  have hmiddle := (harray ha ⟨.excluded 0, .included 1⟩).leaves (by decide)
  exact ⟨ha, hs, (harray ha ⟨.unbounded, .included last⟩).refused (by decide),
    (hstring hs ⟨.excluded last, .unbounded⟩).refused (by decide),
    (hstring hs ⟨.excluded 2, .unbounded⟩).nothing (by decide) (by decide),
    hmiddle.elements, hdestroyed ha ⟨.excluded 0, .included 1⟩ (by decide)⟩

end FixedCapacity
