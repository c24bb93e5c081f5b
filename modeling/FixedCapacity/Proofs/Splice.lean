/-
  FixedCapacity.Proofs.Splice — insertions and removals undo each other, and insertions compose.

  Arrays and strings are edited at positions by the same calls, of which the ones move slots and the
  others copy bytes. An `Editor` names these calls and `Lawful` says what they do: a call that
  succeeds leaves the list that an operation on lists gives (`spliced`, or a list without one of its
  parts), and one that is refused leaves the container as it was. What holds of both follows from
  these laws and from facts about lists.

  Elements that come one at a time all come in front of the same ones, whether they are inserted or
  appended (`Adds`). Such a run goes on while there is room and is refused from then on (`Adds.run`).
-/

import FixedCapacity.Proofs.ByteString.Edit
import FixedCapacity.Proofs.SlotArray.Insert
import FixedCapacity.Proofs.SlotArray.Remove

namespace FixedCapacity

open Call (wordLimit history final)

variable {σ α : Type}

/-! ## Lists -/

/-- A list with items put in at a position. -/
def spliced (xs : List α) (position : Nat) (items : List α) : List α :=
  xs.take position ++ items ++ xs.drop position

theorem spliced_behind (pre post items : List α) : spliced (pre ++ post) pre.length items = pre ++ items ++ post := by
  simp [spliced]

theorem length_spliced (xs : List α) (position : Nat) (items : List α) :
    (spliced xs position items).length = xs.length + items.length := by
  simp only [spliced, List.length_append, List.length_take, List.length_drop]
  omega

section Spliced

variable {xs : List α} {position : Nat}

theorem exists_cut (h : position ≤ xs.length) : ∃ pre post, xs = pre ++ post ∧ pre.length = position :=
  ⟨xs.take position, xs.drop position, (List.take_append_drop _ _).symm, List.length_take_of_le h⟩

/-- Items put in behind others that were put in are put in together with them. -/
theorem spliced_append (h : position ≤ xs.length) (ys zs : List α) :
    spliced (spliced xs position ys) (position + ys.length) zs = spliced xs position (ys ++ zs) := by
  obtain ⟨pre, post, rfl, rfl⟩ := exists_cut h
  rw [spliced_behind, spliced_behind, ← List.length_append, spliced_behind, List.append_assoc pre]

/-- What was put in is cut out again. -/
theorem cut_spliced (h : position ≤ xs.length) (ys : List α) :
    (spliced xs position ys).take position ++ (spliced xs position ys).drop (position + ys.length) = xs := by
  obtain ⟨pre, post, rfl, rfl⟩ := exists_cut h
  rw [spliced_behind, ← List.length_append, List.drop_left, List.append_assoc, List.take_left]

/-- What was cut out is put in again. -/
theorem spliced_cut {start stop : Nat} (hle : start ≤ stop) (hstop : stop ≤ xs.length) :
    spliced (xs.take start ++ xs.drop stop) start ((xs.take stop).drop start) = xs := by
  obtain ⟨front, post, rfl, rfl⟩ := exists_cut hstop
  obtain ⟨pre, mid, rfl, rfl⟩ := exists_cut hle
  have hbefore : (pre ++ mid ++ post).take pre.length = pre := by
    rw [List.append_assoc, List.take_left]
  rw [hbefore, List.take_left, List.drop_left, List.drop_left, spliced_behind]

end Spliced

/-! ## Editors -/

/-- A container that is edited at positions. -/
structure Editor (σ α : Type) where
  Sound : σ → Prop
  elements : σ → List α
  capacity : σ → Nat
  insert : Nat → List α → Call σ α Unit
  removeRange : Bounds → Call σ α Unit
  push : α → Call σ α Unit

/-- The call on `s` ended with an error and left `s` as it was. -/
structure Report.Refuses (r : Report σ α Unit) (s : σ) (kind : Error.Kind) : Prop where
  error : r.outcome = .error kind
  state : r.state = s

namespace Editor

variable {e : Editor σ α} {s : σ}

/-- The number of elements. -/
def len (e : Editor σ α) (s : σ) : Nat := (e.elements s).length

/-- The number of elements that could be added. -/
def room (e : Editor σ α) (s : σ) : Nat := e.capacity s - e.len s

/-- The call on `s` succeeded and left these elements in the same room. -/
structure Leaves (e : Editor σ α) (s : σ) (r : Report σ α Unit) (xs : List α) : Prop where
  value : r.outcome = .value ()
  sound : e.Sound r.state
  capacity : e.capacity r.state = e.capacity s
  elements : e.elements r.state = xs

theorem Leaves.len_spliced {r : Report σ α Unit} {position : Nat} {items : List α}
    (h : e.Leaves s r (spliced (e.elements s) position items)) : e.len r.state = e.len s + items.length := by
  rw [len, h.elements, length_spliced, ← len]

theorem Leaves.room_spliced {r : Report σ α Unit} {position : Nat} {items : List α}
    (h : e.Leaves s r (spliced (e.elements s) position items)) : e.room r.state = e.room s - items.length := by
  rw [room, h.capacity, h.len_spliced, ← Nat.sub_sub, ← room]

/-- What the calls do. Whether there is room is asked first. -/
structure Lawful (e : Editor σ α) : Prop where
  fits : ∀ {s}, e.Sound s → e.len s ≤ e.capacity s
  insert : ∀ {s}, e.Sound s → ∀ position items,
    if e.room s < items.length then (e.insert position items s).Refuses s .noMemory
    else if e.len s < position then (e.insert position items s).Refuses s .invalidArgument
    else e.Leaves s (e.insert position items s) (spliced (e.elements s) position items)
  removeRange : ∀ {s}, e.Sound s → ∀ start stop,
    if stop < start ∨ e.len s < stop then (e.removeRange (.between start stop) s).Refuses s .invalidArgument
    else e.Leaves s (e.removeRange (.between start stop) s)
      ((e.elements s).take start ++ (e.elements s).drop stop)
  push : ∀ {s}, e.Sound s → ∀ x,
    if e.room s < 1 then (e.push x s).Refuses s .noMemory
    else e.Leaves s (e.push x s) (e.elements s ++ [x])

namespace Lawful

theorem insert_full (h : e.Lawful) (hs : e.Sound s) (position : Nat) {items : List α}
    (hfull : e.room s < items.length) : (e.insert position items s).Refuses s .noMemory := by
  have hinsert := h.insert hs position items
  rwa [if_pos hfull] at hinsert

theorem insert_leaves (h : e.Lawful) (hs : e.Sound s) (position : Nat) (items : List α)
    (hroom : items.length ≤ e.room s) (hposition : position ≤ e.len s) :
    e.Leaves s (e.insert position items s) (spliced (e.elements s) position items) := by
  have hinsert := h.insert hs position items
  rwa [if_neg (Nat.not_lt.mpr hroom), if_neg (Nat.not_lt.mpr hposition)] at hinsert

/-- An insertion succeeds only where there is room and at a position that is there. -/
theorem insert_inv (h : e.Lawful) (hs : e.Sound s) {position : Nat} {items : List α}
    (hvalue : (e.insert position items s).outcome = .value ()) :
    items.length ≤ e.room s ∧ position ≤ e.len s := by
  have hinsert := h.insert hs position items
  split at hinsert
  case isTrue => exact absurd (hvalue.symm.trans hinsert.error) nofun
  case isFalse hroom =>
    split at hinsert
    case isTrue => exact absurd (hvalue.symm.trans hinsert.error) nofun
    case isFalse hposition => exact ⟨Nat.not_lt.mp hroom, Nat.not_lt.mp hposition⟩

/-- An insertion at a position that is there fails only for lack of room. -/
theorem insert_failed (h : e.Lawful) (hs : e.Sound s) {position : Nat} {items : List α}
    (hposition : position ≤ e.len s) (hfail : (e.insert position items s).outcome = .error .noMemory) :
    e.room s < items.length := by
  by_contra hroom
  have hleaves := h.insert_leaves hs position items (Nat.not_lt.mp hroom) hposition
  exact absurd (hfail.symm.trans hleaves.value) nofun

theorem removeRange_leaves (h : e.Lawful) (hs : e.Sound s) {start stop : Nat} (hle : start ≤ stop)
    (hstop : stop ≤ e.len s) :
    e.Leaves s (e.removeRange (.between start stop) s) ((e.elements s).take start ++ (e.elements s).drop stop) := by
  have hremove := h.removeRange hs start stop
  rwa [if_neg (by omega)] at hremove

/-- A removal succeeds only on a range that is there. -/
theorem removeRange_inv (h : e.Lawful) (hs : e.Sound s) {start stop : Nat}
    (hvalue : (e.removeRange (.between start stop) s).outcome = .value ()) : start ≤ stop ∧ stop ≤ e.len s := by
  have hremove := h.removeRange hs start stop
  split at hremove
  case isTrue => exact absurd (hvalue.symm.trans hremove.error) nofun
  case isFalse hrange => omega

end Lawful

/-! ## One at a time -/

/-- Calls that add elements one at a time, each at the position behind the one before. -/
def singly (step : Nat → α → Call σ α Unit) : Nat → List α → List (Call σ α Unit)
  | _, [] => []
  | position, x :: rest => step position x :: singly step (position + 1) rest

/-- Inserting elements one at a time. -/
def insertions (e : Editor σ α) (position : Nat) (items : List α) : List (Call σ α Unit) :=
  singly (fun position x => e.insert position [x]) position items

theorem singly_const (call : α → Call σ α Unit) (position : Nat) (items : List α) :
    singly (fun _ => call) position items = items.map call := by
  induction items generalizing position with
  | nil => rfl
  | cons x rest ih => rw [singly, ih, List.map_cons]

/-- A call that adds one element in front of the last `behind` ones, if there is room. -/
structure Adds (e : Editor σ α) (behind : Nat) (step : Nat → α → Call σ α Unit) : Prop where
  full : ∀ {s}, e.Sound s → e.room s = 0 → ∀ position x, (step position x s).Refuses s .noMemory
  one : ∀ {s}, e.Sound s → 0 < e.room s → ∀ position x, position + behind = e.len s →
    e.Leaves s (step position x s) (spliced (e.elements s) position [x])

theorem Lawful.adds_insert (h : e.Lawful) (behind : Nat) : e.Adds behind fun position x => e.insert position [x] where
  full hs hfull position x := h.insert_full hs position (by simp [hfull])
  one hs hroom position x hbehind := h.insert_leaves hs position [x] hroom (by omega)

theorem Lawful.adds_push (h : e.Lawful) : e.Adds 0 fun _ x => e.push x where
  full hs hfull _ x := by
    have hpush := h.push hs x
    rwa [if_pos (by omega)] at hpush
  one {s} hs hroom position x hend := by
    have hpush := h.push hs x
    rw [if_neg (by omega)] at hpush
    have hspliced : spliced (e.elements s) position [x] = e.elements s ++ [x] := by
      rw [Nat.add_zero, len] at hend
      simp [spliced, hend]
    rwa [hspliced]

variable {behind : Nat} {step : Nat → α → Call σ α Unit}

theorem Adds.refused (h : e.Adds behind step) (hs : e.Sound s) (hfull : e.room s = 0) (position : Nat)
    (items : List α) :
    (history (singly step position items) s).map Report.outcome = List.replicate items.length (.error .noMemory) ∧
      final (singly step position items) s = s := by
  induction items generalizing position with
  | nil => exact ⟨rfl, rfl⟩
  | cons x rest ih =>
    have hrefused := h.full hs hfull position x
    obtain ⟨houtcomes, hfinal⟩ := ih (position + 1)
    rw [singly, history, Call.final_cons, hrefused.state, List.map_cons, hrefused.error, houtcomes]
    exact ⟨rfl, hfinal⟩

/-- A run of such calls succeeds as often as there is room, and then is refused. -/
theorem Adds.run (h : e.Adds behind step) (hs : e.Sound s) {position : Nat} (hbehind : position + behind = e.len s)
    (items : List α) :
    (history (singly step position items) s).map Report.outcome =
        List.replicate (min (e.room s) items.length) (.value ()) ++
          List.replicate (items.length - e.room s) (.error .noMemory) ∧
      e.elements (final (singly step position items) s) =
        spliced (e.elements s) position (items.take (e.room s)) := by
  induction items generalizing position s with
  | nil => simp [singly, history, spliced]
  | cons x rest ih =>
    rcases Nat.eq_zero_or_pos (e.room s) with hfull | hroom
    · obtain ⟨houtcomes, hfinal⟩ := h.refused hs hfull position (x :: rest)
      rw [houtcomes, hfinal, hfull]
      simp [spliced]
    · have hone := h.one hs hroom position x hbehind
      have hlen : e.len (step position x s).state = e.len s + 1 := hone.len_spliced
      have hless : e.room (step position x s).state + 1 = e.room s := by
        rw [hone.room_spliced, List.length_singleton, Nat.sub_add_cancel hroom]
      obtain ⟨houtcomes, helements⟩ := ih hone.sound (show position + 1 + behind = _ by omega)
      rw [singly, history, Call.final_cons, List.map_cons, hone.value, houtcomes, helements, hone.elements,
        ← hless]
      constructor
      · rw [List.length_cons, Nat.add_min_add_right, Nat.add_sub_add_right, List.replicate_succ, List.cons_append]
      · rw [List.take_succ_cons]
        exact spliced_append (by rw [← len]; omega) [x] _

/-! ## What follows -/

/-- The first `n` calls succeeded, and all after them, of which there is at least one, found no room. -/
def Stops (n : Nat) (reports : List (Report σ α Unit)) : Prop :=
  ∃ more, reports.map Report.outcome =
    List.replicate n (.value ()) ++ List.replicate (more + 1) (.error .noMemory)

/-- The calls all succeed and leave the elements that another call leaves. -/
structure Amounts (e : Editor σ α) (s : σ) (calls : List (Call σ α Unit)) (call : Call σ α Unit) : Prop where
  succeed : ∀ r ∈ history calls s, r.outcome = .value ()
  elements : e.elements (final calls s) = e.elements (call s).state

theorem Adds.amounts (h : e.Adds behind step) (hlawful : e.Lawful) (hs : e.Sound s) {position : Nat}
    (hbehind : position + behind = e.len s) {items : List α} (hroom : items.length ≤ e.room s) :
    e.Amounts s (singly step position items) (e.insert position items) := by
  obtain ⟨houtcomes, helements⟩ := h.run hs hbehind items
  rw [Nat.min_eq_right hroom, Nat.sub_eq_zero_of_le hroom, List.replicate_zero, List.append_nil] at houtcomes
  constructor
  case succeed =>
    intro r hr
    have hmem := List.mem_map_of_mem (f := Report.outcome) hr
    rw [houtcomes] at hmem
    exact List.eq_of_mem_replicate hmem
  case elements =>
    rw [helements, List.take_of_length_le hroom, (hlawful.insert_leaves hs position items hroom (by omega)).elements]

theorem Adds.stops (h : e.Adds behind step) (hs : e.Sound s) {position : Nat} (hbehind : position + behind = e.len s)
    {items : List α} (hfull : e.room s < items.length) :
    Stops (e.room s) (history (singly step position items) s) := by
  obtain ⟨houtcomes, -⟩ := h.run hs hbehind items
  refine ⟨items.length - e.room s - 1, ?_⟩
  rw [houtcomes, Nat.min_eq_left (Nat.le_of_lt hfull), Nat.sub_add_cancel (by omega)]

/-- How insertions and removals at positions of `s` go together. -/
structure Splices (e : Editor σ α) (s : σ) : Prop where
  /-- Removing what was inserted restores the elements. -/
  removed : ∀ position ys, (e.insert position ys s).outcome = .value () →
    let r := e.removeRange (.between position (position + ys.length)) (e.insert position ys s).state
    r.outcome = .value () ∧ e.elements r.state = e.elements s
  /-- Inserting what was removed restores the elements. -/
  inserted : ∀ start stop, (e.removeRange (.between start stop) s).outcome = .value () →
    let r := e.insert start (((e.elements s).take stop).drop start) (e.removeRange (.between start stop) s).state
    r.outcome = .value () ∧ e.elements r.state = e.elements s
  /-- An insertion is two insertions of its parts. -/
  composed : ∀ position ys zs, (e.insert position (ys ++ zs) s).outcome = .value () →
    e.Amounts s [e.insert position ys, e.insert (position + ys.length) zs] (e.insert position (ys ++ zs))
  /-- An insertion is as many insertions of one element. -/
  single : ∀ position ys, (e.insert position ys s).outcome = .value () →
    e.Amounts s (e.insertions position ys) (e.insert position ys)
  pushed : ∀ ys, (e.insert (e.len s) ys s).outcome = .value () →
    e.Amounts s (ys.map e.push) (e.insert (e.len s) ys)
  /-- Where an insertion lacks room, single ones go as far as there is some. -/
  stopped : ∀ position ys, position ≤ e.len s → (e.insert position ys s).outcome = .error .noMemory →
    Stops (e.capacity s - e.len s) (history (e.insertions position ys) s)
  stopped_push : ∀ ys, (e.insert (e.len s) ys s).outcome = .error .noMemory →
    Stops (e.capacity s - e.len s) (history (ys.map e.push) s)

namespace Lawful

theorem remove_inserted (h : e.Lawful) (hs : e.Sound s) {position : Nat} {ys : List α}
    (hvalue : (e.insert position ys s).outcome = .value ()) :
    e.Leaves (e.insert position ys s).state
      (e.removeRange (.between position (position + ys.length)) (e.insert position ys s).state) (e.elements s) := by
  obtain ⟨hroom, hposition⟩ := h.insert_inv hs hvalue
  have hinserted := h.insert_leaves hs position ys hroom hposition
  have hstop : position + ys.length ≤ e.len (e.insert position ys s).state := by
    rw [hinserted.len_spliced]
    exact Nat.add_le_add_right hposition _
  have hremoved := h.removeRange_leaves hinserted.sound (Nat.le_add_right position ys.length) hstop
  rwa [hinserted.elements, cut_spliced hposition] at hremoved

theorem insert_removed (h : e.Lawful) (hs : e.Sound s) {start stop : Nat}
    (hvalue : (e.removeRange (.between start stop) s).outcome = .value ()) :
    e.Leaves (e.removeRange (.between start stop) s).state
      (e.insert start (((e.elements s).take stop).drop start) (e.removeRange (.between start stop) s).state)
      (e.elements s) := by
  obtain ⟨hle, hstop⟩ := h.removeRange_inv hs hvalue
  have hremoved := h.removeRange_leaves hs hle hstop
  have hfits := h.fits hs
  have hgone : (((e.elements s).take stop).drop start).length = stop - start := by
    rw [List.length_drop, List.length_take_of_le hstop]
  have hlen : e.len (e.removeRange (.between start stop) s).state = e.len s - (stop - start) := by
    rw [len, hremoved.elements, List.length_append, List.length_take_of_le (hle.trans hstop), List.length_drop, ← len]
    omega
  -- What is to go back in has just left its room behind.
  have hroom : stop - start ≤ e.room (e.removeRange (.between start stop) s).state := by
    rw [room, hremoved.capacity, hlen]
    omega
  have hinserted := h.insert_leaves hremoved.sound start _ (hgone.trans_le hroom) (by omega)
  rwa [hremoved.elements, spliced_cut hle hstop] at hinserted

theorem insert_append (h : e.Lawful) (hs : e.Sound s) {position : Nat} {ys zs : List α}
    (hvalue : (e.insert position (ys ++ zs) s).outcome = .value ()) :
    e.Amounts s [e.insert position ys, e.insert (position + ys.length) zs] (e.insert position (ys ++ zs)) := by
  obtain ⟨hroom, hposition⟩ := h.insert_inv hs hvalue
  have hboth := h.insert_leaves hs position (ys ++ zs) hroom hposition
  rw [List.length_append] at hroom
  have hfirst := h.insert_leaves hs position ys (by omega) hposition
  have hlen := hfirst.len_spliced
  have hsecond := h.insert_leaves hfirst.sound (position + ys.length) zs (by rw [hfirst.room_spliced]; omega) (by omega)
  rw [hfirst.elements, spliced_append hposition] at hsecond
  constructor
  case succeed => simp [history, hfirst.value, hsecond.value]
  case elements => exact hsecond.elements.trans hboth.elements.symm

theorem splices (h : e.Lawful) (hs : e.Sound s) : e.Splices s := by
  constructor
  case removed =>
    intro position ys hvalue
    have hremoved := h.remove_inserted hs hvalue
    exact ⟨hremoved.value, hremoved.elements⟩
  case inserted =>
    intro start stop hvalue
    have hinserted := h.insert_removed hs hvalue
    exact ⟨hinserted.value, hinserted.elements⟩
  case composed => exact fun position ys zs hvalue => h.insert_append hs hvalue
  case single =>
    intro position ys hvalue
    obtain ⟨hroom, hposition⟩ := h.insert_inv hs hvalue
    exact (h.adds_insert _).amounts h hs (Nat.add_sub_cancel' hposition) hroom
  case pushed =>
    intro ys hvalue
    obtain ⟨hroom, -⟩ := h.insert_inv hs hvalue
    have hamounts := h.adds_push.amounts h hs (Nat.add_zero _) hroom
    rwa [singly_const] at hamounts
  case stopped =>
    intro position ys hposition hfail
    exact (h.adds_insert _).stops hs (Nat.add_sub_cancel' hposition) (h.insert_failed hs hposition hfail)
  case stopped_push =>
    intro ys hfail
    have hstops := h.adds_push.stops hs (Nat.add_zero _) (h.insert_failed hs (Nat.le_refl _) hfail)
    rwa [singly_const] at hstops

end Lawful

end Editor

/-! ## Arrays and strings -/

namespace SlotArray

def editor : Editor (SlotArray α) α := ⟨Sound, toList, capacity, insert, removeRange, pushBack⟩

theorem elements_editor (a : SlotArray α) : editor.elements a = a.toList := rfl

theorem leaves_laid {a : SlotArray α} {xs ys : List α} {free free' : List (Option α)} {r : Report (SlotArray α) α Unit}
    (ha : a = laid xs free) (hw : xs.length + free.length < wordLimit)
    (hsize : ys.length + free'.length = xs.length + free.length) (hvalue : r.outcome = .value ())
    (hr : r.state = laid ys free') : editor.Leaves a r ys where
  value := hvalue
  sound := by
    rw [hr]
    exact sound_laid ys free' (by omega)
  capacity := by simp [editor, hr, ha, hsize]
  elements := by rw [elements_editor, hr, toList_laid]

theorem lawful : (editor : Editor (SlotArray α) α).Lawful := by
  constructor
  case fits =>
    intro a ha
    obtain ⟨xs, free, rfl, -⟩ := sound_iff.mp ha
    simp [editor, Editor.len]
  case insert =>
    intro a ha position items
    obtain ⟨xs, free, rfl, hw⟩ := sound_iff.mp ha
    simp only [Editor.room, Editor.len, editor, capacity_laid, toList_laid, Nat.add_sub_cancel_left,
      insert_laid position items xs free hw]
    split
    · exact ⟨rfl, rfl⟩
    split
    · exact ⟨rfl, rfl⟩
    · refine leaves_laid rfl hw ?_ rfl rfl
      rw [length_spliced, List.length_drop]
      omega
  case removeRange =>
    intro a ha start stop
    obtain ⟨xs, free, rfl, hw⟩ := sound_iff.mp ha
    simp only [Editor.len, editor, toList_laid, removeRange_laid, Bounds.resolve_between]
    split
    · exact ⟨rfl, rfl⟩
    · refine leaves_laid rfl hw ?_ rfl rfl
      simp
      omega
  case push =>
    intro a ha x
    obtain ⟨xs, free, rfl, hw⟩ := sound_iff.mp ha
    simp only [Editor.room, Editor.len, editor, capacity_laid, toList_laid, Nat.add_sub_cancel_left,
      pushBack_laid x xs free hw]
    cases free with
    | nil => exact ⟨rfl, rfl⟩
    | cons slot free => exact leaves_laid rfl hw (by simp; omega) rfl rfl

end SlotArray

namespace ByteString

def editor : Editor ByteString UInt8 := ⟨Sound, content, capacity, insert, removeRange, push⟩

theorem leaves_holding {s : ByteString} {bytes : List UInt8} {r : Report ByteString UInt8 Unit} (hs : Sound s)
    (hfits : bytes.length ≤ s.capacity) (hvalue : r.outcome = .value ()) (hr : r.state = s.holding bytes) :
    editor.Leaves s r bytes where
  value := hvalue
  sound := by
    rw [hr]
    exact sound_holding hs hfits
  capacity := by rw [hr]; exact capacity_holding hs hfits
  elements := by rw [hr]; exact content_holding

theorem len_editor {s : ByteString} (hs : Sound s) : editor.len s = s.len := length_content hs

theorem lawful : editor.Lawful := by
  constructor
  case fits =>
    intro s hs
    rw [len_editor hs]
    exact len_le_capacity hs
  case insert =>
    intro s hs position text
    have hlen := length_content hs
    have hfits := len_le_capacity hs
    simp only [Editor.room, len_editor hs]
    simp only [editor, insert_eq hs]
    split
    · exact ⟨rfl, rfl⟩
    split
    · exact ⟨rfl, rfl⟩
    · refine leaves_holding hs ?_ rfl rfl
      rw [length_spliced]
      omega
  case removeRange =>
    intro s hs start stop
    have hlen := length_content hs
    have hfits := len_le_capacity hs
    simp only [len_editor hs]
    simp only [editor, removeRange_eq hs, Bounds.resolve_between]
    split
    · exact ⟨rfl, rfl⟩
    · refine leaves_holding hs ?_ rfl rfl
      simp
      omega
  case push =>
    intro s hs b
    have hlen := length_content hs
    have hfits := len_le_capacity hs
    simp only [Editor.room, len_editor hs]
    simp only [editor, push, append_eq hs, List.length_singleton]
    split
    · exact ⟨rfl, rfl⟩
    · refine leaves_holding hs ?_ rfl rfl
      simp
      omega

end ByteString

/-- In arrays and in strings, insertions and removals undo each other, and insertions compose. -/
theorem edits_undo_and_compose :
    (∀ {α : Type} {a : SlotArray α}, a.Sound → SlotArray.editor.Splices a) ∧
      ∀ {s : ByteString}, s.Sound → ByteString.editor.Splices s :=
  ⟨fun h => SlotArray.lawful.splices h, fun h => ByteString.lawful.splices h⟩

/-- Two elements that go between two others, with one place to spare, and two bytes that lack one. -/
theorem edits_undo_and_compose_of_two :
    let a : SlotArray Nat := .laid [5, 6] [none, none, none]
    let s := ByteString.closed [97, 98] [0]
    let r := SlotArray.removeRange (.between 1 3) (SlotArray.insert 1 [7, 8] a).state
    a.Sound ∧ (SlotArray.insert 1 [7, 8] a).outcome = .value () ∧ r.outcome = .value () ∧
      r.state.toList = a.toList ∧ a.toList = [5, 6] ∧
      (∀ single ∈ history [SlotArray.insert 1 [7], SlotArray.insert 2 [8]] a, single.outcome = .value ()) ∧
      s.Sound ∧ (ByteString.insert 1 [120, 121] s).outcome = .error .noMemory ∧
      Editor.Stops 1 (history [ByteString.insert 1 [120], ByteString.insert 2 [121]] s) := by
  intro a s r
  have ha : a.Sound := SlotArray.sound_laid _ _ (by decide)
  have hs : s.Sound := ByteString.sound_closed _ _ (by decide)
  have hinserted : (SlotArray.editor.insert 1 [7, 8] a).outcome = .value () := by decide
  have hfull : (ByteString.editor.insert 1 [120, 121] s).outcome = .error .noMemory := by decide
  obtain ⟨harrays, hstrings⟩ := edits_undo_and_compose
  obtain ⟨hremoved, hrestored⟩ := (harrays ha).removed 1 [7, 8] hinserted
  rw [SlotArray.elements_editor, SlotArray.elements_editor] at hrestored
  have hsingle := ((harrays ha).single 1 [7, 8] hinserted).succeed
  exact ⟨ha, hinserted, hremoved, hrestored, by decide, hsingle, hs, hfull,
    (hstrings hs).stopped 1 [120, 121] (by decide) hfull⟩

end FixedCapacity
