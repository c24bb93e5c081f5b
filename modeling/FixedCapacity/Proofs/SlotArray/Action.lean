/-
  FixedCapacity.Proofs.SlotArray.Action — the calls on an array as data, and the same calls
  on a list of bounded length.

  `Action.run` is the call on the slots. `Action.onList` says what it does to the list of
  the elements: how it ends, the list it leaves, what it reports and what becomes of
  elements; no slot is mentioned. `Action.left` is the one thing the list does not show:
  which values lie behind the elements afterwards. `run_laid` ties the three together, so
  that everything said of a call later is said of `onList` and `left`.
-/

import FixedCapacity.Proofs.SlotArray.Create
import FixedCapacity.Proofs.SlotArray.Remove
import FixedCapacity.Proofs.SlotArray.Sort

namespace FixedCapacity.SlotArray

open Call (wordLimit)
open Predicate

/-- A call on an array with its arguments. -/
inductive Action (α : Type) : Type 1 where
  | get (position : Nat)
  | index (position : Nat)
  | front
  | back
  | exchange (position : Nat) (x : α)
  | exchangeIndex (position : Nat) (x : α)
  | exchangeFront (x : α)
  | exchangeBack (x : α)
  | reverse
  | fill (x : α)
  | find [BEq α] (x : α)
  | findIf {τ : Type} (test : τ → α → Bool × τ) (t : τ)
  | pushBack (x : α)
  | emplaceBack (x : α)
  | emplaceNew (x : α)
  | popBack
  | truncate (len : Nat)
  | clear
  | resize (len : Nat) (x : α)
  | resizeDefault [Inhabited α] (len : Nat)
  | resizeWith {τ : Type} (len : Nat) (make : τ → α × τ) (t : τ)
  | insert (position : Nat) (items : List α)
  | extend (items : List α)
  | append (other : SlotArray α)
  | assign (items : List α)
  | remove (position : Nat)
  | removeIf {τ : Type} (test : τ → α → Bool × τ) (t : τ)
  | removeRange (bounds : Bounds)
  | sort [Ord α]
  | sortBy {τ : Type} (compare : τ → α → α → Ordering × τ) (t : τ)

namespace Action

variable {α : Type}

/-- The call itself. -/
def run : Action α → Op α (Answer α)
  | get position => .element <$> SlotArray.get position
  | index position => .element <$> SlotArray.index position
  | front => .element <$> SlotArray.front
  | back => .element <$> SlotArray.back
  | exchange position x => .element <$> SlotArray.exchange position x
  | exchangeIndex position x => .element <$> SlotArray.exchangeIndex position x
  | exchangeFront x => .element <$> SlotArray.exchangeFront x
  | exchangeBack x => .element <$> SlotArray.exchangeBack x
  | reverse => (fun _ => .nothing) <$> SlotArray.reverse
  | fill x => (fun _ => .nothing) <$> SlotArray.fill x
  | find x => .number <$> SlotArray.find x
  | findIf test t => .number <$> SlotArray.findIf test t
  | pushBack x => (fun _ => .nothing) <$> SlotArray.pushBack x
  | emplaceBack x => .element <$> SlotArray.emplaceBack x
  | emplaceNew x => .element <$> SlotArray.emplaceNew x
  | popBack => .element <$> SlotArray.popBack
  | truncate len => (fun _ => .nothing) <$> SlotArray.truncate len
  | clear => (fun _ => .nothing) <$> SlotArray.clear
  | resize len x => (fun _ => .nothing) <$> SlotArray.resize len x
  | resizeDefault len => (fun _ => .nothing) <$> SlotArray.resizeDefault len
  | resizeWith len make t => (fun _ => .nothing) <$> SlotArray.resizeWith len make t
  | insert position items => (fun _ => .nothing) <$> SlotArray.insert position items
  | extend items => (fun _ => .nothing) <$> SlotArray.extend items
  | append other => (fun _ => .nothing) <$> SlotArray.append other
  | assign items => (fun _ => .nothing) <$> SlotArray.assign items
  | remove position => .element <$> SlotArray.remove position
  | removeIf test t => (fun r => .number r.1) <$> SlotArray.removeIf test t
  | removeRange bounds => (fun _ => .nothing) <$> SlotArray.removeRange bounds
  | sort => (fun _ => .nothing) <$> SlotArray.sort
  | sortBy compare t => (fun _ => .nothing) <$> SlotArray.sortBy compare t

end Action

end FixedCapacity.SlotArray

/-! ## The same calls on a list -/

namespace FixedCapacity.ListReport

open Predicate SlotArray

variable {α τ : Type} (capacity : Nat) (xs : List α)

/-- One element at the end, if there is room; `lost` is the ledger if there is none. -/
def push (x : α) (answer : Answer α) (ready lost : List (Event α)) : ListReport α :=
  if capacity ≤ xs.length then ⟨.error .noMemory, xs, [.alert (.arrayFull capacity)], lost⟩
  else ⟨.value answer, xs ++ [x], [], ready⟩

def truncate (len : Nat) : ListReport α :=
  ⟨.value .nothing, xs.take len, [], (xs.drop len).reverse.map .dropped⟩

/-- The length is set; `fresh` are the elements for the new places, each with its ledger entry. -/
def resize (len : Nat) (fresh : List α) (entry : α → Event α) : ListReport α :=
  if capacity < len then ⟨.error .noMemory, xs, [.alert (.resizeOverflow .array len capacity)], []⟩
  else
    ⟨.value .nothing, xs.take len ++ fresh, [],
      (xs.drop len).reverse.map .dropped ++ fresh.map entry⟩

/-- The span of an insertion; an empty one reports nothing. -/
def inserting (len : Nat) (items : List α) : List Trace.Entry :=
  if items = [] then [] else [.span (.insert .array len items.length capacity)]

def insert (position : Nat) (items : List α) : ListReport α :=
  if capacity - xs.length < items.length then
    ⟨.error .noMemory, xs, [.alert (.insertOverflow .array xs.length items.length capacity)], []⟩
  else if xs.length < position then ⟨.error .invalidArgument, xs, [], []⟩
  else
    ⟨.value .nothing, xs.take position ++ items ++ xs.drop position, inserting capacity xs.length items,
      items.map .cloned⟩

def assign (items : List α) : ListReport α :=
  if capacity < items.length then ⟨.error .noMemory, xs, [], []⟩
  else
    ⟨.value .nothing, items, inserting capacity 0 items,
      xs.reverse.map .dropped ++ items.map .cloned⟩

def removeIf (test : τ → α → Bool × τ) (t : τ) : ListReport α :=
  ⟨.value (.number (accepted test t xs).length), kept test t xs, [], judged test t xs⟩

def removeRange (bounds : Bounds) : ListReport α :=
  match bounds.resolve xs.length with
  | .error kind => ⟨.error kind, xs, [], []⟩
  | .ok (start, stop) =>
    ⟨.value .nothing, xs.take start ++ xs.drop stop, [], ((xs.take stop).drop start).map .dropped⟩

def sort (compare : τ → α → α → Ordering × τ) (t : τ) : ListReport α :=
  ⟨.value .nothing, (Exchange.sort compare t xs).items,
    if xs.length < 2 then [] else [.span (.sort xs.length)],
    (Exchange.sort compare t xs).pairs.map compared⟩

end FixedCapacity.ListReport

namespace FixedCapacity.SlotArray

open Call (wordLimit)
open Predicate

namespace Action

variable {α : Type}

/-- The call on the list of the elements of an array with a given capacity. -/
def onList (capacity : Nat) : Action α → List α → ListReport α
  | get position, xs => .found xs[position]? (.error .outOfRange) xs
  | index position, xs => .found xs[position]? (.violation (.indexOutOfBounds xs.length position)) xs
  | front, xs => .found xs.head? (.error .notFound) xs
  | back, xs => .found xs.getLast? (.error .notFound) xs
  | exchange position x, xs => .found xs[position]? (.error .outOfRange) (xs.set position x)
  | exchangeIndex position x, xs =>
    .found xs[position]? (.violation (.indexOutOfBounds xs.length position)) (xs.set position x)
  | exchangeFront x, xs => .found xs.head? (.error .notFound) (xs.set 0 x)
  | exchangeBack x, xs => .found xs.getLast? (.error .notFound) (xs.set (xs.length - 1) x)
  | reverse, xs => ⟨.value .nothing, xs.reverse, [], []⟩
  | fill x, xs =>
    ⟨.value .nothing, List.replicate xs.length x, [], xs.flatMap fun old => [.cloned x, .dropped old]⟩
  | find x, xs => .search xs (fun t y => (y == x, t)) ()
  | findIf test t, xs => .search xs test t
  | pushBack x, xs => .push capacity xs x .nothing [.handed x] [.dropped x]
  | emplaceBack x, xs => .push capacity xs x (.element x) [.handed x] [.dropped x]
  | emplaceNew x, xs => .push capacity xs x (.element x) [.made x] []
  | popBack, xs => .found xs.getLast? (.error .notFound) xs.dropLast
  | truncate len, xs => .truncate xs len
  | clear, xs => .truncate xs 0
  | resize len x, xs =>
    let r := ListReport.resize capacity xs len (List.replicate (len - xs.length) x) .cloned
    { r with ledger := r.ledger ++ [.dropped x] }
  | resizeDefault len, xs => .resize capacity xs len (List.replicate (len - xs.length) default) .made
  | resizeWith len make t, xs => .resize capacity xs len (results make (len - xs.length) t) .made
  | insert position items, xs => .insert capacity xs position items
  | extend items, xs => .insert capacity xs xs.length items
  | append other, xs => .insert capacity xs xs.length other.toList
  | assign items, xs => .assign capacity xs items
  | remove position, xs => .found xs[position]? (.error .invalidArgument) (xs.eraseIdx position)
  | removeIf test t, xs => .removeIf xs test t
  | removeRange bounds, xs => .removeRange xs bounds
  | sort, xs => .sort xs (fun t x y => (compare x y, t)) ()
  | sortBy compare t, xs => .sort xs compare t

/-- The slots behind the elements `ys` that a call leaves: as they were, but for a removal by
predicate, which leaves the last element in every slot it frees. -/
def left (xs : List α) (free : List (Option α)) (ys : List α) : Action α → List (Option α)
  | removeIf test t => List.replicate (accepted test t xs).length xs.getLast? ++ free
  | _ => (xs.map some ++ free).drop ys.length

/-- The slots from a position on, where the elements go so far. -/
theorem drop_slots_of_le {xs : List α} {n : Nat} (h : n ≤ xs.length) (free : List (Option α)) :
    (xs.map some ++ free).drop n = (xs.drop n).map some ++ free := by
  rw [List.drop_append_of_le_length (by simpa using h), List.map_drop]

/-- The slots from a position on, where the elements end before it. -/
theorem drop_slots_of_ge {xs : List α} {n : Nat} (h : xs.length ≤ n) (free : List (Option α)) :
    (xs.map some ++ free).drop n = free.drop (n - xs.length) := by
  rw [List.drop_append, List.drop_eq_nil_of_le (by simpa using h), List.nil_append, List.length_map]

/-- Setting the length leaves the same slots behind it, whichever way the length changes. -/
theorem drop_resized (xs : List α) (len : Nat) (free : List (Option α)) :
    ((xs.drop len).map some ++ free).drop (len - xs.length) = (xs.map some ++ free).drop len := by
  rcases Nat.le_total len xs.length with h | h
  · rw [Nat.sub_eq_zero_of_le h, List.drop_zero, drop_slots_of_le h]
  · rw [List.drop_eq_nil_of_le h, drop_slots_of_ge h]
    rfl

theorem insert_onList (position : Nat) (items xs : List α) (free : List (Option α))
    (hw : xs.length + free.length < wordLimit) :
    ((fun _ => .nothing) <$> SlotArray.insert position items : Op α (Answer α)) (laid xs free) =
      (ListReport.insert (xs.length + free.length) xs position items).on fun ys =>
        laid ys ((xs.map some ++ free).drop ys.length) := by
  simp only [ListReport.insert, ListReport.inserting, Call.map_apply, insert_laid position items xs free hw,
    Nat.add_sub_cancel_left]
  by_cases hroom : free.length < items.length
  · simp [hroom]
  by_cases hpos : xs.length < position
  · simp [hroom, hpos]
  have hlen : (xs.take position ++ items ++ xs.drop position).length = xs.length + items.length := by
    simp; omega
  simp only [if_neg hroom, if_neg hpos]
  simp [hlen, drop_slots_of_ge, -List.append_assoc]

theorem resizeWith_onList {τ : Type} (len : Nat) (make : τ → α × τ) (t : τ) (xs : List α)
    (free : List (Option α)) (hw : xs.length + free.length < wordLimit) :
    ((fun _ => .nothing) <$> SlotArray.resizeWith len make t : Op α (Answer α)) (laid xs free) =
      (ListReport.resize (xs.length + free.length) xs len (results make (len - xs.length) t) .made).on
        fun ys => laid ys ((xs.map some ++ free).drop ys.length) := by
  have hlen : min len xs.length + (len - xs.length) = len := by omega
  simp only [ListReport.resize, Call.map_apply, resizeWith_laid len make t xs free hw]
  split
  · simp
  · simp [-List.map_drop, hlen, drop_resized]

theorem sortBy_onList {τ : Type} (compare : τ → α → α → Ordering × τ) (t : τ) (xs : List α)
    (free : List (Option α)) (hw : xs.length < wordLimit) :
    ((fun _ => .nothing) <$> SlotArray.sortBy compare t : Op α (Answer α)) (laid xs free) =
      (ListReport.sort xs compare t).on fun ys => laid ys ((xs.map some ++ free).drop ys.length) := by
  have hlen : (Exchange.sort compare t xs).items.length = xs.length := Exchange.sort_perm.length_eq
  simp [ListReport.sort, sortBy_laid compare t xs free hw, hlen]

/-- What a call does: the list shows all of it but the values behind the elements. -/
theorem run_laid (action : Action α) (xs : List α) (free : List (Option α))
    (hw : xs.length + free.length < wordLimit) :
    action.run (laid xs free) =
      (action.onList (xs.length + free.length) xs).on fun ys => laid ys (action.left xs free ys) := by
  have hw' : xs.length < wordLimit := by omega
  cases action with
  | get position => simp [run, onList, left, ListReport.found, get_laid]
  | index position => simp [run, onList, left, ListReport.found, index_laid]
  | front => simp [run, onList, left, ListReport.found, front_laid]
  | back => simp [run, onList, left, ListReport.found, back_laid]
  | exchange position x => simp [run, onList, left, ListReport.found, exchange_laid]
  | exchangeIndex position x => simp [run, onList, left, ListReport.found, exchangeIndex_laid]
  | exchangeFront x => simp [run, onList, left, ListReport.found, exchangeFront_laid]
  | exchangeBack x => simp [run, onList, left, ListReport.found, exchangeBack_laid]
  | reverse => simp [run, onList, left, reverse_laid]
  | fill x => simp [run, onList, left, fill_laid]
  | find x => simp [run, onList, left, ListReport.search, SlotArray.find, findIf_laid]
  | findIf test t => simp [run, onList, left, ListReport.search, findIf_laid]
  | pushBack x =>
    cases free <;> simp [run, onList, left, ListReport.push, pushBack_laid x xs _ hw, drop_slots_of_ge,
      List.drop_eq_nil_of_le]
  | emplaceBack x =>
    cases free <;> simp [run, onList, left, ListReport.push, emplaceBack_laid x xs _ hw, drop_slots_of_ge,
      List.drop_eq_nil_of_le]
  | emplaceNew x =>
    cases free <;> simp [run, onList, left, ListReport.push, emplaceNew_laid x xs _ hw, drop_slots_of_ge,
      List.drop_eq_nil_of_le]
  | popBack =>
    rcases List.eq_nil_or_concat xs with rfl | ⟨ys, y, rfl⟩ <;>
      simp [run, onList, left, ListReport.found, popBack_laid]
  | truncate len =>
    rcases Nat.le_total len xs.length with h | h
    · simp [run, onList, left, ListReport.truncate, truncate_laid, drop_slots_of_le, h]
    · simp [run, onList, left, ListReport.truncate, truncate_laid, List.drop_eq_nil_of_le, h]
  | clear => simp [run, onList, left, ListReport.truncate, clear_laid]
  | resize len x =>
    have hlen : min len xs.length + (len - xs.length) = len := by omega
    simp only [run, onList, left, ListReport.resize, Call.map_apply, resize_laid len x xs free hw]
    split
    · simp
    · simp [-List.map_drop, hlen, drop_resized]
  | resizeDefault len =>
    have h := resizeWith_onList len (fun t => (default, t)) () xs free hw
    rw [results_const] at h
    exact h
  | resizeWith len make t => exact resizeWith_onList len make t xs free hw
  | insert position items => exact insert_onList position items xs free hw
  | extend items =>
    simpa [run, onList, left, SlotArray.extend] using insert_onList xs.length items xs free hw
  | append other =>
    simpa [run, onList, left, SlotArray.append, SlotArray.extend] using
      insert_onList xs.length other.toList xs free hw
  | assign items =>
    simp only [run, onList, left, ListReport.assign, ListReport.inserting, Call.map_apply,
      assign_laid items xs free hw]
    split <;> simp
  | remove position =>
    rcases Nat.lt_or_ge position xs.length with h | h
    · obtain ⟨ys, y, rfl⟩ : ∃ ys y, xs = ys ++ [y] := by
        simpa using (List.eq_nil_or_concat xs).resolve_left (List.ne_nil_of_length_pos (by omega))
      have hlen : ((ys ++ [y]).eraseIdx position).length = ys.length := by
        rw [List.length_eraseIdx, if_pos h]
        simp
      simp only [run, onList, left, ListReport.found, Call.map_apply, Report.on_mk, hlen,
        remove_laid position _ free hw', if_pos h]
      simp
    · simp [run, onList, left, ListReport.found, remove_laid position xs free hw',
        List.eraseIdx_of_length_le h, Nat.not_lt.mpr h]
  | removeIf test t => simp [run, onList, left, ListReport.removeIf, removeIf_laid test t xs free hw']
  | removeRange bounds =>
    simp only [run, onList, left, ListReport.removeRange, Call.map_apply, removeRange_laid]
    cases h : bounds.resolve xs.length with
    | error kind => simp
    | ok range =>
      obtain ⟨start, stop⟩ := range
      obtain ⟨hle, hstop⟩ := Bounds.resolve_le h
      have hlen : (xs.take start ++ xs.drop stop).length = xs.length - (stop - start) := by
        simp; omega
      simp only [Outcome.map_value, Report.on_mk, hlen, drop_slots_of_le (Nat.sub_le _ _)]
  | sort => exact sortBy_onList _ () xs free hw'
  | sortBy compare t => exact sortBy_onList compare t xs free hw'

end Action

end FixedCapacity.SlotArray
