/-
  FixedCapacity.Proofs.SlotArray.Remove — reports of the calls that take elements out.

  The slots a removal frees come to lie in front of the free ones and keep their values.
  `removeIf` removes one element after another, and each removal frees the slot of the
  last element: that is why all its freed slots hold the same value.
-/

import FixedCapacity.Proofs.Bounds
import FixedCapacity.Proofs.SlotArray.Access

namespace FixedCapacity.SlotArray

open Call (wordLimit)
open Predicate

variable {α τ : Type}

/-- A row of elements is moved down over `gap`, the first one first: the last slots of the two stay as
they were. -/
theorem shiftDown_apply (pre gap : List (Option α)) (ys : List α) (rest : List (Option α))
    (count len : Nat) (hgap : gap.length = count) (hcount : 0 < count) :
    shiftDown (pre.length + count) count ys.length ⟨pre ++ (gap ++ (ys.map some ++ rest)), len⟩ =
      ⟨.value (), ⟨pre ++ (ys.map some ++ ((gap ++ ys.map some).drop ys.length ++ rest)), len⟩, [], []⟩ := by
  induction ys generalizing pre gap with
  | nil => simp [shiftDown]
  | cons y ys ih =>
    obtain ⟨slot, gap, rfl⟩ : ∃ slot tail, gap = slot :: tail :=
      List.exists_cons_of_length_pos (by omega)
    have hread : (pre ++ (slot :: gap ++ ((y :: ys).map some ++ rest)))[pre.length + count]? =
        some (some y) := by
      rw [List.getElem?_append_right (by omega), List.getElem?_append_right (by omega)]
      simp [hgap]
    have hset : (pre ++ (slot :: gap ++ ((y :: ys).map some ++ rest))).set pre.length (some y) =
        (pre ++ [some y]) ++ ((gap ++ [some y]) ++ (ys.map some ++ rest)) := by simp
    have hrec := ih (pre ++ [some y]) (gap ++ [some y]) (by simpa using hgap)
    rw [List.length_append, List.length_singleton, Nat.add_right_comm] at hrec
    rw [List.length_cons, shiftDown]
    simp only [Call.bind_apply, Call.sub_of_le (Nat.le_add_left count pre.length), Call.done_apply,
      Report.andThen_value, Report.after_nil, Nat.add_sub_cancel,
      move_apply hread (show pre.length < _ by simp), hset, hrec]
    simp

/-- The row that moves is one longer than the room it moves into: the last slot is freed. -/
theorem remove_split (ys : List α) (x : α) (zs : List α) (free : List (Option α))
    (hw : (ys ++ x :: zs).length < wordLimit) :
    remove ys.length (laid (ys ++ x :: zs) free) =
      ⟨.value x, laid (ys ++ zs) ((x :: zs).getLast? :: free), [], []⟩ := by
  simp only [List.length_append, List.length_cons] at hw
  have hshift := shiftDown_apply (ys.map some) [some x] zs free 1 (ys ++ x :: zs).length rfl Nat.one_pos
  have hslots : (laid (ys ++ x :: zs) free).slots =
      ys.map some ++ ([some x] ++ (zs.map some ++ free)) := by simp
  have hfreed : ([some x] ++ zs.map some).drop zs.length = [(x :: zs).getLast?] := by
    rw [show [some x] ++ zs.map some = (x :: zs).map some by rfl, ← List.map_drop]
    rcases List.eq_nil_or_concat zs with rfl | ⟨zs, z, rfl⟩
    · rfl
    · simp [List.getLast?_cons]
  rw [List.length_map, ← hslots, hfreed] at hshift
  have hread : read ys.length (laid (ys ++ x :: zs) free) =
      ⟨.value x, laid (ys ++ x :: zs) free, [], []⟩ := read_apply (by simp) _
  have hcount : (ys ++ x :: zs).length - (ys.length + 1) = zs.length := by simp; omega
  have hinside : ¬ (ys ++ x :: zs).length ≤ ys.length := by simp
  have hlaid : laid (ys ++ x :: zs) free = ⟨(laid (ys ++ x :: zs) free).slots, (ys ++ x :: zs).length⟩ := rfl
  rw [← hlaid] at hshift
  simp only [remove, Call.bind_apply, Call.get_apply, Report.andThen_value, Report.after_nil, ge_iff_le,
    Call.ite_apply, len_laid, if_neg hinside, hread, Call.add_of_lt (show ys.length + 1 < wordLimit by omega),
    Call.done_apply, hcount, hshift, Call.sub_of_le (show 1 ≤ (ys ++ x :: zs).length by simp; omega),
    setLen_apply, Call.pure_apply]
  simp [laid]

theorem remove_laid (position : Nat) (xs : List α) (free : List (Option α))
    (hw : xs.length < wordLimit) :
    remove position (laid xs free) =
      ⟨.of xs[position]? (.error .invalidArgument), laid (xs.eraseIdx position)
        (if position < xs.length then xs.getLast? :: free else free), [], []⟩ := by
  rcases Nat.lt_or_ge position xs.length with h | h
  · obtain ⟨ys, x, zs, rfl, rfl⟩ : ∃ ys x zs, xs = ys ++ x :: zs ∧ ys.length = position :=
      ⟨xs.take position, xs[position], xs.drop (position + 1), by simp, by simp; omega⟩
    rw [remove_split ys x zs free hw]
    simp [List.eraseIdx_append_of_length_le, List.getLast?_append, List.getLast?_cons]
  · simp [remove, Nat.not_lt.mpr h, h, List.eraseIdx_of_length_le h]

/-! ## Ranges -/

theorem dropFrom_apply (pre : List (Option α)) (ys : List α) (rest : List (Option α)) (len : Nat) :
    dropFrom pre.length ys.length ⟨pre ++ (ys.map some ++ rest), len⟩ =
      ⟨.value (), ⟨pre ++ (ys.map some ++ rest), len⟩, [], ys.map .dropped⟩ := by
  induction ys generalizing pre with
  | nil => simp [dropFrom]
  | cons y ys ih =>
    have hrec := ih (pre ++ [some y])
    rw [List.length_append, List.length_singleton, List.append_assoc] at hrec
    rw [List.length_cons, dropFrom, Call.bind_apply, read_apply (x := y) (by simp)]
    simp only [Report.andThen_value, Report.after_nil, Call.bind_apply, Call.record_apply]
    rw [show pre ++ ((y :: ys).map some ++ rest) = pre ++ ([some y] ++ (ys.map some ++ rest)) by simp,
      hrec]
    simp

theorem removeRange_split (ys gone zs : List α) (free : List (Option α)) (hgone : gone ≠ [])
    {bounds : Bounds}
    (h : bounds.resolve (ys ++ (gone ++ zs)).length = .ok (ys.length, ys.length + gone.length)) :
    removeRange bounds (laid (ys ++ (gone ++ zs)) free) =
      ⟨.value (), laid (ys ++ zs) (((gone ++ zs).drop zs.length).map some ++ free), [],
        gone.map .dropped⟩ := by
  have hpos := List.length_pos_iff.mpr hgone
  have hslots : (ys ++ (gone ++ zs)).map some ++ free =
      ys.map some ++ (gone.map some ++ (zs.map some ++ free)) := by simp
  have hdrop := dropFrom_apply (ys.map some) gone (zs.map some ++ free) ys.length
  have hshift := shiftDown_apply (ys.map some) (gone.map some) zs free gone.length ys.length
    (by simp) hpos
  rw [List.length_map] at hdrop hshift
  have hlen : (ys ++ (gone ++ zs)).length = ys.length + gone.length + zs.length := by simp; omega
  simp only [removeRange, Call.bind_apply, Call.get_apply, Report.andThen_value, Report.after_nil,
    len_laid, h, Call.ofExcept, Call.done_apply, Call.sub_of_le (Nat.le_add_right ys.length gone.length),
    Nat.add_sub_cancel_left, if_neg (show ¬ gone.length = 0 by omega)]
  simp only [laid, setLen_apply, hslots, Call.bind_apply, hdrop, Report.andThen_value, Report.after_nil,
    hlen, Call.sub_of_le (Nat.le_add_right (ys.length + gone.length) zs.length), Call.done_apply,
    Nat.add_sub_cancel_left, hshift,
    Call.sub_of_le (show gone.length ≤ ys.length + gone.length + zs.length by omega)]
  simp
  omega

theorem removeRange_laid (bounds : Bounds) (xs : List α) (free : List (Option α)) :
    removeRange bounds (laid xs free) =
      match bounds.resolve xs.length with
      | .error kind => ⟨.error kind, laid xs free, [], []⟩
      | .ok (start, stop) =>
        ⟨.value (), laid (xs.take start ++ xs.drop stop)
            ((xs.drop (xs.length - (stop - start))).map some ++ free), [],
          ((xs.take stop).drop start).map .dropped⟩ := by
  rcases h : bounds.resolve xs.length with kind | ⟨start, stop⟩
  · simp [removeRange, h, Call.ofExcept]
  obtain ⟨hle, hstop⟩ := Bounds.resolve_le h
  rcases Nat.eq_or_lt_of_le hle with rfl | hlt
  · simp [removeRange, h, Call.ofExcept, Call.sub_of_le]
  obtain ⟨ys, gone, zs, rfl, rfl, rfl⟩ : ∃ ys gone zs, xs = ys ++ (gone ++ zs) ∧ ys.length = start ∧
      ys.length + gone.length = stop := by
    refine ⟨xs.take start, (xs.take stop).drop start, xs.drop stop, ?_, by simp; omega, by simp; omega⟩
    have htake : xs.take start = (xs.take stop).take start := by rw [List.take_take, Nat.min_eq_left hle]
    rw [← List.append_assoc, htake, List.take_append_drop, List.take_append_drop]
  have hgone : gone ≠ [] := List.ne_nil_of_length_pos (by omega)
  have hrange : ((ys ++ (gone ++ zs)).take (ys.length + gone.length)).drop ys.length = gone := by
    rw [← List.append_assoc, List.take_left' (by simp), List.drop_left]
  have hbehind : (ys ++ (gone ++ zs)).drop (ys.length + gone.length) = zs := by
    rw [← List.append_assoc, List.drop_left' (by simp)]
  have hfreed : (ys ++ (gone ++ zs)).drop ((ys ++ (gone ++ zs)).length -
      (ys.length + gone.length - ys.length)) = (gone ++ zs).drop zs.length := by
    rw [show (ys ++ (gone ++ zs)).length - (ys.length + gone.length - ys.length) =
      ys.length + zs.length by simp; omega, ← List.drop_drop, List.drop_left]
  simp only [removeRange_split ys gone zs free hgone h, hrange, hbehind, hfreed, List.take_left]

/-! ## Elements a predicate accepts -/

/-- What a removal by predicate writes into the ledger. -/
def judged (test : τ → α → Bool × τ) (t : τ) (xs : List α) : List (Event α) :=
  (answers test t xs).flatMap fun (x, yes) => if yes then [.tested x, .dropped x] else [.tested x]

/-- Where a removal by predicate stands. -/
structure Cursor (τ : Type) where
  position : Nat
  removed : Nat
  state : τ

/-- Asks about the element at the cursor and takes it out or steps over it. -/
def round (test : τ → α → Bool × τ) (cursor : Cursor τ) : Op α (Cursor τ) := do
  let x ← index cursor.position
  Call.record (.tested x)
  let (yes, t) := test cursor.state x
  if yes then
    let gone ← remove cursor.position
    Call.record (.dropped gone)
    let removed ← Call.add cursor.removed 1
    pure ⟨cursor.position, removed, t⟩
  else
    let position ← Call.add cursor.position 1
    pure ⟨position, cursor.removed, t⟩

theorem removeIfFrom_succ (test : τ → α → Bool × τ) (cursor : Cursor τ) (n : Nat) :
    removeIfFrom test cursor.position cursor.removed cursor.state (n + 1) =
      round test cursor >>= fun next => removeIfFrom test next.position next.removed next.state n := by
  simp only [removeIfFrom, round, bind_assoc]
  congr 1
  funext x
  congr 1
  funext _
  cases (test cursor.state x).1
  · simp only [Bool.false_eq_true, if_false, bind_assoc, pure_bind]
  · simp only [if_true, bind_assoc, pure_bind]

/-- The element at the cursor goes, and the next one comes to its place; or it stays, and the cursor
passes it. -/
theorem round_laid (test : τ → α → Bool × τ) (removed : Nat) (t : τ) (ys : List α) (x : α) (xs : List α)
    (free : List (Option α)) (hw : (ys ++ x :: xs).length < wordLimit) (hr : removed + 1 < wordLimit) :
    round test ⟨ys.length, removed, t⟩ (laid (ys ++ x :: xs) free) =
      if (test t x).1 then
        ⟨.value ⟨ys.length, removed + 1, (test t x).2⟩, laid (ys ++ xs) ((x :: xs).getLast? :: free), [],
          [.tested x, .dropped x]⟩
      else ⟨.value ⟨ys.length + 1, removed, (test t x).2⟩, laid (ys ++ x :: xs) free, [], [.tested x]⟩ := by
  have hindex : index ys.length (laid (ys ++ x :: xs) free) = ⟨.value x, laid (ys ++ x :: xs) free, [], []⟩ := by
    simp [index_laid]
  have hposition : ys.length + 1 < wordLimit := by
    simp only [List.length_append, List.length_cons] at hw
    omega
  unfold round
  rw [Call.bind_apply, hindex]
  simp only [Report.andThen_value, Report.after_nil, Call.bind_apply, Call.record_apply, Call.ite_apply]
  cases (test t x).1
  · simp [Call.add_of_lt hposition]
  · simp [remove_split ys x xs free hw, Call.add_of_lt hr]

/-- The slots freed later hold the same last element, if any is freed later at all. -/
theorem replicate_getLast? (n : Nat) (x : α) (xs : List α) (hn : n ≤ xs.length) :
    List.replicate n xs.getLast? = List.replicate n (x :: xs).getLast? := by
  cases xs with
  | nil =>
    obtain rfl := Nat.le_zero.mp hn
    rfl
  | cons z zs => simp [List.getLast?_cons]

theorem removeIfFrom_laid (test : τ → α → Bool × τ) (removed : Nat) (t : τ) (ys xs : List α)
    (free : List (Option α)) (hw : (ys ++ xs).length < wordLimit) (hr : removed + xs.length < wordLimit) :
    removeIfFrom test ys.length removed t xs.length (laid (ys ++ xs) free) =
      ⟨.value (removed + (accepted test t xs).length, final test t xs), laid (ys ++ kept test t xs)
        (List.replicate (accepted test t xs).length xs.getLast? ++ free), [], judged test t xs⟩ := by
  induction xs generalizing removed t ys free with
  | nil => simp [removeIfFrom, judged, answers]
  | cons x xs ih =>
    have hround := round_laid test removed t ys x xs free hw (by rw [List.length_cons] at hr; omega)
    have hfreed : (accepted test (test t x).2 xs).length ≤ xs.length := by
      have hsplit := length_kept_add_accepted test (test t x).2 xs
      omega
    rw [List.length_append, List.length_cons] at hw
    rw [List.length_cons] at hr
    rw [List.length_cons, removeIfFrom_succ test ⟨ys.length, removed, t⟩, Call.bind_apply, hround, kept_cons,
      accepted_cons, final_cons]
    cases hyes : (test t x).1 with
    | true =>
      have hrec := ih (removed + 1) (test t x).2 ys ((x :: xs).getLast? :: free) (by rw [List.length_append]; omega)
        (by omega)
      rw [replicate_getLast? _ x xs hfreed] at hrec
      simp only [if_true, Report.andThen_value, hrec]
      simp [judged, answers, hyes, List.replicate_succ']
      omega
    | false =>
      have hrec := ih removed (test t x).2 (ys ++ [x]) free (by simp; omega) (by omega)
      rw [List.length_append, List.length_singleton, List.append_assoc, List.singleton_append,
        replicate_getLast? _ x xs hfreed] at hrec
      simp only [Bool.false_eq_true, if_false, Report.andThen_value, hrec]
      simp [judged, answers, hyes]

theorem removeIf_laid (test : τ → α → Bool × τ) (t : τ) (xs : List α) (free : List (Option α))
    (hw : xs.length < wordLimit) :
    removeIf test t (laid xs free) =
      ⟨.value ((accepted test t xs).length, final test t xs), laid (kept test t xs)
        (List.replicate (accepted test t xs).length xs.getLast? ++ free), [], judged test t xs⟩ := by
  have h := removeIfFrom_laid test 0 t [] xs free (by simpa using hw) (by simpa using hw)
  rw [List.length_nil] at h
  simpa [removeIf] using h

end FixedCapacity.SlotArray
