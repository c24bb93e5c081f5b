/-
  FixedCapacity.Proofs.SlotArray.Access — reports of the calls that reach elements by
  position, replace them, or look for one. None of them changes the length or a free slot.
-/

import FixedCapacity.Proofs.ListReport
import FixedCapacity.Proofs.SlotArray.Layout

namespace FixedCapacity.SlotArray

open Predicate

variable {α τ : Type}

theorem get_laid (position : Nat) (xs : List α) (free : List (Option α)) :
    get position (laid xs free) = ⟨.of xs[position]? (.error .outOfRange), laid xs free, [], []⟩ := by
  simp only [get, Call.bind_apply, Call.get_apply, Report.andThen_value, toList_laid]
  cases xs[position]? <;> rfl

theorem index_laid (position : Nat) (xs : List α) (free : List (Option α)) :
    index position (laid xs free) =
      ⟨.of xs[position]? (.violation (.indexOutOfBounds xs.length position)), laid xs free, [], []⟩ := by
  simp only [index, Call.bind_apply, Call.get_apply, Report.andThen_value, toList_laid, len_laid]
  cases xs[position]? <;> rfl

theorem front_laid (xs : List α) (free : List (Option α)) :
    front (laid xs free) = ⟨.of xs.head? (.error .notFound), laid xs free, [], []⟩ := by
  simp only [front, Call.bind_apply, Call.get_apply, Report.andThen_value, toList_laid]
  cases xs.head? <;> rfl

theorem back_laid (xs : List α) (free : List (Option α)) :
    back (laid xs free) = ⟨.of xs.getLast? (.error .notFound), laid xs free, [], []⟩ := by
  simp only [back, Call.bind_apply, Call.get_apply, Report.andThen_value, toList_laid]
  cases xs.getLast? <;> rfl

/-! ## Replacing -/

theorem write_laid {position : Nat} (x : α) {xs : List α} (free : List (Option α))
    (h : position < xs.length) :
    write position x (laid xs free) = ⟨.value (), laid (xs.set position x) free, [], []⟩ := by
  have hset : (xs.map some ++ free).set position (some x) = (xs.set position x).map some ++ free := by
    rw [List.set_append_left _ _ (by simpa using h), List.map_set]
  rw [laid, write_apply (by simp; omega), hset]
  simp [laid]

/-- Replacing at a position without an element changes nothing, as `List.set` does. -/
theorem exchange_laid (position : Nat) (x : α) (xs : List α) (free : List (Option α)) :
    exchange position x (laid xs free) =
      ⟨.of xs[position]? (.error .outOfRange), laid (xs.set position x) free, [], []⟩ := by
  simp only [exchange, Call.bind_apply, get_laid]
  rcases Nat.lt_or_ge position xs.length with h | h
  · simp [List.getElem?_eq_getElem h, write_laid x free h]
  · simp [List.getElem?_eq_none h, List.set_eq_of_length_le h]

theorem exchangeIndex_laid (position : Nat) (x : α) (xs : List α) (free : List (Option α)) :
    exchangeIndex position x (laid xs free) =
      ⟨.of xs[position]? (.violation (.indexOutOfBounds xs.length position)),
        laid (xs.set position x) free, [], []⟩ := by
  simp only [exchangeIndex, Call.bind_apply, index_laid]
  rcases Nat.lt_or_ge position xs.length with h | h
  · simp [List.getElem?_eq_getElem h, write_laid x free h]
  · simp [List.getElem?_eq_none h, List.set_eq_of_length_le h]

theorem exchangeFront_laid (x : α) (xs : List α) (free : List (Option α)) :
    exchangeFront x (laid xs free) =
      ⟨.of xs.head? (.error .notFound), laid (xs.set 0 x) free, [], []⟩ := by
  simp only [exchangeFront, Call.bind_apply, front_laid]
  cases xs with
  | nil => simp
  | cons y ys =>
    have hfirst : 0 < (y :: ys).length := by simp
    simp [write_laid x free hfirst]

theorem exchangeBack_laid (x : α) (xs : List α) (free : List (Option α)) :
    exchangeBack x (laid xs free) =
      ⟨.of xs.getLast? (.error .notFound), laid (xs.set (xs.length - 1) x) free, [], []⟩ := by
  simp only [exchangeBack, Call.bind_apply, back_laid]
  rcases List.eq_nil_or_concat xs with rfl | ⟨ys, y, rfl⟩
  · simp
  · have hlast : ys.length < (ys ++ [y]).length := by simp
    simp [Call.sub_of_le, write_laid x free hlast]

theorem writeFrom_laid (done ys zs : List α) (free : List (Option α)) (h : ys.length = zs.length) :
    writeFrom done.length zs (laid (done ++ ys) free) = ⟨.value (), laid (done ++ zs) free, [], []⟩ := by
  induction zs generalizing done ys with
  | nil => simp_all [writeFrom]
  | cons z zs ih =>
    obtain ⟨y, ys, rfl⟩ : ∃ y rest, ys = y :: rest := List.exists_cons_of_length_pos (by simp [h])
    have hrec := ih (done ++ [z]) ys (by simpa using h)
    rw [List.length_append, List.length_singleton] at hrec
    have hset : (done ++ y :: ys).set done.length z = done ++ [z] ++ ys := by simp
    have hin : done.length < (done ++ y :: ys).length := by simp
    simp only [writeFrom, Call.bind_apply, write_laid z free hin, hset, Report.andThen_value, hrec]
    simp

theorem reverse_laid (xs : List α) (free : List (Option α)) :
    reverse (laid xs free) = ⟨.value (), laid xs.reverse free, [], []⟩ := by
  simpa [reverse] using writeFrom_laid [] xs xs.reverse free (by simp)

theorem fill_laid (x : α) (xs : List α) (free : List (Option α)) :
    fill x (laid xs free) =
      ⟨.value (), laid (List.replicate xs.length x) free, [],
        xs.flatMap fun old => [.cloned x, .dropped old]⟩ := by
  have hrecord (ys : List α) (s : SlotArray α) :
      (forM ys fun old => do Call.record (.cloned x); Call.record (.dropped old) : Op α PUnit) s =
        ⟨.value (), s, [], ys.flatMap fun old => [.cloned x, .dropped old]⟩ := by
    induction ys with
    | nil => rfl
    | cons y ys ih => simp [ih]
  have hwrite := writeFrom_laid [] xs (xs.map fun _ => x) free (by simp)
  simp only [List.length_nil, List.nil_append] at hwrite
  simp only [fill, Call.bind_apply, Call.get_apply, Report.andThen_value, Report.after_nil, toList_laid,
    List.forM_eq_forM, hrecord, hwrite]
  simp [List.map_const']

/-! ## Looking for elements -/

theorem findIf_laid (test : τ → α → Bool × τ) (t : τ) (xs : List α) (free : List (Option α)) :
    findIf test t (laid xs free) =
      ⟨.of (first? test t xs) (.error .notFound), laid xs free, [], (asked test t xs).map .tested⟩ := by
  simp only [findIf, Call.bind_apply, Call.get_apply, Report.andThen_value, toList_laid, Call.searchFrom_apply]
  cases first? test t xs <;> simp

end FixedCapacity.SlotArray
