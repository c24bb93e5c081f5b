/-
  FixedCapacity.Proofs.Removal — removal by predicate asks about every element once.

  The loop over an array takes elements out of the array that it runs over: it goes on as long as there
  is an element at the cursor, in the array as it is by then (`Loop`). One round takes an element out and
  stays, or passes it (`SlotArray.round_laid`); either way there is one element less ahead, and it is the
  one asked about. So the loop ends after as many rounds as there were elements (`loop_removeIfFrom`), and
  in one way only (`Loop.unique`).

  What is left behind is told element by element in the ledger (`Sifted`): each is asked about in its turn,
  by the predicate as the elements in front of it have left it, and destroyed there and then if it goes. A
  string passes over its bytes without taking any out, and asks the same (`removal_asks_once`).
-/

import FixedCapacity.Proofs.ByteString.AsArray

namespace FixedCapacity

open Call (wordLimit)
open Predicate

namespace SlotArray

variable {α τ : Type} {test : τ → α → Bool × τ}

/-! ## The loop -/

/-- Rounds, counted, as long as there is an element at the cursor. -/
inductive Loop (test : τ → α → Bool × τ) :
    Nat → Cursor τ → SlotArray α → Report (SlotArray α) α (Nat × τ) → Prop
  | stop {cursor : Cursor τ} {a : SlotArray α} (h : a.len ≤ cursor.position) :
      Loop test 0 cursor a ⟨.value (cursor.removed, cursor.state), a, [], []⟩
  | step {rounds : Nat} {cursor next : Cursor τ} {a left : SlotArray α} {trace : List Trace.Entry}
      {ledger : List (Event α)} {r : Report (SlotArray α) α (Nat × τ)} (h : cursor.position < a.len)
      (hround : round test cursor a = ⟨.value next, left, trace, ledger⟩) (hrest : Loop test rounds next left r) :
      Loop test (rounds + 1) cursor a (r.after trace ledger)

/-- A loop has one course. -/
theorem Loop.unique {rounds rounds' : Nat} {cursor : Cursor τ} {a : SlotArray α}
    {r r' : Report (SlotArray α) α (Nat × τ)} (h : Loop test rounds cursor a r)
    (h' : Loop test rounds' cursor a r') : rounds = rounds' ∧ r = r' := by
  induction h generalizing rounds' r' with
  | stop hend =>
    cases h' with
    | stop => exact ⟨rfl, rfl⟩
    | step hmore => exact absurd hend (Nat.not_le.mpr hmore)
  | step hmore hround _ ih =>
    cases h' with
    | stop hend => exact absurd hend (Nat.not_le.mpr hmore)
    | step _ hround' hrest' =>
      rw [hround] at hround'
      cases hround'
      obtain ⟨rfl, rfl⟩ := ih hrest'
      exact ⟨rfl, rfl⟩

/-- Counting the elements ahead comes to the same as looking for one at the cursor each time. -/
theorem loop_removeIfFrom (test : τ → α → Bool × τ) (removed : Nat) (t : τ) (ys xs : List α)
    (free : List (Option α)) (hw : (ys ++ xs).length < wordLimit) (hr : removed + xs.length < wordLimit) :
    Loop test xs.length ⟨ys.length, removed, t⟩ (laid (ys ++ xs) free)
      (removeIfFrom test ys.length removed t xs.length (laid (ys ++ xs) free)) := by
  induction xs generalizing removed t ys free with
  | nil => exact .stop (by simp)
  | cons x xs ih =>
    rw [List.length_cons] at hr
    have hround := round_laid test removed t ys x xs free hw (by omega)
    have hmore : ys.length < (laid (ys ++ x :: xs) free).len := by simp
    rw [List.length_append, List.length_cons] at hw
    rw [List.length_cons, removeIfFrom_succ test ⟨ys.length, removed, t⟩, Call.bind_apply]
    cases hyes : (test t x).1 with
    | true =>
      rw [hyes, if_pos rfl] at hround
      rw [hround, Report.andThen_value]
      exact .step hmore hround (ih _ _ ys _ (by rw [List.length_append]; omega) (by omega))
    | false =>
      rw [hyes, if_neg Bool.false_ne_true] at hround
      rw [hround, Report.andThen_value]
      have hrest := ih removed (test t x).2 (ys ++ [x]) free (by simp; omega) (by omega)
      rw [List.length_append, List.length_singleton, List.append_assoc, List.singleton_append] at hrest
      exact .step hmore hround hrest

/-! ## What a removal does -/

/-- What a removal by predicate does to an array. -/
structure Sifted (test : τ → α → Bool × τ) (t : τ) (a : SlotArray α) : Prop where
  /-- The loop ends, after a round for each element. -/
  loop : ∀ rounds r, Loop test rounds ⟨0, 0, t⟩ a r ↔ rounds = a.len ∧ r = removeIf test t a
  asked : ByteString.askedAbout (removeIf test t a).ledger = a.toList
  /-- The predicate answers as what it was asked before has left it. -/
  answered : ∀ i x, a.toList[i]? = some x →
    (answers test t a.toList)[i]? = some (x, (test (Predicate.final test t (a.toList.take i)) x).1)
  kept : (removeIf test t a).state.toList = Predicate.kept test t a.toList
  outcome : (removeIf test t a).outcome =
    .value ((accepted test t a.toList).length, Predicate.final test t a.toList)
  /-- An element that goes is destroyed before the next one is asked about. -/
  ledger : (removeIf test t a).ledger = (answers test t a.toList).flatMap fun (x, yes) =>
    if yes then [.tested x, .dropped x] else [.tested x]

theorem removeIf_loop (test : τ → α → Bool × τ) (t : τ) (xs : List α) (free : List (Option α))
    (hw : xs.length < wordLimit) : Loop test xs.length ⟨0, 0, t⟩ (laid xs free) (removeIf test t (laid xs free)) := by
  have hloop := loop_removeIfFrom test 0 t [] xs free (by simpa using hw) (by simpa using hw)
  have hrun : removeIf test t (laid xs free) = removeIfFrom test 0 0 t xs.length (laid xs free) := by
    simp [removeIf]
  rw [hrun]
  exact hloop

theorem sifted_laid (test : τ → α → Bool × τ) (t : τ) (xs : List α) (free : List (Option α))
    (hw : xs.length < wordLimit) : Sifted test t (laid xs free) := by
  have hloop := removeIf_loop test t xs free hw
  have hrun := removeIf_laid test t xs free hw
  constructor
  case loop =>
    intro rounds r
    rw [len_laid]
    constructor
    · exact fun h => h.unique hloop
    · rintro ⟨rfl, rfl⟩
      exact hloop
  case asked => rw [hrun, ByteString.askedAbout_judged, toList_laid]
  case answered =>
    intro i x hx
    rw [getElem?_answers, hx, Option.map_some]
  case kept => rw [hrun, toList_laid, toList_laid]
  case outcome => rw [hrun, toList_laid]
  case ledger => rw [hrun, toList_laid, judged]

end SlotArray

/-! ## Arrays and strings -/

/-- A removal from a string asks about the same bytes as one from an array of them, in the same order, and
ends the same. -/
structure SiftedAlike {τ : Type} (test : τ → UInt8 → Bool × τ) (t : τ) (s : ByteString) (a : SlotArray UInt8) :
    Prop where
  calls : (s.removeIf test t).ledger = (ByteString.askedAbout (a.removeIf test t).ledger).map .tested
  outcome : (s.removeIf test t).outcome = (a.removeIf test t).outcome
  content : (s.removeIf test t).state.content = (a.removeIf test t).state.toList

/-- What removal by predicate does, to arrays and to strings. -/
structure PredicateRemoval : Prop where
  array : ∀ {α τ : Type} (test : τ → α → Bool × τ) (t : τ) {a : SlotArray α}, a.Sound → a.Sifted test t
  string : ∀ {τ : Type} (test : τ → UInt8 → Bool × τ) (t : τ) {s : ByteString} {a : SlotArray UInt8},
    s.Sound → a.Sound → s.content = a.toList → SiftedAlike test t s a

/-- Removal by predicate asks about every element once, in order. -/
theorem removal_asks_once : PredicateRemoval := by
  constructor
  case array =>
    intro α τ test t a ha
    obtain ⟨xs, free, rfl, hw⟩ := SlotArray.sound_iff.mp ha
    exact SlotArray.sifted_laid test t xs free (by omega)
  case string =>
    intro τ test t s a hs ha hcontent
    obtain ⟨xs, free, rfl, hw⟩ := SlotArray.sound_iff.mp ha
    rw [SlotArray.toList_laid] at hcontent
    have hstring := ByteString.removeIf_eq hs test t
    have harray := SlotArray.removeIf_laid test t xs free (by omega)
    rw [hcontent] at hstring
    constructor
    case calls => rw [hstring, harray, ByteString.askedAbout_judged]
    case outcome => rw [hstring, harray]
    case content => rw [hstring, harray, ByteString.content_holding, SlotArray.toList_laid]

/-- A predicate that accepts every other element it is asked about: the loop stays where it has taken an
element out, and so misses none. -/
theorem removal_asks_once_of_every_other :
    let test : Nat → UInt8 → Bool × Nat := fun asked _ => (asked % 2 = 0, asked + 1)
    let a := SlotArray.ofFull [7, 7, 8, 9, 9]
    let s := ByteString.closed [7, 7, 8, 9, 9] []
    a.Sound ∧ s.Sound ∧ s.content = a.toList ∧
      (∃ r, SlotArray.Loop test 5 ⟨0, 0, 0⟩ a r) ∧ (a.removeIf test 0).outcome = .value (3, 5) ∧
      (a.removeIf test 0).state.toList = [7, 9] ∧
      (a.removeIf test 0).ledger =
        [.tested 7, .dropped 7, .tested 7, .tested 8, .dropped 8, .tested 9, .tested 9, .dropped 9] ∧
      (s.removeIf test 0).state.content = [7, 9] := by
  intro test a s
  have ha : a.Sound := SlotArray.sound_ofFull _ (by decide)
  have hs : s.Sound := ByteString.sound_closed _ _ (by decide)
  have hcontent : s.content = a.toList := rfl
  have harray := removal_asks_once.array test 0 ha
  have hstring := removal_asks_once.string test 0 hs ha hcontent
  have hkept : (a.removeIf test 0).state.toList = [7, 9] := harray.kept.trans (by decide)
  exact ⟨ha, hs, hcontent, ⟨_, (harray.loop 5 _).mpr ⟨rfl, rfl⟩⟩, harray.outcome.trans (by decide), hkept,
    harray.ledger.trans (by decide), hstring.content.trans hkept⟩

end FixedCapacity
