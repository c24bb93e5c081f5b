/-
  FixedCapacity.Proofs.Neighbours — sorting asks about neighbours, whatever it is answered.

  Nothing is assumed of the comparison here. A sort is a row of comparisons at positions that depend on the
  number of elements only (`rounds`, `sortBy_asks`), each of them of two neighbours in the array as the
  comparisons before it have left it (`Course`). So their number is known beforehand (`length_rounds`), and
  as a comparison leaves the array alone or exchanges the two, the elements stay the same.

  Where no answer is `gt` nothing is exchanged. Where all are, a round carries its first element behind all
  that it passes over, and rounds that get shorter by one put each element behind those that came after it:
  the array is turned round (`exchanged_rounds`).
-/

import FixedCapacity.Proofs.SlotArray.Sort

namespace FixedCapacity

open Call (wordLimit)

/-! ## Positions -/

/-- The positions that a sort of `n + 1` elements asks about, in order. -/
def rounds : Nat → List Nat
  | 0 => []
  | n + 1 => List.range (n + 1) ++ rounds n

theorem length_rounds (n : Nat) : (rounds n).length = (n + 1) * n / 2 := by
  have htwice : 2 * (rounds n).length = (n + 1) * n := by
    induction n with
    | zero => rfl
    | succ n ih =>
      rw [rounds, List.length_append, List.length_range, Nat.mul_add, ih]
      ring
  omega

theorem lt_of_mem_rounds {n position : Nat} (h : position ∈ rounds n) : position < n := by
  induction n with
  | zero => cases h
  | succ n ih =>
    rcases List.mem_append.mp h with h | h
    · exact List.mem_range.mp h
    · exact Nat.lt_succ_of_lt (ih h)

section Exchanged

variable {α : Type}

/-- A list with the elements at a position and behind it exchanged. -/
def exchanged : List α → Nat → List α
  | x :: y :: rest, 0 => y :: x :: rest
  | x :: rest, position + 1 => x :: exchanged rest position
  | xs, _ => xs

theorem exchanged_behind (ys : List α) (x y : α) (zs : List α) :
    exchanged (ys ++ x :: y :: zs) ys.length = ys ++ y :: x :: zs := by
  induction ys with
  | nil => rfl
  | cons head ys ih =>
    rw [List.cons_append, List.length_cons, exchanged, ih]
    rfl

/-- Exchanges at one position after the other carry the first element behind those that it passes. -/
theorem exchanged_range (x : α) (ys zs : List α) :
    (List.range ys.length).foldl exchanged (x :: (ys ++ zs)) = ys ++ x :: zs := by
  induction ys using List.reverseRecOn generalizing zs with
  | nil => rfl
  | append_singleton ys y ih =>
    rw [List.length_append, List.length_singleton, List.range_succ, List.foldl_append, List.append_assoc,
      List.singleton_append, ih (y :: zs)]
    have hlast := exchanged_behind ys x y zs
    simpa using hlast

/-- Every round puts the first element behind the others, and the next one leaves it there. -/
theorem exchanged_rounds (x : α) (xs zs : List α) :
    (rounds xs.length).foldl exchanged (x :: (xs ++ zs)) = xs.reverse ++ x :: zs := by
  induction xs generalizing x zs with
  | nil => rfl
  | cons y ys ih =>
    have hround := exchanged_range x (y :: ys) zs
    rw [List.length_cons] at hround ⊢
    rw [rounds, List.foldl_append, hround, List.cons_append, ih y (x :: zs), List.reverse_cons, List.append_assoc]
    rfl

end Exchanged

namespace SlotArray

variable {α τ : Type} {compare : τ → α → α → Ordering × τ}

/-! ## A sort as a row of comparisons -/

/-- Comparisons at positions, one after the other. -/
def asks (compare : τ → α → α → Ordering × τ) : List Nat → τ → Op α τ
  | [], t => pure t
  | position :: rest, t => ask compare position t >>= asks compare rest

theorem asks_append (compare : τ → α → α → Ordering × τ) (positions later : List Nat) (t : τ) :
    asks compare (positions ++ later) t = asks compare positions t >>= asks (α := α) compare later := by
  induction positions generalizing t with
  | nil => rw [List.nil_append, asks, pure_bind]
  | cons position rest ih =>
    rw [List.cons_append, asks, asks, bind_assoc]
    congr 1
    funext t
    exact ih t

theorem sweep_asks (compare : τ → α → α → Ordering × τ) (position : Nat) (t : τ) (n : Nat) :
    sweep compare position t n = asks (α := α) compare (List.range' position n) t := by
  induction n generalizing position t with
  | zero => rfl
  | succ n ih =>
    rw [sweep_succ, List.range'_succ, asks]
    congr 1
    funext t
    exact ih (position + 1) t

theorem sweeps_asks (compare : τ → α → α → Ordering × τ) (t : τ) {len pass n : Nat} (h : pass + n + 1 = len) :
    sweeps compare len pass t n = asks (α := α) compare (rounds n) t := by
  induction n generalizing t pass with
  | zero => rfl
  | succ n ih =>
    rw [sweeps_succ compare t h, sweep_asks, rounds, asks_append, List.range_eq_range']
    congr 1
    funext t
    exact ih t (by omega)

theorem sortBy_asks (compare : τ → α → α → Ordering × τ) (t : τ) (a : SlotArray α) :
    sortBy compare t a =
      (asks compare (rounds (a.len - 1)) t a).after (if a.len < 2 then [] else [.span (.sort a.len)]) [] := by
  simp only [sortBy, Call.bind_apply, Call.get_apply, Report.andThen_value, Report.after_nil, Call.ite_apply]
  by_cases hfew : a.len < 2
  · have hnone : a.len - 1 = 0 := by omega
    rw [if_pos hfew, if_pos hfew, hnone]
    rfl
  · have hsome : 1 ≤ a.len := by omega
    rw [if_neg hfew, if_neg hfew, Call.enter_apply, Report.andThen_value, Call.bind_apply, Call.sub_of_le hsome,
      Call.done_apply, Report.andThen_value, Report.after_nil, sweeps_asks compare t (by omega)]

/-! ## Comparisons of neighbours -/

/-- A comparison that was made: where, of which elements, and with which answer. -/
structure Question (α : Type) where
  position : Nat
  first : α
  second : α
  answer : Ordering

/-- The ledger entry of a comparison that was made. -/
def Question.event (q : Question α) : Event α := .compared q.first q.second

/-- Comparisons one after the other. Each is one of neighbours in the array as it is by then, and exchanges
them if the answer is `gt`. -/
inductive Course (compare : τ → α → α → Ordering × τ) :
    τ → SlotArray α → List (Question α) → Report (SlotArray α) α τ → Prop
  | stop {t : τ} {a : SlotArray α} : Course compare t a [] ⟨.value t, a, [], []⟩
  | ask {t next : τ} {ys zs left : List α} {x y : α} {free : List (Option α)} {answer : Ordering}
      {questions : List (Question α)} {r : Report (SlotArray α) α τ} (hanswer : compare t x y = (answer, next))
      (hleft : left = ys ++ if answer = .gt then y :: x :: zs else x :: y :: zs)
      (hask : ask compare ys.length t (laid (ys ++ x :: y :: zs) free) =
        ⟨.value next, laid left free, [], [.compared x y]⟩)
      (hrest : Course compare next (laid left free) questions r) :
      Course compare t (laid (ys ++ x :: y :: zs) free) (⟨ys.length, x, y, answer⟩ :: questions)
        (r.after [] [.compared x y])

theorem exists_neighbours {position : Nat} {xs : List α} (h : position + 1 < xs.length) :
    ∃ ys x y zs, xs = ys ++ x :: y :: zs ∧ ys.length = position := by
  refine ⟨xs.take position, xs[position], xs[position + 1], xs.drop (position + 2), ?_, ?_⟩
  · rw [← List.drop_eq_getElem_cons h, ← List.drop_eq_getElem_cons (by omega), List.take_append_drop]
  · exact List.length_take_of_le (by omega)

/-- A row of comparisons takes a course, at whatever positions there are. -/
theorem course_asks (compare : τ → α → α → Ordering × τ) (t : τ) {positions : List Nat} {xs : List α}
    (free : List (Option α)) (h : ∀ position ∈ positions, position + 1 < xs.length) (hw : xs.length < wordLimit) :
    ∃ questions, questions.map Question.position = positions ∧
      Course compare t (laid xs free) questions (asks compare positions t (laid xs free)) := by
  induction positions generalizing t xs with
  | nil => exact ⟨[], rfl, .stop⟩
  | cons position rest ih =>
    obtain ⟨ys, x, y, zs, rfl, rfl⟩ := exists_neighbours (h position List.mem_cons_self)
    have hask := ask_laid compare t ys x y zs free hw
    generalize hleft : (ys ++ if (compare t x y).1 = .gt then y :: x :: zs else x :: y :: zs) = left at hask
    have hlength : left.length = (ys ++ x :: y :: zs).length := by
      rw [← hleft]
      split <;> simp
    have hinside : ∀ p ∈ rest, p + 1 < left.length := by
      rw [hlength]
      exact fun p hp => h p (List.mem_cons_of_mem _ hp)
    obtain ⟨questions, hpositions, hcourse⟩ := ih (compare t x y).2 hinside (hlength.trans_lt hw)
    refine ⟨⟨ys.length, x, y, (compare t x y).1⟩ :: questions, by rw [List.map_cons, hpositions], ?_⟩
    rw [asks, Call.bind_apply, hask, Report.andThen_value]
    exact .ask rfl hleft.symm hask hcourse

namespace Course

variable {t : τ} {a : SlotArray α} {questions : List (Question α)} {r : Report (SlotArray α) α τ}

theorem returns (h : Course compare t a questions r) : ∃ last, r.outcome = .value last := by
  induction h with
  | stop => exact ⟨_, rfl⟩
  | ask _ _ _ _ ih => exact ih

theorem ledger (h : Course compare t a questions r) : r.ledger = questions.map Question.event := by
  induction h with
  | stop => rfl
  | ask _ _ _ _ ih =>
    rw [List.map_cons, ← ih]
    rfl

/-- The answers are those of the comparison, whatever state it was in. -/
theorem answers (h : Course compare t a questions r) :
    ∀ q ∈ questions, ∃ state, (compare state q.first q.second).1 = q.answer := by
  induction h with
  | stop => nofun
  | ask hanswer _ _ _ ih =>
    intro q hq
    rcases List.mem_cons.mp hq with rfl | hq
    · exact ⟨_, congrArg Prod.fst hanswer⟩
    · exact ih q hq

theorem perm (h : Course compare t a questions r) : r.state.toList.Perm a.toList := by
  induction h with
  | stop => exact .refl _
  | ask _ hleft _ _ ih =>
    refine ih.trans ?_
    rw [toList_laid, toList_laid, hleft]
    split
    · exact (List.Perm.swap _ _ _).append_left _
    · exact .refl _

theorem unchanged (h : Course compare t a questions r) (hnone : ∀ q ∈ questions, q.answer ≠ .gt) : r.state = a := by
  induction h with
  | stop => rfl
  | ask _ hleft _ _ ih =>
    obtain ⟨hanswer, hrest⟩ := List.forall_mem_cons.mp hnone
    rw [if_neg hanswer] at hleft
    rw [Report.state_after, ih hrest, hleft]

/-- If all answers are `gt`, the elements are exchanged at all the positions. -/
theorem exchanged (h : Course compare t a questions r) (hall : ∀ q ∈ questions, q.answer = .gt) :
    r.state.toList = (questions.map Question.position).foldl exchanged a.toList := by
  induction h with
  | stop => rfl
  | ask _ hleft _ _ ih =>
    obtain ⟨hanswer, hrest⟩ := List.forall_mem_cons.mp hall
    rw [if_pos hanswer] at hleft
    rw [Report.state_after, ih hrest, List.map_cons, List.foldl_cons, toList_laid, toList_laid, exchanged_behind,
      hleft]

end Course

/-! ## Any comparison -/

/-- What a sort does, by the comparisons that it makes. -/
structure Sorts (compare : τ → α → α → Ordering × τ) (t : τ) (a : SlotArray α) (questions : List (Question α)) :
    Prop where
  course : ∃ r, Course compare t a questions r ∧
    sortBy compare t a = r.after (if a.len < 2 then [] else [.span (.sort a.len)]) []
  /-- Nothing but these comparisons is done to the elements. -/
  ledger : (sortBy compare t a).ledger = questions.map Question.event
  answers : ∀ q ∈ questions, ∃ state, (compare state q.first q.second).1 = q.answer
  count : questions.length = a.len * (a.len - 1) / 2
  returns : ∃ last, (sortBy compare t a).outcome = .value last
  perm : (sortBy compare t a).state.toList.Perm a.toList
  unchanged : (∀ q ∈ questions, q.answer ≠ .gt) → (sortBy compare t a).state = a
  reversed : (∀ q ∈ questions, q.answer = .gt) → (sortBy compare t a).state.toList = a.toList.reverse

/-- Exchanges at all the positions of a sort turn a list round. -/
theorem exchanged_sort (xs : List α) : (rounds (xs.length - 1)).foldl exchanged xs = xs.reverse := by
  cases xs with
  | nil => rfl
  | cons x xs =>
    have hrounds := exchanged_rounds x xs []
    rwa [List.append_nil, ← List.reverse_cons] at hrounds

/-- Sorting calls any comparison on neighbours only, as often as the number of elements says, and leaves the
same elements. -/
theorem sorting_asks_neighbours (compare : τ → α → α → Ordering × τ) (t : τ) {a : SlotArray α} (ha : Sound a) :
    ∃ questions, Sorts compare t a questions := by
  obtain ⟨xs, free, rfl, hw⟩ := sound_iff.mp ha
  have hinside : ∀ position ∈ rounds (xs.length - 1), position + 1 < xs.length := by
    intro position hposition
    have hlt := lt_of_mem_rounds hposition
    omega
  obtain ⟨questions, hpositions, hcourse⟩ := course_asks compare t free hinside (by omega)
  have hsort := sortBy_asks compare t (laid xs free)
  rw [len_laid] at hsort
  refine ⟨questions, ?_⟩
  constructor
  case course => exact ⟨_, hcourse, by rw [hsort, len_laid]⟩
  case ledger => rw [hsort, ← hcourse.ledger]; rfl
  case answers => exact hcourse.answers
  case count =>
    rw [← List.length_map, hpositions, length_rounds, len_laid]
    cases xs with
    | nil => rfl
    | cons x xs => rfl
  case returns => rw [hsort]; exact hcourse.returns
  case perm => rw [hsort]; exact hcourse.perm
  case unchanged =>
    intro hnone
    rw [hsort]
    exact hcourse.unchanged hnone
  case reversed =>
    intro hall
    rw [hsort, Report.state_after, hcourse.exchanged hall, hpositions, toList_laid, exchanged_sort]

/-- A comparison that says everything is greater turns four elements round, one that says nothing is leaves
them, and one that changes its mind at every question is asked as often. -/
theorem sorting_asks_neighbours_of_four :
    let greater (asked x y : Nat) := (Ordering.gt, asked + x + y)
    let less (asked x y : Nat) := (Ordering.lt, asked + x + y)
    let moody (asked _ _ : Nat) := (if asked % 2 = 0 then Ordering.gt else Ordering.lt, asked + 1)
    let a : SlotArray Nat := .laid [3, 1, 2, 1] [none, some 9]
    a.Sound ∧ (sortBy greater 0 a).state.toList = [1, 2, 1, 3] ∧ (sortBy less 0 a).state = a ∧
      (sortBy moody 0 a).state.toList.Perm [3, 1, 2, 1] ∧
      ∃ questions, Sorts moody 0 a questions ∧ questions.length = 6 := by
  intro greater less moody a
  have ha : a.Sound := sound_laid _ _ (by decide)
  obtain ⟨questions, hgreater⟩ := sorting_asks_neighbours greater 0 ha
  obtain ⟨questions', hless⟩ := sorting_asks_neighbours less 0 ha
  obtain ⟨questions'', hmoody⟩ := sorting_asks_neighbours moody 0 ha
  refine ⟨ha, ?_, ?_, hmoody.perm, questions'', hmoody, hmoody.count.trans (by decide)⟩
  · refine (hgreater.reversed fun q hq => ?_).trans (by decide)
    obtain ⟨state, hanswer⟩ := hgreater.answers q hq
    exact hanswer.symm
  · refine hless.unchanged fun q hq hgt => ?_
    obtain ⟨state, hanswer⟩ := hless.answers q hq
    rw [hgt] at hanswer
    cases hanswer

end SlotArray

end FixedCapacity
