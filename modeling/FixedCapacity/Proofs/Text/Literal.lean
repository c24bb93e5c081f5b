/-
  FixedCapacity.Proofs.Text.Literal — which texts are read as integers.

  A `Literal` is a row of digits with a sign in front or none. A range without negative numbers has no
  minus, so that not even `-0` is a literal there. What is read are the literals whose value the range
  has (`parse?_eq_some_iff`). `Strips` says that blanks were taken off both ends of a text, all of them
  and nothing else, and trimming is the one way to do that (`strips_iff`).
-/

import FixedCapacity.Proofs.Text.Decimal

namespace FixedCapacity.Text

variable {m : Nat} {n : Int} {cs text : List Char} {range : IntRange}

/-- The integers that texts denote. A minus is a sign only where the range reaches below zero. -/
inductive Literal (range : IntRange) : Int → List Char → Prop
  | plain {m : Nat} {cs : List Char} (h : Digits m cs) : Literal range m cs
  | plus {m : Nat} {cs : List Char} (h : Digits m cs) : Literal range m ('+' :: cs)
  | minus {m : Nat} {cs : List Char} (hlow : range.low < 0) (h : Digits m cs) : Literal range (-m) ('-' :: cs)

/-- No blank at either end. -/
structure Bare (text : List Char) : Prop where
  first : ∀ c ∈ text.head?, isBlank c = false
  last : ∀ c ∈ text.getLast?, isBlank c = false

/-- What is left of a text when the blanks at its ends are off. -/
def Strips (cs text : List Char) : Prop :=
  ∃ front back, cs = front ++ (text ++ back) ∧ (∀ c ∈ front, isBlank c = true) ∧ (∀ c ∈ back, isBlank c = true) ∧
    Bare text

/-! ## Literals -/

theorem not_digits_sign {c : Char} (hc : isDigit c = false) : ¬ Digits m (c :: cs) := by
  intro h
  have hdigit := List.all_eq_true.mp h.all c List.mem_cons_self
  rw [hc] at hdigit
  cases hdigit

theorem literal_plus : Literal range n ('+' :: cs) ↔ ∃ m, natural? cs = some m ∧ Int.ofNat m = n := by
  simp only [natural?_eq_some_iff]
  constructor
  · intro h
    cases h with
    | plain h => exact absurd h (not_digits_sign rfl)
    | plus h => exact ⟨_, h, rfl⟩
  · rintro ⟨m, h, rfl⟩
    exact .plus h

theorem literal_minus :
    Literal range n ('-' :: cs) ↔ range.low < 0 ∧ ∃ m, natural? cs = some m ∧ -Int.ofNat m = n := by
  simp only [natural?_eq_some_iff]
  constructor
  · intro h
    cases h with
    | plain h => exact absurd h (not_digits_sign rfl)
    | minus hlow h => exact ⟨hlow, _, h, rfl⟩
  · rintro ⟨hlow, m, h, rfl⟩
    exact .minus hlow h

theorem literal_plain (hplus : ∀ rest, cs ≠ '+' :: rest) (hminus : ∀ rest, cs ≠ '-' :: rest) :
    Literal range n cs ↔ ∃ m, natural? cs = some m ∧ Int.ofNat m = n := by
  simp only [natural?_eq_some_iff]
  constructor
  · intro h
    cases h with
    | plain h => exact ⟨_, h, rfl⟩
    | plus h => exact absurd rfl (hplus _)
    | minus hlow h => exact absurd rfl (hminus _)
  · rintro ⟨m, h, rfl⟩
    exact .plain h

/-- A value outside the range counts for nothing. -/
theorem within_eq_some_iff (value : Option Int) :
    (do
      let n ← value
      if range.low ≤ n ∧ n ≤ range.high then some n else none) = some n ↔
      value = some n ∧ range.low ≤ n ∧ n ≤ range.high := by
  cases value with
  | none => simp
  | some value =>
    rw [Option.bind_eq_bind, Option.bind_some, Option.ite_none_right_eq_some, Option.some.injEq]
    constructor
    · rintro ⟨hrange, rfl⟩
      exact ⟨rfl, hrange⟩
    · rintro ⟨rfl, hrange⟩
      exact ⟨hrange, rfl⟩

/-- Exactly the literals are read whose value the range has. -/
theorem parse?_eq_some_iff : parse? range cs = some n ↔ Literal range n cs ∧ range.low ≤ n ∧ n ≤ range.high := by
  unfold parse?
  split
  case h_1 rest =>
    rw [literal_plus, ← Option.map_eq_some_iff]
    exact within_eq_some_iff _
  case h_2 rest =>
    rw [literal_minus, ← Option.map_eq_some_iff]
    by_cases hlow : range.low < 0
    · rw [if_pos hlow, and_iff_right hlow]
      exact within_eq_some_iff _
    · rw [if_neg hlow]
      simp [hlow]
  case h_3 hplus hminus =>
    rw [literal_plain hplus hminus, ← Option.map_eq_some_iff]
    exact within_eq_some_iff _

/-! ## Blanks at the ends -/

theorem dropWhile_blank {front : List Char} (hfront : ∀ c ∈ front, isBlank c = true)
    (hfirst : ∀ c ∈ cs.head?, isBlank c = false) : (front ++ cs).dropWhile isBlank = cs := by
  rw [List.dropWhile_append_of_pos hfront]
  cases cs with
  | nil => rfl
  | cons c rest => rw [List.dropWhile_cons_of_neg (by simp [hfirst c rfl])]

theorem head?_dropWhile_blank (cs : List Char) : ∀ c ∈ (cs.dropWhile isBlank).head?, isBlank c = false := by
  intro c hc
  have h := List.head?_dropWhile_not isBlank cs
  rw [Option.mem_def.mp hc] at h
  exact h

theorem strips_trim (cs : List Char) : Strips cs (trim cs) := by
  have hback : cs.dropWhile isBlank = trim cs ++ ((cs.dropWhile isBlank).reverse.takeWhile isBlank).reverse := by
    rw [trim, ← List.reverse_append, List.takeWhile_append_dropWhile, List.reverse_reverse]
  refine ⟨cs.takeWhile isBlank, ((cs.dropWhile isBlank).reverse.takeWhile isBlank).reverse, ?_, ?_, ?_, ?_, ?_⟩
  · rw [← hback, List.takeWhile_append_dropWhile]
  · intro c hc
    exact List.mem_takeWhile_imp hc
  · intro c hc
    exact List.mem_takeWhile_imp (List.mem_reverse.mp hc)
  · -- What is first after trimming was first once the front was off.
    intro c hc
    apply head?_dropWhile_blank cs c
    rw [hback, Option.mem_def, List.head?_append, Option.mem_def.mp hc, Option.some_or]
  · intro c hc
    rw [trim, List.getLast?_reverse] at hc
    exact head?_dropWhile_blank _ c hc

/-- Blanks can be taken off the ends of a text in one way, which is trimming. -/
theorem strips_iff : Strips cs text ↔ trim cs = text := by
  constructor
  · rintro ⟨front, back, rfl, hfront, hback, hbare⟩
    rw [trim]
    by_cases hnil : text = []
    · subst hnil
      have hall : ∀ c ∈ front ++ ([] ++ back), isBlank c = true := by
        intro c hc
        rcases List.mem_append.mp hc with hc | hc
        · exact hfront c hc
        · exact hback c hc
      rw [List.dropWhile_eq_nil_iff.mpr hall]
      rfl
    · obtain ⟨c, hc⟩ := Option.isSome_iff_exists.mp (List.isSome_head?.mpr hnil)
      have hfirst : ∀ c ∈ (text ++ back).head?, isBlank c = false := by
        intro c' hc'
        rw [List.head?_append, hc] at hc'
        exact hbare.first c' (hc ▸ hc')
      have hlast : ∀ c ∈ text.reverse.head?, isBlank c = false := by
        rw [List.head?_reverse]
        exact hbare.last
      rw [dropWhile_blank hfront hfirst, List.reverse_append,
        dropWhile_blank (fun c hc => hback c (List.mem_reverse.mp hc)) hlast, List.reverse_reverse]
  · rintro rfl
    exact strips_trim cs

end FixedCapacity.Text
