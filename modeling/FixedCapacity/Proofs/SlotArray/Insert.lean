/-
  FixedCapacity.Proofs.SlotArray.Insert — reports of the calls that add elements.

  On an array laid out as `xs` before `free`: what comes in takes the first free slots,
  what `truncate` destroys stays visible in front of them, and a call that is refused
  leaves both as they were. `resizeBy` and `insert` are given in full; the others follow.
-/

import FixedCapacity.Proofs.SlotArray.Layout

namespace FixedCapacity.SlotArray

open Call (wordLimit)

variable {α τ : Type}

/-! ## One element -/

theorem place_laid (x : α) (xs : List α) (slot : Option α) (free : List (Option α))
    (hw : xs.length + 1 < wordLimit) :
    place x (laid xs (slot :: free)) = ⟨.value (), laid (xs ++ [x]) free, [], []⟩ := by
  have hset : (xs.map some ++ slot :: free).set xs.length (some x) = (xs ++ [x]).map some ++ free := by
    simp
  simp only [place, Call.bind_apply, Call.get_apply, Report.andThen_value, Report.after_nil, len_laid]
  rw [laid, write_apply (by simp), hset]
  simp [Call.add_of_lt hw, laid]

theorem isFull_laid (xs : List α) (free : List (Option α)) : (laid xs free).isFull = free.isEmpty := by
  cases free <;> simp [isFull]

/-- A maker runs only if there is a free slot. -/
theorem emplaceBy_laid (make unused : _) (x : α) (ready gone : List (Event α)) (xs : List α)
    (free : List (Option α)) (hw : xs.length + free.length < wordLimit)
    (hmake : ∀ s, make s = ⟨.value x, s, [], ready⟩) (hunused : ∀ s, unused s = ⟨.value (), s, [], gone⟩) :
    emplaceBy make unused (laid xs free) =
      if free = [] then
        ⟨.error .noMemory, laid xs free, [.alert (.arrayFull xs.length)], gone⟩
      else ⟨.value x, laid (xs ++ [x]) free.tail, [], ready⟩ := by
  simp only [emplaceBy, Call.bind_apply, Call.get_apply, Report.andThen_value, Report.after_nil,
    Call.ite_apply, isFull_laid]
  cases free with
  | nil => simp [hunused]
  | cons slot free =>
    rw [List.length_cons] at hw
    simp [hmake, place_laid x xs slot free (by omega)]

theorem emplaceBack_laid (x : α) (xs : List α) (free : List (Option α))
    (hw : xs.length + free.length < wordLimit) :
    emplaceBack x (laid xs free) =
      if free = [] then
        ⟨.error .noMemory, laid xs free, [.alert (.arrayFull xs.length)], [.dropped x]⟩
      else ⟨.value x, laid (xs ++ [x]) free.tail, [], [.handed x]⟩ :=
  emplaceBy_laid _ _ x _ _ xs free hw (fun _ => rfl) fun _ => rfl

theorem emplaceNew_laid (x : α) (xs : List α) (free : List (Option α))
    (hw : xs.length + free.length < wordLimit) :
    emplaceNew x (laid xs free) =
      if free = [] then ⟨.error .noMemory, laid xs free, [.alert (.arrayFull xs.length)], []⟩
      else ⟨.value x, laid (xs ++ [x]) free.tail, [], [.made x]⟩ :=
  emplaceBy_laid _ _ x _ _ xs free hw (fun _ => rfl) fun _ => rfl

theorem pushBack_laid (x : α) (xs : List α) (free : List (Option α))
    (hw : xs.length + free.length < wordLimit) :
    pushBack x (laid xs free) =
      if free = [] then
        ⟨.error .noMemory, laid xs free, [.alert (.arrayFull xs.length)], [.dropped x]⟩
      else ⟨.value (), laid (xs ++ [x]) free.tail, [], [.handed x]⟩ := by
  simp only [pushBack, Call.bind_apply, emplaceBack_laid x xs free hw]
  split <;> simp

/-! ## Off the end -/

theorem popBack_concat (xs : List α) (x : α) (free : List (Option α)) :
    popBack (laid (xs ++ [x]) free) = ⟨.value x, laid xs (some x :: free), [], []⟩ := by
  have hread : read xs.length ⟨(xs ++ [x]).map some ++ free, xs.length⟩ =
      ⟨.value x, laid xs (some x :: free), [], []⟩ := by
    rw [read_apply (x := x) (by simp)]
    simp [laid]
  simp only [popBack, Call.bind_apply, Call.get_apply, Report.andThen_value, Report.after_nil,
    Call.ite_apply, len_laid, List.length_append, List.length_singleton, Nat.add_one_ne_zero, if_false,
    Call.sub_of_le (Nat.le_add_left 1 xs.length), Call.done_apply, Nat.add_sub_cancel]
  rw [laid, setLen_apply, Report.andThen_value, Report.after_nil, hread]

theorem popBack_laid (xs : List α) (free : List (Option α)) :
    popBack (laid xs free) =
      ⟨.of xs.getLast? (.error .notFound), laid xs.dropLast (if xs = [] then free else xs.getLast? :: free),
        [], []⟩ := by
  rcases List.eq_nil_or_concat xs with rfl | ⟨ys, y, rfl⟩
  · simp [popBack]
  · simp [popBack_concat]

theorem dropLast_laid (xs ys : List α) (free : List (Option α)) :
    dropLast ys.length (laid (xs ++ ys) free) =
      ⟨.value (), laid xs (ys.map some ++ free), [], ys.reverse.map .dropped⟩ := by
  induction ys using List.reverseRecOn generalizing free with
  | nil => simp [dropLast]
  | append_singleton ys y ih =>
    have hread : read (xs ++ ys).length ⟨(xs ++ ys ++ [y]).map some ++ free, (xs ++ ys).length⟩ =
        ⟨.value y, laid (xs ++ ys) (some y :: free), [], []⟩ := by
      rw [read_apply (x := y) (by simp)]
      simp [laid]
    have hlen : (xs ++ ys ++ [y]).length = (xs ++ ys).length + 1 := List.length_append
    rw [List.length_append, List.length_singleton, dropLast, ← List.append_assoc]
    simp only [Call.bind_apply, Call.get_apply, Report.andThen_value, Report.after_nil, len_laid,
      hlen, Call.sub_of_le (Nat.le_add_left 1 _),
      Call.done_apply, Nat.add_sub_cancel]
    rw [laid, setLen_apply]
    simp only [Report.andThen_value, Report.after_nil, Call.bind_apply, hread, Call.record_apply, ih]
    simp

/-- What is destroyed stays visible in its slots. -/
theorem truncate_laid (len : Nat) (xs : List α) (free : List (Option α)) :
    truncate len (laid xs free) =
      ⟨.value (), laid (xs.take len) ((xs.drop len).map some ++ free), [],
        (xs.drop len).reverse.map .dropped⟩ := by
  have h := dropLast_laid (xs.take len) (xs.drop len) free
  rw [List.take_append_drop, List.length_drop] at h
  simpa [truncate] using h

theorem clear_laid (xs : List α) (free : List (Option α)) :
    clear (laid xs free) = ⟨.value (), laid [] (xs.map some ++ free), [], xs.reverse.map .dropped⟩ := by
  simpa [clear] using truncate_laid 0 xs free

/-! ## Setting the length -/

/-- The first `n` results of a maker, in the order of its calls. -/
def results (make : τ → α × τ) : Nat → τ → List α
  | 0, _ => []
  | n + 1, t => (make t).1 :: results make n (make t).2

@[simp] theorem length_results (make : τ → α × τ) (n : Nat) (t : τ) :
    (results make n t).length = n := by
  induction n generalizing t with
  | zero => rfl
  | succ n ih => simp [results, ih]

theorem grow_laid {make : τ → Op α (α × τ)} {next : τ → α × τ} {event : α → Event α}
    (hmake : ∀ t s, make t s = ⟨.value (next t), s, [], [event (next t).1]⟩) (n : Nat) (t : τ)
    (xs : List α) (free : List (Option α)) (hn : n ≤ free.length)
    (hw : xs.length + free.length < wordLimit) :
    grow make n t (laid xs free) =
      ⟨.value ((fun t => (next t).2)^[n] t), laid (xs ++ results next n t) (free.drop n), [],
        (results next n t).map event⟩ := by
  induction n generalizing t xs free with
  | zero => simp [grow, results]
  | succ n ih =>
    obtain ⟨slot, free, rfl⟩ : ∃ slot rest, free = slot :: rest :=
      List.exists_cons_of_length_pos (by omega)
    rw [List.length_cons] at hn hw
    simp only [grow, Call.bind_apply, hmake, Report.andThen_value, place_laid _ xs slot free (by omega),
      ih (next t).2 (xs ++ [(next t).1]) free (by omega) (by simp; omega)]
    simp [results]

theorem resizeBy_laid {make : τ → Op α (α × τ)} {next : τ → α × τ} {event : α → Event α}
    (hmake : ∀ t s, make t s = ⟨.value (next t), s, [], [event (next t).1]⟩) (len : Nat) (t : τ)
    (xs : List α) (free : List (Option α)) (hw : xs.length + free.length < wordLimit) :
    resizeBy len make t (laid xs free) =
      if xs.length + free.length < len then
        ⟨.error .noMemory, laid xs free, [.alert (.resizeOverflow .array len (xs.length + free.length))], []⟩
      else
        ⟨.value ((fun t => (next t).2)^[len - xs.length] t),
          laid (xs.take len ++ results next (len - xs.length) t)
            (((xs.drop len).map some ++ free).drop (len - xs.length)), [],
          (xs.drop len).reverse.map .dropped ++ (results next (len - xs.length) t).map event⟩ := by
  simp only [resizeBy, Call.bind_apply, Call.get_apply, Report.andThen_value, Report.after_nil,
    Call.ite_apply, capacity_laid, len_laid]
  split
  · simp
  · rw [truncate_laid]
    simp only [Report.andThen_value]
    rw [grow_laid hmake _ _ _ _ (by simp; omega) (by simp; omega)]
    simp

theorem resizeWith_laid (len : Nat) (make : τ → α × τ) (t : τ) (xs : List α) (free : List (Option α))
    (hw : xs.length + free.length < wordLimit) :
    resizeWith len make t (laid xs free) =
      if xs.length + free.length < len then
        ⟨.error .noMemory, laid xs free, [.alert (.resizeOverflow .array len (xs.length + free.length))], []⟩
      else
        ⟨.value ((fun t => (make t).2)^[len - xs.length] t),
          laid (xs.take len ++ results make (len - xs.length) t)
            (((xs.drop len).map some ++ free).drop (len - xs.length)), [],
          (xs.drop len).reverse.map .dropped ++ (results make (len - xs.length) t).map .made⟩ :=
  resizeBy_laid (fun _ _ => rfl) len t xs free hw

theorem results_const (x : α) (n : Nat) (t : τ) : results (fun t => (x, t)) n t = List.replicate n x := by
  induction n with
  | zero => rfl
  | succ n ih => simp [results, ih, List.replicate_succ]

/-- The argument is destroyed when the call ends, whether or not it was copied. -/
theorem resize_laid (len : Nat) (fill : α) (xs : List α) (free : List (Option α))
    (hw : xs.length + free.length < wordLimit) :
    resize len fill (laid xs free) =
      if xs.length + free.length < len then
        ⟨.error .noMemory, laid xs free, [.alert (.resizeOverflow .array len (xs.length + free.length))],
          [.dropped fill]⟩
      else
        ⟨.value (), laid (xs.take len ++ List.replicate (len - xs.length) fill)
            (((xs.drop len).map some ++ free).drop (len - xs.length)), [],
          (xs.drop len).reverse.map .dropped ++ List.replicate (len - xs.length) (.cloned fill) ++
            [.dropped fill]⟩ := by
  have hmake : ∀ (t : Unit) (s : SlotArray α), (do Call.record (.cloned fill); pure (fill, t) : Op α _) s =
      ⟨.value (fill, t), s, [], [.cloned fill]⟩ := fun _ _ => rfl
  rw [resize, Call.closing_apply, resizeBy_laid hmake len () xs free hw]
  split
  · rfl
  · simp [results_const]

/-! ## Inserting -/

/-- The slots behind `pre` are moved up over `gap`, the last one first: the first slots of the two
stay as they were. -/
theorem shiftUp_apply (pre : List (Option α)) (ys : List α) (gap rest : List (Option α))
    (count len : Nat) (hgap : gap.length = count) (hw : pre.length + ys.length + count ≤ wordLimit) :
    shiftUp pre.length count ys.length ⟨pre ++ (ys.map some ++ (gap ++ rest)), len⟩ =
      ⟨.value (), ⟨pre ++ ((ys.map some ++ gap).take count ++ (ys.map some ++ rest)), len⟩, [], []⟩ := by
  induction ys using List.reverseRecOn generalizing gap rest with
  | nil => simp [shiftUp, ← hgap]
  | append_singleton ys y ih =>
    simp only [List.length_append, List.length_singleton] at hw ⊢
    have hslots : pre ++ ((ys ++ [y]).map some ++ (gap ++ rest)) =
        (pre ++ ys.map some) ++ ((some y :: gap) ++ rest) := by simp
    have hread : (pre ++ ((ys ++ [y]).map some ++ (gap ++ rest)))[pre.length + ys.length]? =
        some (some y) := by simp
    have hset : ((pre ++ ys.map some) ++ ((some y :: gap) ++ rest)).set (pre.length + ys.length + count)
        (some y) = pre ++ (ys.map some ++ ((some y :: gap).take count ++ (some y :: rest))) := by
      rw [set_row_last _ _ _ _ _ (by simp; omega) (by simp)]
      simp [hgap]
    rw [shiftUp]
    simp only [Call.bind_apply, Call.add_of_lt (show pre.length + ys.length + count < wordLimit by omega),
      Call.done_apply, Report.andThen_value, Report.after_nil]
    rw [move_apply hread (by simp; omega), hslots, hset, Report.andThen_value, Report.after_nil,
      ih _ _ (by simp [hgap]) (by omega)]
    -- The gap the rest of the row moves over is the old one with `y` in front.
    simp [List.take_append, List.take_take]

/-- Copies fill a row of slots of their own length. -/
theorem copyInto_apply (pre : List (Option α)) (items : List α) (row rest : List (Option α)) (len : Nat)
    (hrow : row.length = items.length) :
    copyInto pre.length items ⟨pre ++ (row ++ rest), len⟩ =
      ⟨.value (), ⟨pre ++ (items.map some ++ rest), len⟩, [], items.map .cloned⟩ := by
  induction items generalizing pre row with
  | nil => simp_all [copyInto]
  | cons x items ih =>
    obtain ⟨slot, row, rfl⟩ : ∃ slot rest, row = slot :: rest :=
      List.exists_cons_of_length_pos (by simp [hrow])
    have hset : (pre ++ (slot :: row ++ rest)).set pre.length (some x) =
        (pre ++ [some x]) ++ (row ++ rest) := by simp
    have hin : pre.length < (pre ++ (slot :: row ++ rest)).length := by simp
    have hrec := ih (pre ++ [some x]) row (by simpa using hrow)
    rw [List.length_append, List.length_singleton] at hrec
    rw [copyInto]
    simp only [Call.bind_apply, Call.record_apply, Report.andThen_value, write_apply hin, hset, hrec]
    simp

theorem insert_laid (position : Nat) (items xs : List α) (free : List (Option α))
    (hw : xs.length + free.length < wordLimit) :
    insert position items (laid xs free) =
      if free.length < items.length then
        ⟨.error .noMemory, laid xs free,
          [.alert (.insertOverflow .array xs.length items.length (xs.length + free.length))], []⟩
      else if xs.length < position then ⟨.error .invalidArgument, laid xs free, [], []⟩
      else
        ⟨.value (), laid (xs.take position ++ items ++ xs.drop position) (free.drop items.length),
          if items = [] then [] else
            [.span (.insert .array xs.length items.length (xs.length + free.length))],
          items.map .cloned⟩ := by
  simp only [insert, Call.bind_apply, Call.get_apply, Report.andThen_value, Report.after_nil,
    Call.ite_apply, capacity_laid, len_laid, Call.sub_of_le (Nat.le_add_right xs.length free.length),
    Call.done_apply, Nat.add_sub_cancel_left, gt_iff_lt, List.length_eq_zero_iff]
  by_cases hroom : free.length < items.length
  · simp [hroom]
  by_cases hpos : xs.length < position
  · simp [hroom, hpos]
  simp only [if_neg hroom, if_neg hpos]
  by_cases hnil : items = []
  · simp [hnil]
  simp only [if_neg hnil]
  -- The slots as they are met: the elements before the position, those behind it, and as many free
  -- slots as there are items.
  have hslots : xs.map some ++ free = (xs.take position).map some ++
      ((xs.drop position).map some ++ (free.take items.length ++ free.drop items.length)) := by
    rw [← List.append_assoc, ← List.map_append, List.take_append_drop, List.take_append_drop]
  have hlen : ((xs.take position).map some).length = position := by simp; omega
  have hcount : (free.take items.length).length = items.length := by simp; omega
  have hshift := shiftUp_apply ((xs.take position).map some) (xs.drop position)
    (free.take items.length) (free.drop items.length) items.length position hcount
    (by rw [hlen, List.length_drop]; omega)
  have hcopy := copyInto_apply ((xs.take position).map some) items
    (((xs.drop position).map some ++ free.take items.length).take items.length)
    ((xs.drop position).map some ++ free.drop items.length) position (by simp; omega)
  rw [hlen] at hshift hcopy
  rw [List.length_drop] at hshift
  simp only [Call.enter_apply, Call.bind_apply, Report.andThen_value, laid, setLen_apply, Report.after_nil,
    Call.sub_of_le (Nat.le_of_not_lt hpos), Call.done_apply, hslots, hshift, hcopy,
    Call.add_of_lt (show xs.length + items.length < wordLimit by omega)]
  simp
  omega

theorem extend_laid (items xs : List α) (free : List (Option α))
    (hw : xs.length + free.length < wordLimit) :
    extend items (laid xs free) =
      if free.length < items.length then
        ⟨.error .noMemory, laid xs free,
          [.alert (.insertOverflow .array xs.length items.length (xs.length + free.length))], []⟩
      else
        ⟨.value (), laid (xs ++ items) (free.drop items.length),
          if items = [] then [] else
            [.span (.insert .array xs.length items.length (xs.length + free.length))],
          items.map .cloned⟩ := by
  simp only [extend, Call.bind_apply, Call.get_apply, Report.andThen_value, Report.after_nil, len_laid,
    insert_laid _ items xs free hw]
  simp

theorem assign_laid (items xs : List α) (free : List (Option α))
    (hw : xs.length + free.length < wordLimit) :
    assign items (laid xs free) =
      if xs.length + free.length < items.length then ⟨.error .noMemory, laid xs free, [], []⟩
      else
        ⟨.value (), laid items ((xs.map some ++ free).drop items.length),
          if items = [] then [] else
            [.span (.insert .array 0 items.length (xs.length + free.length))],
          xs.reverse.map .dropped ++ items.map .cloned⟩ := by
  simp only [assign, Call.bind_apply, Call.get_apply, Report.andThen_value, Report.after_nil,
    Call.ite_apply, capacity_laid, gt_iff_lt]
  by_cases hroom : xs.length + free.length < items.length
  · simp [hroom]
  · rw [if_neg hroom, if_neg hroom, clear_laid, Report.andThen_value,
      extend_laid items [] _ (by simpa using hw), if_neg (by simpa using hroom)]
    simp

end FixedCapacity.SlotArray
