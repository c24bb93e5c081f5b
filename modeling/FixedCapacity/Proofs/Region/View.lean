/-
  FixedCapacity.Proofs.Region.View — what an array over a region does to the bytes.

  The bytes of a slot are those of the element in it, if a call has written the slot, and
  else those that were there (`slotBytes_flush`). No call writes outside the slots
  (`take_padding_flush`, `drop_slots_flush`), so whatever sequence of calls is made, the
  region changes in the slots of elements only (`bound_array_frames_region`).

  Binding forgets the bytes: a slot starts out unwritten. `inPlace` is the array that finds
  in each slot the value of the bytes that lie there. It gives the same answers and leaves
  the same bytes, so nothing is lost by forgetting them.
-/

import FixedCapacity.Proofs.Region.Integer
import FixedCapacity.Proofs.SlotArray.Free
import FixedCapacity.Region.View

namespace FixedCapacity.Region

open Call (wordLimit)
open SlotArray (Action Sound sound_laid empty_eq_laid)

variable {t : IntType} {r : Region}

/-! ## Where the slots lie -/

theorem padding_aligned (hwidth : 0 < t.width) : (r.address + padding t r) % t.width = 0 := by
  have hlt := Nat.mod_lt r.address hwidth
  rw [Nat.add_mod, padding, Nat.mod_mod, Nat.add_mod_mod, Nat.add_sub_cancel' hlt.le, Nat.mod_self]

theorem padding_le {skip : Nat} (hskip : (r.address + skip) % t.width = 0) : padding t r ≤ skip := by
  rw [padding]
  by_cases haligned : r.address % t.width = 0
  · rw [haligned, Nat.sub_zero, Nat.mod_self]
    exact Nat.zero_le skip
  · by_contra hshort
    have hle := Nat.mod_le (t.width - r.address % t.width) t.width
    rw [Nat.add_mod, Nat.mod_eq_of_lt (a := skip) (by omega), Nat.mod_eq_of_lt (by omega)] at hskip
    omega

/-- There is no slot unless the padding lies within the region. -/
theorem padding_le_size (hslots : 0 < slotCount t r) : padding t r ≤ r.size := by
  by_contra hbeyond
  rw [slotCount, Nat.sub_eq_zero_of_le (by omega), Nat.zero_div] at hslots
  exact Nat.lt_irrefl 0 hslots

theorem slotCount_mul_le (t : IntType) (r : Region) :
    slotCount t r * t.width ≤ (r.bytes.drop (padding t r)).length := by
  rw [List.length_drop]
  exact Nat.div_mul_le_self _ _

/-- The bytes of a slot. -/
def slotBytes (t : IntType) (r : Region) (i : Nat) : List UInt8 :=
  (r.bytes.drop (padding t r + i * t.width)).take t.width

theorem bindArray_apply {σ α : Type} (t : IntType) (r : Region) (s : σ) :
    (r.bindArray t : Call σ α (SlotArray Int)) s =
      if slotCount t r = 0 then
        ⟨.error .invalidArgument, s, [.span (.bind .array r.size), .alert .bufferTooSmall], []⟩
      else ⟨.value (.empty (slotCount t r)), s, [.span (.bind .array r.size)], []⟩ := by
  simp only [bindArray, Call.bind_apply, Call.enter_apply, Report.andThen_value, Call.ite_apply,
    Call.alert_apply, Call.refuse_apply, Call.pure_apply]
  split <;> rfl

/-! ## The bytes under a row of slots -/

/-- The bytes under one slot, where `bytes` were before. -/
def slotOver (t : IntType) (slot : Option Int) (bytes : List UInt8) : List UInt8 :=
  match slot with
  | some n => t.encode n
  | none => bytes

theorem laySlots_cons (slot : Option Int) (slots : List (Option Int)) (bytes : List UInt8) :
    laySlots t (slot :: slots) bytes =
      slotOver t slot (bytes.take t.width) ++ laySlots t slots (bytes.drop t.width) := by
  cases slot <;> rfl

theorem length_slotOver (slot : Option Int) (bytes : List UInt8) (h : t.width ≤ bytes.length) :
    (slotOver t slot (bytes.take t.width)).length = t.width := by
  cases slot with
  | some n => exact t.length_encode n
  | none => rw [slotOver, List.length_take, Nat.min_eq_left h]

theorem length_laySlots {slots : List (Option Int)} {bytes : List UInt8}
    (h : slots.length * t.width ≤ bytes.length) : (laySlots t slots bytes).length = bytes.length := by
  induction slots generalizing bytes with
  | nil => rfl
  | cons slot slots ih =>
    rw [List.length_cons, Nat.succ_mul] at h
    rw [laySlots_cons, List.length_append, length_slotOver slot bytes (by omega),
      ih (by rw [List.length_drop]; omega), List.length_drop]
    omega

theorem drop_laySlots {slots : List (Option Int)} {bytes : List UInt8} {i : Nat} (hi : i ≤ slots.length)
    (h : slots.length * t.width ≤ bytes.length) :
    (laySlots t slots bytes).drop (i * t.width) =
      laySlots t (slots.drop i) (bytes.drop (i * t.width)) := by
  induction i generalizing slots bytes with
  | zero => rw [Nat.zero_mul, List.drop_zero, List.drop_zero, List.drop_zero]
  | succ i ih =>
    obtain ⟨slot, slots, rfl⟩ : ∃ slot rest, slots = slot :: rest :=
      List.exists_cons_of_length_pos (by omega)
    rw [List.length_cons] at hi h
    rw [Nat.succ_mul] at h
    have hfirst := length_slotOver slot bytes (show t.width ≤ bytes.length by omega)
    rw [laySlots_cons, Nat.succ_mul, Nat.add_comm (i * t.width), ← List.drop_drop,
      List.drop_left' hfirst, List.drop_succ_cons, ← List.drop_drop]
    exact ih (by omega) (by rw [List.length_drop]; omega)

theorem take_drop_laySlots {slots : List (Option Int)} {bytes : List UInt8} {i : Nat} {slot : Option Int}
    (hi : slots[i]? = some slot) (h : slots.length * t.width ≤ bytes.length) :
    ((laySlots t slots bytes).drop (i * t.width)).take t.width =
      slotOver t slot ((bytes.drop (i * t.width)).take t.width) := by
  obtain ⟨hlt, hslot⟩ := List.getElem?_eq_some_iff.mp hi
  have hroom : (i + 1) * t.width ≤ slots.length * t.width := Nat.mul_le_mul_right _ hlt
  rw [Nat.succ_mul] at hroom
  have hlength : (slotOver t slot ((bytes.drop (i * t.width)).take t.width)).length = t.width :=
    length_slotOver slot _ (by rw [List.length_drop]; omega)
  rw [drop_laySlots hlt.le h, List.drop_eq_getElem_cons hlt, hslot, laySlots_cons, List.take_left' hlength]

/-! ## The region under an array -/

section Flush

variable {a : SlotArray Int}

theorem laySlots_fits (hslots : a.capacity = slotCount t r) :
    a.slots.length * t.width ≤ (r.bytes.drop (padding t r)).length := by
  have hcount := slotCount_mul_le t r
  rw [← hslots] at hcount
  exact hcount

theorem size_flush (hslots : a.capacity = slotCount t r) : (flush t a r).size = r.size := by
  simp only [flush, size, List.length_append, length_laySlots (laySlots_fits hslots)]
  rw [← List.length_append, List.take_append_drop]

/-- Before the first slot nothing changes. -/
theorem take_padding_flush (hpad : padding t r ≤ r.size) :
    (flush t a r).bytes.take (padding t r) = r.bytes.take (padding t r) := by
  have hlength : (r.bytes.take (padding t r)).length = padding t r := List.length_take_of_le hpad
  simp only [flush]
  rw [List.take_left' hlength]

theorem drop_padding_flush (hpad : padding t r ≤ r.size) :
    (flush t a r).bytes.drop (padding t r) = laySlots t a.slots (r.bytes.drop (padding t r)) := by
  have hlength : (r.bytes.take (padding t r)).length = padding t r := List.length_take_of_le hpad
  simp only [flush]
  rw [List.drop_left' hlength]

/-- Behind the last slot nothing changes. -/
theorem drop_slots_flush (hslots : a.capacity = slotCount t r) (hpad : padding t r ≤ r.size) :
    (flush t a r).bytes.drop (padding t r + slotCount t r * t.width) =
      r.bytes.drop (padding t r + slotCount t r * t.width) := by
  have hall : a.slots.drop (slotCount t r) = [] := List.drop_eq_nil_of_le hslots.le
  rw [← List.drop_drop, drop_padding_flush hpad, drop_laySlots hslots.ge (laySlots_fits hslots), hall,
    laySlots, List.drop_drop]

theorem slotBytes_flush (hslots : a.capacity = slotCount t r) {i : Nat} {slot : Option Int}
    (hi : a.slots[i]? = some slot) :
    slotBytes t (flush t a r) i = slotOver t slot (slotBytes t r i) := by
  obtain ⟨hlt, -⟩ := List.getElem?_eq_some_iff.mp hi
  have hpad : padding t r ≤ r.size := padding_le_size (by rw [← hslots]; exact (Nat.zero_le i).trans_lt hlt)
  change ((flush t a r).bytes.drop (padding t r + i * t.width)).take t.width = _
  rw [← List.drop_drop, drop_padding_flush hpad, take_drop_laySlots hi (laySlots_fits hslots), slotBytes,
    List.drop_drop]

example : (flush .i16 ⟨[some (-2), none], 1⟩ ⟨[1, 2, 3, 4, 5, 6], 7⟩).bytes = [1, 254, 255, 4, 5, 6] := by
  decide

theorem laySlots_unwritten (count : Nat) (bytes : List UInt8) :
    laySlots t (List.replicate count none) bytes = bytes := by
  induction count generalizing bytes with
  | zero => rfl
  | succ count ih => rw [List.replicate_succ, laySlots, ih, List.take_append_drop]

/-- Binding writes nothing. -/
theorem flush_empty (count : Nat) : flush t (.empty count) r = r := by
  simp only [flush, SlotArray.empty, laySlots_unwritten, List.take_append_drop]

end Flush

/-! ## Slots that hold what lies in memory -/

/-- The values of the bytes under so many slots. -/
def readSlots (t : IntType) : Nat → List UInt8 → List (Option Int)
  | 0, _ => []
  | count + 1, bytes => some (t.decode (bytes.take t.width)) :: readSlots t count (bytes.drop t.width)

/-- The slots that a region has room for, as they lie in memory. -/
def memory (t : IntType) (r : Region) : List (Option Int) :=
  readSlots t (slotCount t r) (r.bytes.drop (padding t r))

/-- The empty array over a region whose slots hold what lies in memory. -/
def inPlace (t : IntType) (r : Region) : SlotArray Int := ⟨memory t r, 0⟩

theorem length_readSlots (count : Nat) (bytes : List UInt8) : (readSlots t count bytes).length = count := by
  induction count generalizing bytes with
  | zero => rfl
  | succ count ih => rw [readSlots, List.length_cons, ih]

theorem length_memory : (memory t r).length = slotCount t r := length_readSlots _ _

theorem inPlace_eq (t : IntType) (r : Region) :
    inPlace t r = (SlotArray.empty (slotCount t r)).overlaid (memory t r) := by
  have hnone := SlotArray.overlay_none (memory t r)
  rw [length_memory] at hnone
  rw [inPlace, SlotArray.overlaid, SlotArray.empty, hnone]

/-- A slot that holds the value of its bytes leaves them as they are. -/
theorem laySlots_overlay (slots : List (Option Int)) (bytes : List UInt8)
    (h : slots.length * t.width ≤ bytes.length) :
    laySlots t (SlotArray.overlay (readSlots t slots.length bytes) slots) bytes =
      laySlots t slots bytes := by
  induction slots generalizing bytes with
  | nil => rfl
  | cons slot slots ih =>
    rw [List.length_cons, Nat.succ_mul] at h
    have hrest := ih (bytes.drop t.width) (by rw [List.length_drop]; omega)
    have hread : t.encode (t.decode (bytes.take t.width)) = bytes.take t.width :=
      t.encode_decode (List.length_take_of_le (by omega))
    rw [SlotArray.overlay] at hrest
    rw [List.length_cons, readSlots, SlotArray.overlay, List.zipWith_cons_cons, laySlots_cons, laySlots_cons,
      hrest]
    cases slot with
    | some n => rfl
    | none => exact congrArg (· ++ _) hread

theorem flush_overlaid {a : SlotArray Int} (hslots : a.capacity = slotCount t r) :
    flush t (a.overlaid (memory t r)) r = flush t a r := by
  have hsame := laySlots_overlay a.slots _ (laySlots_fits hslots)
  change laySlots t (SlotArray.overlay (readSlots t a.capacity _) _) _ = _ at hsame
  rw [hslots] at hsame
  simp only [flush, SlotArray.overlaid, memory, hsame]

/-! ## Runs -/

/-- The region after calls on an array over it. -/
def afterCalls (t : IntType) (r : Region) (a : SlotArray Int) (actions : List (Action Int)) : Region :=
  flush t (Call.final (actions.map Action.run) a) r

/-- What calls do to the region `r` when they are made on the array `a` over it. -/
structure Framed (t : IntType) (r : Region) (a : SlotArray Int) (actions : List (Action Int)) : Prop where
  placed : (afterCalls t r a actions).size = r.size ∧ (afterCalls t r a actions).address = r.address
  /-- Each element lies in its slot: at each place its digit to the base 256, which rounding down makes
  the digit of the two's complement. -/
  elements : ∀ i < (Call.final (actions.map Action.run) a).len,
    let bytes := slotBytes t (afterCalls t r a actions) i
    ∃ n, (Call.final (actions.map Action.run) a).toList[i]? = some n ∧ t.Holds n ∧
      bytes.length = t.width ∧
      (∀ k < t.width, bytes[k]? = some (UInt8.ofNat (n / 256 ^ k % 256).toNat)) ∧ t.decode bytes = n
  /-- A slot that the elements never reached is as it was. -/
  untouched : ∀ i < slotCount t r,
    (∀ report ∈ Call.history (actions.map Action.run) a, report.state.len ≤ i) →
    slotBytes t (afterCalls t r a actions) i = slotBytes t r i
  before : (afterCalls t r a actions).bytes.take (padding t r) = r.bytes.take (padding t r)
  behind : (afterCalls t r a actions).bytes.drop (padding t r + slotCount t r * t.width) =
    r.bytes.drop (padding t r + slotCount t r * t.width)
  /-- Over other bytes, with the slots as they lie in memory, a caller sees the same. -/
  blind : ∀ other : Region, other.size = r.size → other.address = r.address →
    (Call.history (actions.map Action.run) (inPlace t other)).map (Report.on SlotArray.seen) =
      (Call.history (actions.map Action.run) a).map (Report.on SlotArray.seen)
  /-- With the slots as they lie in memory, the calls leave the same bytes. -/
  faithful : afterCalls t r (inPlace t r) actions = afterCalls t r a actions

theorem slotCount_le (t : IntType) (r : Region) : slotCount t r ≤ r.size :=
  (Nat.div_le_self _ _).trans (Nat.sub_le _ _)

theorem bound_sound (hsize : r.size < wordLimit) : Sound (.empty (slotCount t r) : SlotArray Int) := by
  have hcount := slotCount_le t r
  rw [empty_eq_laid]
  exact sound_laid _ _ (by rw [List.length_nil, List.length_replicate]; omega)

theorem framed (hsize : r.size < wordLimit) (hslots : 0 < slotCount t r) {actions : List (Action Int)}
    (htyped : ∀ action ∈ actions, action.Brings t.Holds) :
    Framed t r (.empty (slotCount t r)) actions := by
  have hsound : Sound (.empty (slotCount t r) : SlotArray Int) := bound_sound hsize
  have hcapacity : (SlotArray.empty (slotCount t r) : SlotArray Int).capacity = slotCount t r := by
    rw [SlotArray.capacity, SlotArray.empty, List.length_replicate]
  have hmemory := length_memory.trans hcapacity.symm
  obtain ⟨hfinal, hsame⟩ := SlotArray.final_sound hsound actions
  have hlaid := hsame.trans hcapacity
  have hpad := padding_le_size hslots
  constructor
  case placed => exact ⟨size_flush hlaid, rfl⟩
  case elements =>
    intro i hi bytes
    obtain ⟨n, helement, hslot⟩ := SlotArray.exists_element hfinal hi
    have hholds : t.Holds n :=
      SlotArray.final_brings hsound htyped (by simp [SlotArray.toList, SlotArray.empty]) n
        (List.mem_of_getElem? helement)
    have hbytes : bytes = t.encode n := slotBytes_flush hlaid hslot
    rw [hbytes]
    exact ⟨n, helement, hholds, t.length_encode n, fun k hk => t.getElem?_encode n hk, t.decode_encode hholds⟩
  case untouched =>
    intro i hi hlens
    have hfree := SlotArray.final_behind hsound actions (Nat.zero_le i) hlens
    have hnone : (SlotArray.empty (slotCount t r) : SlotArray Int).slots[i]? = some none := by
      rw [SlotArray.empty, List.getElem?_replicate, if_pos hi]
    exact slotBytes_flush hlaid (hfree.trans hnone)
  case before => exact take_padding_flush hpad
  case behind => exact drop_slots_flush hlaid hpad
  case blind =>
    intro other hsizes haddress
    have hpadding : padding t other = padding t r := by rw [padding, padding, haddress]
    have hcount : slotCount t other = slotCount t r := by rw [slotCount, slotCount, hpadding, hsizes]
    rw [inPlace_eq, hcount]
    exact SlotArray.history_overlaid hsound (length_memory.trans (hcount.trans hcapacity.symm)) actions
  case faithful =>
    rw [afterCalls, afterCalls, inPlace_eq, SlotArray.final_overlaid hsound hmemory, flush_overlaid hlaid]

/-- What binding an array of integers to a region comes to. -/
structure Binds (t : IntType) (r : Region) : Prop where
  /-- The padding leads to the first address that is aligned. -/
  aligned : (r.address + padding t r) % t.width = 0
  first : ∀ skip, (r.address + skip) % t.width = 0 → padding t r ≤ skip
  kept : ((r.bindArray t : Call Region Int (SlotArray Int)) r).state = r
  refused : (r.size - padding t r) / t.width = 0 →
    ((r.bindArray t : Call Region Int (SlotArray Int)) r).outcome = .error .invalidArgument
  bound : 0 < (r.size - padding t r) / t.width →
    ∃ a, ((r.bindArray t : Call Region Int (SlotArray Int)) r).outcome = .value a ∧ a.len = 0 ∧
      a.capacity = (r.size - padding t r) / t.width ∧ flush t a r = r ∧
      ∀ actions : List (Action Int), (∀ action ∈ actions, action.Brings t.Holds) → Framed t r a actions

/-- An array of integers binds to the whole elements behind the padding, and all that its calls ever
change are the bytes of slots that elements have reached. -/
theorem bound_array_frames_region (t : IntType) (r : Region) (hwidth : 0 < t.width)
    (hsize : r.size < wordLimit) : Binds t r := by
  constructor
  case aligned => exact padding_aligned hwidth
  case first => exact fun skip hskip => padding_le hskip
  case kept =>
    rw [bindArray_apply]
    split <;> rfl
  case refused =>
    intro hnone
    rw [bindArray_apply, slotCount, if_pos hnone]
  case bound =>
    intro hsome
    refine ⟨.empty (slotCount t r), ?_, rfl, ?_, flush_empty _, ?_⟩
    · rw [bindArray_apply, if_neg (show slotCount t r ≠ 0 from hsome.ne')]
    · rw [SlotArray.capacity, SlotArray.empty, List.length_replicate, slotCount]
    · exact fun actions htyped => framed hsize hsome htyped

/-- One byte of padding, two slots of signed 16-bit integers and one byte left over; both slots are
filled, one of them with a negative integer. -/
theorem bound_array_frames_region_of_six :
    let r : Region := ⟨[1, 2, 3, 4, 5, 6], 7⟩
    let actions : List (Action Int) := [.pushBack (-2), .insert 0 [300]]
    0 < IntType.i16.width ∧ r.size < wordLimit ∧ (∀ action ∈ actions, action.Brings IntType.i16.Holds) ∧
      ∃ a, ((r.bindArray .i16 : Call Region Int (SlotArray Int)) r).outcome = .value a ∧
        a.capacity = 2 ∧ Framed .i16 r a actions := by
  intro r actions
  have htyped : ∀ action ∈ actions, action.Brings IntType.i16.Holds := by
    simp [actions, Action.Brings, IntType.Holds, IntType.i16, IntType.modulus]
  obtain ⟨a, ha, -, hcapacity, -, hcalls⟩ :=
    (bound_array_frames_region .i16 r (by decide) (by decide)).bound (by decide)
  exact ⟨by decide, by decide, htyped, a, ha, hcapacity.trans (by decide), hcalls actions htyped⟩

end FixedCapacity.Region
