/-
  FixedCapacity.Proofs.ByteString.Split — splitting a string undoes joining its pieces.

  A `Cutting` names the pieces of some bytes, each with the separator that ended it, and the
  rest behind the last separator, which is a piece only if there is anything. `joined` writes all of it
  down again. Clean cuttings are those whose separators are exactly the bytes that separate;
  `cut` finds the one of given bytes (`joined_cut`, `clean_cut`), and finds back any that was written
  down (`cut_joined`), so there is no other.

  `split` cuts and stores in one loop, and holds positions, not pieces. While the content is written
  `done ++ held ++ rest`, `start` and `index` are the lengths of `done` and `done ++ held`, so that the
  slice between them is there and is `held`. The loop comes to the same as cutting first and then
  appending one piece after another (`splitFrom_eq`, `split_eq`), and appending stops at the first
  piece that is too long or finds no slot (`pushAll_laid`).
-/

import FixedCapacity.ByteString.Split
import FixedCapacity.Proofs.ByteString.Create
import FixedCapacity.Proofs.SlotArray.Insert

namespace FixedCapacity.ByteString

open Call (wordLimit)
open SlotArray (laid)

/-! ## Cuttings -/

/-- Where bytes are cut: the pieces that a separator ended, each with that separator, and what is behind
the last one. -/
structure Cutting where
  ended : List (List UInt8 × UInt8)
  rest : List UInt8
  deriving DecidableEq, Repr

namespace Cutting

/-- The cutting with one more piece in front. -/
def behind (c : Cutting) (piece : List UInt8) (b : UInt8) : Cutting := ⟨(piece, b) :: c.ended, c.rest⟩

/-- What is behind the last separator is a piece only if there is anything. -/
def pieces (c : Cutting) : List (List UInt8) :=
  c.ended.map Prod.fst ++ if c.rest = [] then [] else [c.rest]

/-- Every piece and the separator that ended it, written one after another. -/
def joined (c : Cutting) : List UInt8 := c.ended.flatMap (fun (piece, b) => piece ++ [b]) ++ c.rest

/-- No piece holds a separator, and every piece but the rest was ended by one. -/
structure Clean (c : Cutting) (separators : List UInt8) : Prop where
  pieces : ∀ piece ∈ c.pieces, ∀ b ∈ piece, b ∉ separators
  ended : ∀ piece b, (piece, b) ∈ c.ended → b ∈ separators

variable {c : Cutting} {piece rest separators : List UInt8} {b : UInt8}

@[simp] theorem pieces_behind : (c.behind piece b).pieces = piece :: c.pieces := rfl

@[simp] theorem joined_behind : (c.behind piece b).joined = piece ++ b :: c.joined := by simp [joined, behind]

@[simp] theorem joined_rest : (⟨[], rest⟩ : Cutting).joined = rest := rfl

theorem clean_rest : (⟨[], rest⟩ : Cutting).Clean separators ↔ ∀ b ∈ rest, b ∉ separators := by
  constructor
  · intro h b hb
    have hne : rest ≠ [] := List.ne_nil_of_mem hb
    exact h.pieces rest (by simp [Cutting.pieces, hne]) b hb
  · intro h
    refine ⟨fun piece hpiece b hb => ?_, nofun⟩
    by_cases hnil : rest = []
    · simp [Cutting.pieces, hnil] at hpiece
    · obtain rfl : piece = rest := by simpa [Cutting.pieces, hnil] using hpiece
      exact h b hb

theorem clean_behind : (c.behind piece b).Clean separators ↔
    (∀ b ∈ piece, b ∉ separators) ∧ b ∈ separators ∧ c.Clean separators := by
  constructor
  · intro h
    have hpieces := h.pieces
    rw [pieces_behind] at hpieces
    exact ⟨hpieces piece (.head _), h.ended piece b (.head _), fun p hp => hpieces p (.tail _ hp),
      fun p b hp => h.ended p b (.tail _ hp)⟩
  · rintro ⟨hpiece, hb, hclean⟩
    constructor
    · rw [pieces_behind]
      exact List.forall_mem_cons.mpr ⟨hpiece, hclean.pieces⟩
    · rintro p b (_ | ⟨_, hp⟩)
      · exact hb
      · exact hclean.ended p b hp

end Cutting

/-! ## Cutting -/

/-- The bytes that separate: the given one, or else the blanks of ASCII. -/
def separators : Option UInt8 → List UInt8
  | some d => [d]
  | none => [0x20, 0x09, 0x0A, 0x0C, 0x0D]

theorem separates_iff {delimiter : Option UInt8} {b : UInt8} :
    separates delimiter b = true ↔ b ∈ separators delimiter := by
  cases delimiter <;> simp [separates, separators, Text.isAsciiBlank, or_assoc]

/-- The cutting of bytes; `held` are those since the last separator. -/
def cut (delimiter : Option UInt8) (held : List UInt8) : List UInt8 → Cutting
  | [] => ⟨[], held⟩
  | b :: rest =>
    if separates delimiter b then (cut delimiter [] rest).behind held b
    else cut delimiter (held ++ [b]) rest

section Cut

variable {delimiter : Option UInt8} {held : List UInt8}

theorem joined_cut (delimiter : Option UInt8) (held bytes : List UInt8) :
    (cut delimiter held bytes).joined = held ++ bytes := by
  induction bytes generalizing held with
  | nil => simp [cut]
  | cons b rest ih =>
    rw [cut]
    split
    · simp [ih]
    · simp [ih]

theorem clean_cut (hheld : ∀ b ∈ held, b ∉ separators delimiter) (bytes : List UInt8) :
    (cut delimiter held bytes).Clean (separators delimiter) := by
  induction bytes generalizing held with
  | nil => exact Cutting.clean_rest.mpr hheld
  | cons b rest ih =>
    rw [cut]
    split
    case isTrue hb => exact Cutting.clean_behind.mpr ⟨hheld, separates_iff.mp hb, ih (List.forall_mem_nil _)⟩
    case isFalse hb =>
      rw [separates_iff] at hb
      refine ih fun c hc => ?_
      obtain hc | rfl : c ∈ held ∨ c = b := by simpa using hc
      · exact hheld c hc
      · exact hb

/-- Bytes that do not separate are held. -/
theorem cut_append {piece : List UInt8} (hpiece : ∀ b ∈ piece, b ∉ separators delimiter)
    (held bytes : List UInt8) : cut delimiter held (piece ++ bytes) = cut delimiter (held ++ piece) bytes := by
  induction piece generalizing held with
  | nil => simp
  | cons b piece ih =>
    obtain ⟨hb, hrest⟩ := List.forall_mem_cons.mp hpiece
    rw [List.cons_append, cut, if_neg (separates_iff.not.mpr hb), ih hrest, List.append_assoc,
      List.singleton_append]

/-- Cutting finds back what was joined. -/
theorem cut_joined {c : Cutting} (h : c.Clean (separators delimiter)) : cut delimiter [] c.joined = c := by
  obtain ⟨ended, rest⟩ := c
  induction ended with
  | nil =>
    have hcut := cut_append (Cutting.clean_rest.mp h) [] []
    rwa [List.append_nil] at hcut
  | cons first ended ih =>
    obtain ⟨piece, b⟩ := first
    change ((⟨ended, rest⟩ : Cutting).behind piece b).Clean _ at h
    change cut delimiter [] ((⟨ended, rest⟩ : Cutting).behind piece b).joined = _
    obtain ⟨hpiece, hb, hclean⟩ := Cutting.clean_behind.mp h
    rw [Cutting.joined_behind, cut_append hpiece, cut, if_pos (separates_iff.mpr hb), ih hclean]
    rfl

end Cut

/-! ## Storing the pieces -/

/-- A string that holds a piece, as the array gets it. -/
def stored (capacity : Nat) (piece : List UInt8) : ByteString :=
  closed piece (List.replicate (capacity - piece.length) 0)

/-- Appends pieces, one after another. -/
def pushAll (capacity : Nat) : List (List UInt8) → SlotArray.Op ByteString Unit
  | [] => pure ()
  | piece :: rest => do
    pushPiece capacity piece
    pushAll capacity rest

theorem slice_held (done held rest : List UInt8) :
    (Call.slice (done ++ held ++ rest) done.length (done ++ held).length : SlotArray.Op ByteString (List UInt8)) =
      pure held := by
  have hstop : (done ++ held).length ≤ (done ++ held ++ rest).length := by simp
  rw [Call.slice_of_le (by simp) hstop, List.append_assoc, List.drop_left, List.length_append,
    Nat.add_sub_cancel_left, List.take_left]

theorem pushRest_eq (capacity : Nat) (done held : List UInt8) :
    pushRest capacity (done ++ held) done.length = pushAll capacity (⟨[], held⟩ : Cutting).pieces := by
  have hslice := slice_held done held []
  rw [List.append_nil] at hslice
  cases held with
  | nil => simp [pushRest, Cutting.pieces, pushAll]
  | cons b held =>
    change _ = (pushPiece capacity (b :: held) >>= fun _ => pure ())
    rw [pushRest, if_pos (by simp), hslice, pure_bind, bind_pure_unit]

/-- Cutting and storing in one loop comes to cutting first. -/
theorem splitFrom_eq (capacity : Nat) (delimiter : Option UInt8) (done held rest : List UInt8)
    (hw : (done ++ held ++ rest).length < wordLimit) :
    (splitFrom capacity delimiter (done ++ held ++ rest) done.length (done ++ held).length rest >>=
        pushRest capacity (done ++ held ++ rest)) =
      pushAll capacity (cut delimiter held rest).pieces := by
  induction rest generalizing done held with
  | nil => rw [splitFrom, pure_bind, List.append_nil, pushRest_eq, cut]
  | cons b rest ih =>
    have hbytes : done ++ held ++ b :: rest = done ++ held ++ [b] ++ rest := by simp
    have hnext : (done ++ held).length + 1 = (done ++ held ++ [b]).length := by simp [Nat.add_assoc]
    rw [splitFrom, cut]
    split
    case isTrue =>
      have hword : (done ++ held).length + 1 < wordLimit := by
        rw [List.length_append, List.length_cons] at hw
        omega
      have hrest := ih (done ++ held ++ [b]) [] (by rwa [List.append_nil, ← hbytes])
      rw [List.append_nil, ← hbytes, ← hnext] at hrest
      simp only [slice_held, pure_bind, Call.add_of_lt hword, bind_assoc]
      rw [Cutting.pieces_behind, pushAll, ← hrest]
      rfl
    case isFalse =>
      have hrest := ih done (held ++ [b]) (by rwa [← List.append_assoc, ← hbytes])
      rwa [← List.append_assoc, ← hbytes, ← hnext] at hrest

/-- Splitting empties the array and appends the pieces of the content, one after another. -/
theorem split_eq {s : ByteString} (hs : Sound s) (capacity : Nat) (delimiter : Option UInt8) :
    split s capacity delimiter =
      SlotArray.clear >>= fun _ => pushAll capacity (cut delimiter [] s.content).pieces := by
  have hword : s.content.length < wordLimit := by
    rw [length_content hs]
    exact Nat.lt_trans hs.fits hs.addressable
  rw [← splitFrom_eq capacity delimiter [] [] s.content hword, split, bytes_eq hs]
  rfl

theorem pushPiece_laid (capacity : Nat) (piece : List UInt8) (xs : List ByteString)
    (free : List (Option ByteString)) (hw : xs.length + free.length < wordLimit) :
    pushPiece capacity piece (laid xs free) =
      if capacity < piece.length then ⟨.error .noMemory, laid xs free, [], []⟩
      else if free = [] then
        ⟨.error .noMemory, laid xs free, [.alert (.arrayFull xs.length)], [.dropped (stored capacity piece)]⟩
      else ⟨.value (), laid (xs ++ [stored capacity piece]) free.tail, [], [.handed (stored capacity piece)]⟩ := by
  rw [pushPiece, Call.bind_apply, ofBytes_apply]
  by_cases hlong : capacity < piece.length
  · rw [if_pos hlong, if_pos hlong, Report.andThen_error]
  · rw [if_neg hlong, if_neg hlong, Report.andThen_value, SlotArray.pushBack_laid _ xs free hw, Report.after_nil]
    rfl

/-- Whether pieces can all be stored. -/
def Fits (capacity room : Nat) (pieces : List (List UInt8)) : Prop :=
  pieces.length ≤ room ∧ ∀ piece ∈ pieces, piece.length ≤ capacity

instance (capacity room : Nat) (pieces : List (List UInt8)) : Decidable (Fits capacity room pieces) :=
  inferInstanceAs (Decidable (_ ∧ _))

/-- The pieces that are stored: those in front of the first one that is too long, as far as there is room. -/
def kept (capacity room : Nat) (pieces : List (List UInt8)) : List (List UInt8) :=
  (pieces.takeWhile fun piece => piece.length ≤ capacity).take room

section Kept

variable {capacity room : Nat} {piece : List UInt8} {pieces : List (List UInt8)}

theorem kept_of_fits (h : Fits capacity room pieces) : kept capacity room pieces = pieces := by
  obtain ⟨hroom, hshort⟩ := h
  rw [kept, List.takeWhile_eq_self_iff.mpr (by simpa using hshort), List.take_of_length_le hroom]

theorem fits_cons (h : piece.length ≤ capacity) :
    Fits capacity (room + 1) (piece :: pieces) ↔ Fits capacity room pieces := by
  simp [Fits, h]

theorem kept_cons (h : piece.length ≤ capacity) :
    kept capacity (room + 1) (piece :: pieces) = piece :: kept capacity room pieces := by
  simp [kept, h]

theorem kept_long (h : capacity < piece.length) : kept capacity room (piece :: pieces) = [] := by
  simp [kept, Nat.not_le.mpr h]

end Kept

/-- Appending piece after piece stops at the first one that cannot be stored. -/
theorem pushAll_laid (capacity : Nat) (pieces : List (List UInt8)) (xs : List ByteString)
    (free : List (Option ByteString)) (hw : xs.length + free.length < wordLimit) :
    let r := pushAll capacity pieces (laid xs free)
    let pushed := (kept capacity free.length pieces).map (stored capacity)
    (Fits capacity free.length pieces → r.outcome = .value ()) ∧
      (¬ Fits capacity free.length pieces → r.outcome = .error .noMemory) ∧
      r.state = laid (xs ++ pushed) (free.drop pushed.length) := by
  induction pieces generalizing xs free with
  | nil => simp [pushAll, Fits, kept]
  | cons piece pieces ih =>
    simp only [pushAll, Call.bind_apply, pushPiece_laid capacity piece xs free hw]
    by_cases hlong : capacity < piece.length
    · have hno : ¬ Fits capacity free.length (piece :: pieces) := fun h =>
        Nat.not_le.mpr hlong (h.2 piece (.head _))
      simp [hlong, hno, kept_long]
    · rw [if_neg hlong]
      cases free with
      | nil =>
        have hno : ¬ Fits capacity 0 (piece :: pieces) := fun h => Nat.not_succ_le_zero _ h.1
        simp [hno, kept]
      | cons slot free =>
        obtain ⟨hfits, hnot, hstate⟩ := ih (xs ++ [stored capacity piece]) free (by simp at hw ⊢; omega)
        simp only [List.length_cons, fits_cons (Nat.not_lt.mp hlong), kept_cons (Nat.not_lt.mp hlong)]
        simp only [reduceCtorEq, if_false, List.tail_cons, Report.andThen_value, Report.outcome_after,
          Report.state_after]
        refine ⟨hfits, hnot, ?_⟩
        simpa using hstate

/-! ## Splitting -/

/-- What splitting a string into an array leaves, for a cutting of its content. -/
structure Splits (s : ByteString) (delimiter : Option UInt8) (capacity : Nat) (list : SlotArray ByteString)
    (c : Cutting) : Prop where
  returns : (split s capacity delimiter list).outcome = .value () ↔ Fits capacity list.capacity c.pieces
  whole : Fits capacity list.capacity c.pieces →
    (split s capacity delimiter list).state.toList.map content = c.pieces
  short : ¬ Fits capacity list.capacity c.pieces →
    (split s capacity delimiter list).outcome = .error .noMemory ∧
      (split s capacity delimiter list).state.toList.map content = kept capacity list.capacity c.pieces
  /-- Every piece is stored with the same capacity. -/
  alike : ∀ piece ∈ (split s capacity delimiter list).state.toList, piece.capacity = capacity

theorem content_stored {capacity : Nat} (pieces : List (List UInt8)) :
    (pieces.map (stored capacity)).map content = pieces := by
  simp [stored, Function.comp_def]

theorem capacity_stored {capacity room : Nat} {pieces : List (List UInt8)} :
    ∀ s ∈ (kept capacity room pieces).map (stored capacity), s.capacity = capacity := by
  intro s hs
  obtain ⟨piece, hpiece, rfl⟩ := List.mem_map.mp hs
  have hshort := List.mem_takeWhile_imp (List.mem_of_mem_take hpiece)
  have hle : piece.length ≤ capacity := by simpa using hshort
  rw [stored, capacity_closed, List.length_replicate, Nat.add_sub_cancel' hle]

/-- The elements the array had are destroyed, so all of it is room. -/
theorem split_laid {s : ByteString} (hs : Sound s) (delimiter : Option UInt8) (capacity : Nat)
    (xs : List ByteString) (free : List (Option ByteString)) (hw : xs.length + free.length < wordLimit) :
    Splits s delimiter capacity (laid xs free) (cut delimiter [] s.content) := by
  have hroom : (xs.map some ++ free).length = (laid xs free).capacity := by simp
  have hrun : split s capacity delimiter (laid xs free) =
      (pushAll capacity (cut delimiter [] s.content).pieces (laid [] (xs.map some ++ free))).after []
        (xs.reverse.map .dropped) := by
    rw [split_eq hs, Call.bind_apply, SlotArray.clear_laid, Report.andThen_value]
  obtain ⟨hfits, hnot, hstate⟩ := pushAll_laid capacity (cut delimiter [] s.content).pieces []
    (xs.map some ++ free) (by simpa using hw)
  rw [hroom] at hfits hnot hstate
  rw [List.nil_append] at hstate
  constructor
  case returns =>
    rw [hrun, Report.outcome_after]
    refine ⟨fun hvalue => ?_, hfits⟩
    by_contra h
    rw [hnot h] at hvalue
    cases hvalue
  case whole =>
    intro h
    rw [hrun, Report.state_after, hstate, SlotArray.toList_laid, content_stored, kept_of_fits h]
  case short =>
    intro h
    rw [hrun, Report.outcome_after, Report.state_after, hstate, SlotArray.toList_laid, content_stored]
    exact ⟨hnot h, rfl⟩
  case alike =>
    rw [hrun, Report.state_after, hstate, SlotArray.toList_laid]
    exact capacity_stored

/-- The content of a string is cut in exactly one way. Splitting the string, which it only reads, puts the
pieces into the array if there is room for all of them and none is too long. Otherwise it ends for lack of
memory, with those in front of the first that was too long or found no room. -/
theorem split_undoes_joining {s : ByteString} (hs : Sound s) (delimiter : Option UInt8) (capacity : Nat)
    {list : SlotArray ByteString} (hlist : list.Sound) :
    (∃! c : Cutting, c.Clean (separators delimiter) ∧ c.joined = s.content) ∧
      ∀ c : Cutting, c.Clean (separators delimiter) → c.joined = s.content →
        Splits s delimiter capacity list c := by
  constructor
  · refine ⟨cut delimiter [] s.content, ⟨clean_cut (List.forall_mem_nil _) _, joined_cut delimiter [] _⟩, ?_⟩
    rintro c ⟨hclean, hjoined⟩
    rw [← hjoined, cut_joined hclean]
  · intro c hclean hjoined
    obtain ⟨xs, free, rfl, hw⟩ := SlotArray.sound_iff.mp hlist
    rw [← cut_joined hclean, hjoined]
    exact split_laid hs delimiter capacity xs free hw

/-- Four pieces: one in front of the first separator and one between two are empty, and the last separator
has none behind it. They go into an array of four strings, and into one of three as far as it goes. -/
theorem split_undoes_joining_of_four :
    let source := closed [0x2C, 0x61, 0x2C, 0x2C, 0x62, 0x63, 0x2C] []
    let c : Cutting := ⟨[([], 0x2C), ([0x61], 0x2C), ([], 0x2C), ([0x62, 0x63], 0x2C)], []⟩
    let wide := SlotArray.ofFull (List.replicate 4 (empty 2))
    let narrow := SlotArray.ofFull (List.replicate 3 (empty 2))
    Sound source ∧ c.Clean (separators (some 0x2C)) ∧ c.joined = source.content ∧ wide.Sound ∧ narrow.Sound ∧
      (split source 2 (some 0x2C) wide).outcome = .value () ∧
      (split source 2 (some 0x2C) wide).state.toList.map content = [[], [0x61], [], [0x62, 0x63]] ∧
      (split source 2 (some 0x2C) narrow).outcome = .error .noMemory ∧
      (split source 2 (some 0x2C) narrow).state.toList.map content = [[], [0x61], []] := by
  intro source c wide narrow
  have hc : c = cut (some 0x2C) [] source.content := by decide
  have hclean : c.Clean (separators (some 0x2C)) := by
    rw [hc]
    exact clean_cut (List.forall_mem_nil _) _
  have hjoined : c.joined = source.content := by decide
  have hsource : Sound source := sound_closed _ _ (by decide)
  have hwide : wide.Sound := SlotArray.sound_ofFull _ (by decide)
  have hnarrow : narrow.Sound := SlotArray.sound_ofFull _ (by decide)
  have hsplit := (split_undoes_joining hsource (some 0x2C) 2 hwide).2 c hclean hjoined
  have hcut := (split_undoes_joining hsource (some 0x2C) 2 hnarrow).2 c hclean hjoined
  have hfits : Fits 2 wide.capacity c.pieces := by decide
  have hnot : ¬ Fits 2 narrow.capacity c.pieces := by decide
  exact ⟨hsource, hclean, hjoined, hwide, hnarrow, hsplit.returns.mpr hfits, hsplit.whole hfits, hcut.short hnot⟩

end FixedCapacity.ByteString
