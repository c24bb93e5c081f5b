/-
  FixedCapacity.Proofs.ByteString.Hidden — what lies behind the NUL never shows.

  Two strings are `Twins` when their capacities and their contents are the same. Their
  storages may lie in different places and hold anything behind the NUL: bytes that were
  removed, bytes that a view found there. A `Use` is a call on a string or a `Look` at it,
  the looks that fill a container of the caller included, and `view` is what a caller can
  see of the string itself. Twins answer every use alike and stay twins
  (`Use.run_twins`), so no sequence of uses tells them apart (`hidden_bytes_never_show`).
  A copy is a twin of what it was copied from (`cloneAllocated_twins`).
-/

import FixedCapacity.Proofs.ByteString.Create
import FixedCapacity.Proofs.ByteString.Terminator
import FixedCapacity.ByteString.Number
import FixedCapacity.ByteString.Split

namespace FixedCapacity.ByteString

open Call (wordLimit)

/-! ## What a caller sees -/

/-- All that a caller can see of a string. -/
structure View where
  content : List UInt8
  len : Nat
  capacity : Nat
  isEmpty : Bool
  isFull : Bool
  cString : List UInt8
  deriving DecidableEq, Repr

def view (s : ByteString) : View := ⟨s.content, s.len, s.capacity, s.isEmpty, s.isFull, s.cString⟩

structure Twins (s t : ByteString) : Prop where
  capacity : s.capacity = t.capacity
  content : s.content = t.content

/-- A way to read a string that leaves it alone. Some fill a container that the caller brings. -/
inductive Look where
  | bytes
  | text
  | cString
  | display
  | debug
  | pieces
  | digest
  | equals (other : ByteString)
  | equalsBytes (bs : List UInt8)
  | toInteger (range : Text.IntRange)
  | insertInto (target : ByteString) (position : Nat)
  | split (capacity : Nat) (delimiter : Option UInt8) (list : SlotArray ByteString)
  | decodeHex (target : SlotArray UInt8)
  | search (engine : Engine) (pattern : String) (group : Nat) (matched : ByteString)
  | clone
  | cloneAllocated (allocator : Memory.Allocator)

/-- What a use answers with. -/
inductive Sight where
  | answer (a : Answer UInt8)
  | bytes (bs : List UInt8)
  | text (cs : Except Error.Kind (List Char))
  | shown (s : String)
  | pieces (ps : List (List Char))
  | digest (d : Nat × List UInt8)
  | equal (yes : Bool)
  | number (n : Except Error.Kind Int)
  | target (r : Report ByteString UInt8 Unit)
  | list (r : Report (SlotArray ByteString) ByteString Unit)
  | array (r : Report (SlotArray UInt8) UInt8 Unit)
  | copy (outcome : Outcome View) (trace : List Trace.Entry)

def Look.at : Look → ByteString → Sight
  | bytes, s => .bytes s.content
  | text, s => .text s.text?
  | cString, s => .bytes s.cString
  | display, s => .shown s.display
  | debug, s => .shown s.debug
  | pieces, s => .pieces s.pieces
  | digest, s => .digest s.digest
  | equals other, s => .equal (s == other)
  | equalsBytes bs, s => .equal (s.content == bs)
  | toInteger range, s => .number (s.toInteger range)
  | insertInto target position, s => .target (insert position s.content target)
  | split capacity delimiter list, s => .list (s.split capacity delimiter list)
  | decodeHex target, s => .array (s.decodeHex target)
  | search engine pattern group matched, s => .target (searchWith engine s pattern group matched)
  | clone, s => .copy (.value s.view) []
  | cloneAllocated allocator, s =>
    let r := (s.cloneAllocated allocator : Call Unit UInt8 ByteString) ()
    .copy (r.outcome.map view) r.trace

/-- A call on a string or a look at it. -/
inductive Use : Type 1 where
  | call (action : Action)
  | look (look : Look)

def Use.run : Use → Op Sight
  | call action => .answer <$> action.run
  | look l => do
    let s ← Call.get
    pure (l.at s)

/-! ## Twins -/

section Twins

variable {s t : ByteString}

theorem Twins.len (h : Twins s t) (hs : Sound s) (ht : Sound t) : s.len = t.len := by
  rw [← length_content hs, ← length_content ht, h.content]

theorem Twins.view (h : Twins s t) (hs : Sound s) (ht : Sound t) : s.view = t.view := by
  have hlen := h.len hs ht
  have hcString : s.cString = t.cString := by
    rw [(sound_terminated hs).cString, (sound_terminated ht).cString, h.content]
  simp only [ByteString.view, isEmpty, isFull, h.content, h.capacity, hlen, hcString]

/-- A copy starts over in fresh storage: all it takes from the original are capacity and content. -/
theorem cloneAllocated_congr {σ α : Type} (h : Twins s t) (allocator : Memory.Allocator) :
    (s.cloneAllocated allocator : Call σ α ByteString) = t.cloneAllocated allocator := by
  rw [cloneAllocated, cloneAllocated, h.capacity, h.content]

theorem look_twins (look : Look) (h : Twins s t) (hs : Sound s) (ht : Sound t) :
    look.at s = look.at t := by
  have hlen := h.len hs ht
  cases look with
  | bytes => exact congrArg Sight.bytes h.content
  | text => simp only [Look.at, text?, h.content]
  | cString => exact congrArg (fun v => Sight.bytes v.cString) (h.view hs ht)
  | display => simp only [Look.at, display, h.content]
  | debug => simp only [Look.at, debug, h.content]
  | pieces => simp only [Look.at, pieces, h.content]
  | digest => simp only [Look.at, digest, h.content, hlen]
  | equals other =>
    have hequal : (s == other) = (t == other) := congrArg (· == other.content) h.content
    exact congrArg Sight.equal hequal
  | equalsBytes bs => simp only [Look.at, h.content]
  | toInteger range => simp only [Look.at, toInteger, text?, h.content]
  | insertInto target position => simp only [Look.at, h.content]
  | split capacity delimiter list => simp only [Look.at, split, bytes_eq hs, bytes_eq ht, h.content]
  | decodeHex target => simp only [Look.at, decodeHex, bytes_eq hs, bytes_eq ht, h.content]
  | search engine pattern group matched => simp only [Look.at, searchWith, h.content]
  | clone => exact congrArg (fun v => Sight.copy (.value v) []) (h.view hs ht)
  | cloneAllocated allocator => simp only [Look.at, cloneAllocated_congr h allocator]

/-- Twins come out of a call alike, and are twins afterwards. -/
theorem Action.run_twins (action : Action) (h : Twins s t) (hs : Sound s) (ht : Sound t) :
    (action.run s).on ByteString.view = (action.run t).on ByteString.view ∧
      Sound (action.run s).state ∧ Sound (action.run t).state ∧
        Twins (action.run s).state (action.run t).state := by
  obtain ⟨hs', hcapacity, hcontent⟩ := run_sound action hs
  obtain ⟨ht', hcapacity', hcontent'⟩ := run_sound action ht
  have htwins : Twins (action.run s).state (action.run t).state := by
    refine ⟨?_, ?_⟩
    · rw [hcapacity, hcapacity', h.capacity]
    · rw [hcontent, hcontent', h.capacity, h.content]
  refine ⟨?_, hs', ht', htwins⟩
  -- Capacity and content decide all of the report but the state, and the states are twins.
  have hview := htwins.view hs' ht'
  rw [Action.run_eq action hs, Action.run_eq action ht, h.capacity, h.content] at hview ⊢
  exact congrArg (fun v => (⟨_, v, _, _⟩ : Report View UInt8 (Answer UInt8))) hview

theorem Use.run_twins (use : Use) (h : Twins s t) (hs : Sound s) (ht : Sound t) :
    (use.run s).on ByteString.view = (use.run t).on ByteString.view ∧
      Sound (use.run s).state ∧ Sound (use.run t).state ∧ Twins (use.run s).state (use.run t).state := by
  cases use with
  | call action =>
    obtain ⟨hsame, hrest⟩ := action.run_twins h hs ht
    have hcall (u : ByteString) : (Use.call action).run u = (Sight.answer <$> action.run) u := rfl
    rw [hcall, hcall, Call.map_apply, Call.map_apply]
    refine ⟨?_, hrest⟩
    exact congrArg (fun r : Report View UInt8 (Answer UInt8) =>
      (⟨r.outcome.map .answer, r.state, r.trace, r.ledger⟩ : Report View UInt8 Sight)) hsame
  | look l =>
    refine ⟨?_, hs, ht, h⟩
    have hlook (u : ByteString) : (Use.look l).run u = ⟨.value (l.at u), u, [], []⟩ := rfl
    rw [hlook, hlook, look_twins l h hs ht, Report.on_mk, Report.on_mk, h.view hs ht]

end Twins

/-! ## Runs -/

theorem history_twins (uses : List Use) {s t : ByteString} (h : Twins s t) (hs : Sound s) (ht : Sound t) :
    (Call.history (uses.map Use.run) s).map (Report.on view) =
      (Call.history (uses.map Use.run) t).map (Report.on view) := by
  induction uses generalizing s t with
  | nil => rfl
  | cons use uses ih =>
    obtain ⟨hsame, hs', ht', htwins⟩ := use.run_twins h hs ht
    have hrest := ih htwins hs' ht'
    exact congrArg₂ List.cons hsame hrest

theorem cloneAllocated_twins {s copy : ByteString} (hs : Sound s) {allocator : Memory.Allocator}
    (hcopy : ((s.cloneAllocated allocator : Call Unit UInt8 ByteString) ()).outcome = .value copy) :
    Sound copy ∧ Twins s copy := by
  obtain ⟨hsound, hcapacity⟩ := sound_copy hs
  rw [cloneAllocated_apply hs] at hcopy
  by_cases hgrant : allocator (s.capacity + 1)
  · rw [if_pos hgrant] at hcopy
    cases hcopy
    exact ⟨hsound, hcapacity.symm, (content_closed _ _).symm⟩
  · rw [if_neg hgrant] at hcopy
    cases hcopy

/-- Two strings with the same capacity and the same content answer every sequence of uses alike,
whatever lies behind their NULs; and a copy is such a string to its original. -/
theorem hidden_bytes_never_show {s t : ByteString} (hs : Sound s) (ht : Sound t) (h : Twins s t)
    (uses : List Use) :
    (Call.history (uses.map Use.run) s).map (Report.on view) =
        (Call.history (uses.map Use.run) t).map (Report.on view) ∧
      ∀ allocator copy, ((s.cloneAllocated allocator : Call Unit UInt8 ByteString) ()).outcome = .value copy →
        Sound copy ∧ Twins s copy :=
  ⟨history_twins uses h hs ht, fun _ _ hcopy => cloneAllocated_twins hs hcopy⟩

/-- Bytes left behind by a removal and bytes of zero: growing again, a C string, digits, a piece and a
text that does not fit. -/
theorem hidden_bytes_never_show_of_four :
    Sound (closed [55] [56, 57, 58]) ∧ Sound (closed [55] [0, 0, 0]) ∧
      Twins (closed [55] [56, 57, 58]) (closed [55] [0, 0, 0]) ∧
      let uses : List Use :=
        [.call (.resize 3), .look .cString, .look (.toInteger int32), .call .popBack,
          .look (.split 2 (some 0) (.empty 4)), .call (.format [['1', '2', '3', '4', '5']]), .look .debug]
      ((Call.history (uses.map Use.run) (closed [55] [56, 57, 58])).map (Report.on view) =
          (Call.history (uses.map Use.run) (closed [55] [0, 0, 0])).map (Report.on view) ∧
        ∀ allocator copy,
          (((closed [55] [56, 57, 58]).cloneAllocated allocator : Call Unit UInt8 ByteString) ()).outcome =
            .value copy → Sound copy ∧ Twins (closed [55] [56, 57, 58]) copy) := by
  have hs : Sound (closed [55] [56, 57, 58]) := sound_closed _ _ (by decide)
  have ht : Sound (closed [55] [0, 0, 0]) := sound_closed _ _ (by decide)
  have htwins : Twins (closed [55] [56, 57, 58]) (closed [55] [0, 0, 0]) := ⟨rfl, rfl⟩
  refine ⟨hs, ht, htwins, ?_⟩
  intro uses
  exact hidden_bytes_never_show hs ht htwins uses

end FixedCapacity.ByteString
