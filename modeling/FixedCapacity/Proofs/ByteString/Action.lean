/-
  FixedCapacity.Proofs.ByteString.Action — the calls on a string as data, and the same calls
  on its content.

  `Action.run` is the call on the storage. `Action.onBytes` says what it does to the content:
  how it ends, the content it leaves, what it reports and which bytes it asks about; no
  storage and no NUL is mentioned. `run_eq` ties the two together: the content is left in the
  storage, a NUL behind it, and what lies behind that NUL is as it was (`Action.leaves`).
-/

import FixedCapacity.Proofs.ByteString.Write

namespace FixedCapacity.ByteString

open Call (wordLimit)
open Predicate

/-- A call on a string with its arguments. A writer of the content is a `rewrite`. -/
inductive Action : Type 1 where
  | get (position : Nat)
  | index (position : Nat)
  | front
  | back
  | exchange (position : Nat) (b : UInt8)
  | exchangeIndex (position : Nat) (b : UInt8)
  | rewrite (change : List UInt8 → List UInt8)
  | find (b : UInt8)
  | findIf {τ : Type} (test : τ → UInt8 → Bool × τ) (t : τ)
  | clear
  | resize (len : Nat)
  | insert (position : Nat) (text : List UInt8)
  | append (text : List UInt8)
  | push (b : UInt8)
  | appendAll (texts : List (List UInt8))
  | assign (text : List UInt8)
  | popBack
  | remove (position : Nat)
  | removeIf {τ : Type} (test : τ → UInt8 → Bool × τ) (t : τ)
  | removeRange (bounds : Bounds)
  | write (pieces : List (List Char))
  | format (pieces : List (List Char))
  | convert (pieces : List (List Char))
  | encodeHex (source : List UInt8)
  | search (engine : Engine) (source : ByteString) (pattern : String) (group : Nat)

/-- The call itself. -/
def Action.run : Action → Op (Answer UInt8)
  | get position => .element <$> ByteString.get position
  | index position => .element <$> ByteString.index position
  | front => .element <$> ByteString.front
  | back => .element <$> ByteString.back
  | exchange position b => .element <$> ByteString.exchange position b
  | exchangeIndex position b => .element <$> ByteString.exchangeIndex position b
  | rewrite change => (fun _ => .nothing) <$> ByteString.rewrite change
  | find b => .number <$> ByteString.find b
  | findIf test t => .number <$> ByteString.findIf test t
  | clear => (fun _ => .nothing) <$> ByteString.clear
  | resize len => (fun _ => .nothing) <$> ByteString.resize len
  | insert position text => (fun _ => .nothing) <$> ByteString.insert position text
  | append text => (fun _ => .nothing) <$> ByteString.append text
  | push b => (fun _ => .nothing) <$> ByteString.push b
  | appendAll texts => .number <$> ByteString.appendAll texts
  | assign text => (fun _ => .nothing) <$> ByteString.assign text
  | popBack => .element <$> ByteString.popBack
  | remove position => .element <$> ByteString.remove position
  | removeIf test t => (fun r => .number r.1) <$> ByteString.removeIf test t
  | removeRange bounds => (fun _ => .nothing) <$> ByteString.removeRange bounds
  | write pieces => .flag <$> ByteString.write pieces
  | format pieces => (fun _ => .nothing) <$> ByteString.format pieces
  | convert pieces => (fun _ => .nothing) <$> ByteString.convert pieces
  | encodeHex source => (fun _ => .nothing) <$> ByteString.encodeHex source
  | search engine source pattern group =>
    (fun _ => .nothing) <$> ByteString.searchWith engine source pattern group

end FixedCapacity.ByteString

/-! ## The same calls on the content -/

namespace FixedCapacity.ListReport

open ByteString

variable (capacity : Nat) (content : List UInt8)

def insertText (position : Nat) (text : List UInt8) : ListReport UInt8 :=
  if capacity - content.length < text.length then
    ⟨.error .noMemory, content, [.alert (.insertOverflow .string content.length text.length capacity)], []⟩
  else if content.length < position then ⟨.error .invalidArgument, content, [], []⟩
  else ⟨.value .nothing, content.take position ++ text ++ content.drop position, [], []⟩

def resizeText (len : Nat) : ListReport UInt8 :=
  if capacity < len then
    ⟨.error .noMemory, content, [.alert (.resizeOverflow .string len capacity)], []⟩
  else ⟨.value .nothing, content.take len ++ List.replicate (len - content.length) 0, [], []⟩

/-- The content is replaced, if the text fits. -/
def replaceText (text : List UInt8) (room : Nat) : ListReport UInt8 :=
  if room < text.length then ⟨.error .noMemory, content, [], []⟩
  else ⟨.value .nothing, text, [], []⟩

def removeSpan (bounds : Bounds) : ListReport UInt8 :=
  match bounds.resolve content.length with
  | .error kind => ⟨.error kind, content, [], []⟩
  | .ok (start, stop) => ⟨.value .nothing, content.take start ++ content.drop stop, [], []⟩

def appendTexts (texts : List (List UInt8)) (answer : List UInt8 → Answer UInt8)
    (failed : Outcome (Answer UInt8)) : ListReport UInt8 :=
  let (written, stopped) := appending capacity texts content
  ⟨if stopped.isNone then .value (answer written) else failed, written, stopped.toList.map .alert, []⟩

/-- Formatted text replaces the content as a whole, or the content is empty afterwards. -/
def formatText (pieces : List (List Char)) (failed : Outcome (Answer UInt8)) : ListReport UInt8 :=
  let (written, stopped) := appending capacity (pieces.map Text.encode) []
  if stopped.isNone then ⟨.value .nothing, written, [], []⟩
  else ⟨failed, [], stopped.toList.map .alert, []⟩

def encodeText (source : List UInt8) : ListReport UInt8 :=
  if capacity / 2 < source.length then ⟨.error .noMemory, content, [], []⟩
  else ⟨.value .nothing, Text.Hex.encode source, [], []⟩

def searchText (engine : Engine) (source : ByteString) (pattern : String) (group : Nat) :
    ListReport UInt8 :=
  match engine pattern with
  | none => ⟨.error .invalidArgument, content, [.alert (.invalidPattern pattern)], []⟩
  | some find =>
    match captured find source group with
    | none => ⟨.error .notFound, content, [], []⟩
    | some text => insertText capacity [] 0 text

end FixedCapacity.ListReport

namespace FixedCapacity.ByteString

open Call (wordLimit)
open Predicate

namespace Action

/-- The call on the content of a string with a given capacity. -/
def onBytes (capacity : Nat) : Action → List UInt8 → ListReport UInt8
  | get position, xs => .found xs[position]? (.error .outOfRange) xs
  | index position, xs => .found xs[position]? (.violation (.indexOutOfBounds xs.length position)) xs
  | front, xs => .found xs.head? (.error .notFound) xs
  | back, xs => .found xs.getLast? (.error .notFound) xs
  | exchange position b, xs => .found xs[position]? (.error .outOfRange) (xs.set position b)
  | exchangeIndex position b, xs =>
    .found xs[position]? (.violation (.indexOutOfBounds xs.length position)) (xs.set position b)
  | rewrite change, xs => ⟨.value .nothing, rewritten change xs, [], []⟩
  | find b, xs => .search xs (fun t y => (y == b, t)) ()
  | findIf test t, xs => .search xs test t
  | clear, _ => ⟨.value .nothing, [], [], []⟩
  | resize len, xs => .resizeText capacity xs len
  | insert position text, xs => .insertText capacity xs position text
  | append text, xs => .insertText capacity xs xs.length text
  | push b, xs => .insertText capacity xs xs.length [b]
  | appendAll texts, xs => .appendTexts capacity xs texts (.number ·.length) (.error .noMemory)
  | assign text, xs => .replaceText xs text capacity
  | popBack, xs => .found xs.getLast? (.error .notFound) xs.dropLast
  | remove position, xs => .found xs[position]? (.error .invalidArgument) (xs.eraseIdx position)
  | removeIf test t, xs =>
    ⟨.value (.number (accepted test t xs).length), kept test t xs, [], xs.map .tested⟩
  | removeRange bounds, xs => .removeSpan xs bounds
  | write pieces, xs =>
    .appendTexts capacity xs (pieces.map Text.encode) (fun _ => .flag true) (.value (.flag false))
  | format pieces, _ => .formatText capacity pieces (.error .noMemory)
  | convert pieces, _ => .formatText capacity pieces (.violation (.conversionTooLong capacity))
  | encodeHex source, xs => .encodeText capacity xs source
  | search engine source pattern group, xs => .searchText capacity xs engine source pattern group

/-- The string that a call leaves with the content `ys`. Text that was formatted and taken back is
still behind the NUL. -/
def leaves (s : ByteString) (ys : List UInt8) : Action → ByteString
  | format pieces | convert pieces =>
    let (written, stopped) := appending s.capacity (pieces.map Text.encode) []
    if stopped.isNone then s.holding ys else (s.holding written).holding ys
  | _ => s.holding ys

theorem insert_onBytes {s : ByteString} (hs : Sound s) (position : Nat) (text : List UInt8) :
    ((fun _ => .nothing) <$> ByteString.insert position text : Op (Answer UInt8)) s =
      (ListReport.insertText s.capacity s.content position text).on s.holding := by
  simp only [ListReport.insertText, Call.map_apply, insert_eq hs, length_content hs]
  repeat' split
  all_goals simp [holding_content hs]

theorem append_onBytes {s : ByteString} (hs : Sound s) (text : List UInt8) :
    ((fun _ => .nothing) <$> ByteString.append text : Op (Answer UInt8)) s =
      (ListReport.insertText s.capacity s.content s.content.length text).on s.holding := by
  rw [← insert_onBytes hs, length_content hs]
  simp [ByteString.append]

/-- What a call does: the content shows all of it but the bytes behind the NUL. -/
theorem run_eq (action : Action) {s : ByteString} (hs : Sound s) :
    action.run s = (action.onBytes s.capacity s.content).on fun ys => action.leaves s ys := by
  have hlen := length_content hs
  cases action with
  | get position => simp [run, onBytes, leaves, ListReport.found, get_eq, holding_content hs]
  | index position => simp [run, onBytes, leaves, ListReport.found, index_eq, holding_content hs, hlen]
  | front => simp [run, onBytes, leaves, ListReport.found, front_eq, holding_content hs]
  | back => simp [run, onBytes, leaves, ListReport.found, back_eq, holding_content hs]
  | exchange position b => simp [run, onBytes, leaves, ListReport.found, exchange_eq hs]
  | exchangeIndex position b => simp [run, onBytes, leaves, ListReport.found, exchangeIndex_eq hs, hlen]
  | rewrite change => simp [run, onBytes, leaves, rewrite_eq hs]
  | find b => simp [run, onBytes, leaves, ListReport.search, ByteString.find, findIf_eq, holding_content hs]
  | findIf test t => simp [run, onBytes, leaves, ListReport.search, findIf_eq, holding_content hs]
  | clear => simp [run, onBytes, leaves, clear_eq hs]
  | resize len =>
    simp only [run, onBytes, leaves, ListReport.resizeText, Call.map_apply, resize_eq hs, hlen]
    split <;> simp [holding_content hs]
  | insert position text => exact insert_onBytes hs position text
  | append text => exact append_onBytes hs text
  | push b => exact append_onBytes hs [b]
  | appendAll texts =>
    simp only [run, onBytes, leaves, ListReport.appendTexts, Call.map_apply, appendAll_eq hs]
    split <;> simp_all
  | assign text =>
    simp only [run, onBytes, leaves, ListReport.replaceText, Call.map_apply, assign_eq hs]
    split <;> simp [holding_content hs]
  | popBack => simp [run, onBytes, leaves, ListReport.found, popBack_eq hs]
  | remove position => simp [run, onBytes, leaves, ListReport.found, remove_eq hs]
  | removeIf test t => simp [run, onBytes, leaves, removeIf_eq hs]
  | removeRange bounds =>
    simp only [run, onBytes, leaves, ListReport.removeSpan, Call.map_apply, removeRange_eq hs, hlen]
    split <;> simp_all [holding_content hs]
  | write pieces =>
    simp only [run, onBytes, leaves, ListReport.appendTexts, Call.map_apply, write_eq hs]
    split <;> simp_all [Option.isSome_iff_ne_none]
  | format pieces =>
    simp only [run, onBytes, leaves, ListReport.formatText, Call.map_apply, format_eq hs]
    split <;> simp_all
  | convert pieces =>
    simp only [run, onBytes, leaves, ListReport.formatText, Call.map_apply, convert_eq hs]
    split <;> simp_all
  | encodeHex source =>
    simp only [run, onBytes, leaves, ListReport.encodeText, Call.map_apply, encodeHex_eq hs]
    split <;> simp [holding_content hs]
  | search engine source pattern group =>
    simp only [run, onBytes, leaves, ListReport.searchText, ListReport.insertText, Call.map_apply,
      searchWith_eq hs]
    cases engine pattern with
    | none => simp [holding_content hs]
    | some find =>
      cases h : captured find source group with
      | none => simp [h, holding_content hs]
      | some text =>
        simp only [h, List.length_nil, Nat.sub_zero, Nat.lt_irrefl, if_false]
        split <;> simp

end Action

end FixedCapacity.ByteString
