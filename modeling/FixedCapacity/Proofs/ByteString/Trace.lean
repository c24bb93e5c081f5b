/-
  FixedCapacity.Proofs.ByteString.Trace — traces of the calls on strings tell the truth.

  Strings report no insertions. They alert to a length beyond the capacity, to a pattern that is
  none, and to a text that does not fit; `Action.Inserts` says which text that is and what the
  string is at that moment, which for texts written one after another is not the string the call
  was made on. `Action.Alerts` gives the figures.

  What an alert explains is an error, but for two calls (`Action.failure`): a conversion is vouched
  for, so its failure is a violation, and a writer of pieces only says that it stopped.
-/

import FixedCapacity.Proofs.SlotArray.Trace

namespace FixedCapacity.ByteString

open Call (wordLimit)
open Trace

variable {s : ByteString}

/-! ## What calls alert to -/

namespace Action

/-- A call on `s` comes to insert a text into the string as it is at that moment. -/
inductive Inserts (s : ByteString) : Action → ByteString → List UInt8 → Prop
  | insert (position : Nat) (text : List UInt8) : Inserts s (.insert position text) s text
  | append (text : List UInt8) : Inserts s (.append text) s text
  | push (b : UInt8) : Inserts s (.push b) s [b]
  | appendAll {fitting rest : List (List UInt8)} {text : List UInt8} {t : ByteString}
      (h : ByteString.appendAll fitting s = ⟨.value t.len, t, [], []⟩) :
      Inserts s (.appendAll (fitting ++ text :: rest)) t text
  | write {fitting rest : List (List Char)} {piece : List Char} {t : ByteString}
      (h : ByteString.write fitting s = ⟨.value true, t, [], []⟩) :
      Inserts s (.write (fitting ++ piece :: rest)) t (Text.encode piece)
  | format {fitting rest : List (List Char)} {piece : List Char} {t : ByteString}
      (h : ByteString.write fitting (ByteString.clear s).state = ⟨.value true, t, [], []⟩) :
      Inserts s (.format (fitting ++ piece :: rest)) t (Text.encode piece)
  | convert {fitting rest : List (List Char)} {piece : List Char} {t : ByteString}
      (h : ByteString.write fitting (ByteString.clear s).state = ⟨.value true, t, [], []⟩) :
      Inserts s (.convert (fitting ++ piece :: rest)) t (Text.encode piece)
  | search {engine : Engine} {find : List UInt8 → Option Captures} {source : ByteString} {pattern : String}
      {group : Nat} {text : List UInt8} (hengine : engine pattern = some find)
      (h : captured find source group = some text) :
      Inserts s (.search engine source pattern group) (ByteString.clear s).state text

/-- The alerts of a call on `s`. -/
inductive Alerts (s : ByteString) : Action → Alert → Prop
  | resize {len : Nat} (h : s.capacity < len) : Alerts s (.resize len) (.resizeOverflow .string len s.capacity)
  | insert {action : Action} {t : ByteString} {text : List UInt8} (moment : Inserts s action t text)
      (h : s.capacity < t.len + text.length) :
      Alerts s action (.insertOverflow .string t.len text.length s.capacity)
  | pattern {engine : Engine} {source : ByteString} {pattern : String} {group : Nat}
      (h : engine pattern = none) : Alerts s (.search engine source pattern group) (.invalidPattern pattern)

/-- How a call ends that had to alert. -/
def failure (capacity : Nat) : Action → Alert → Outcome (Answer UInt8)
  | write _, _ => .value (.flag false)
  | convert _, _ => .violation (.conversionTooLong capacity)
  | _, alert => .error alert.kind

end Action

/-! ## Texts one after another -/

/-- What stops texts that are appended one after another is the first that does not fit behind those
in front of it. -/
theorem appending_stopped {capacity : Nat} {texts : List (List UInt8)} {content : List UInt8} {alert : Alert}
    (h : (appending capacity texts content).2 = some alert) :
    ∃ fitting text rest reached, texts = fitting ++ text :: rest ∧
      appending capacity fitting content = (reached, none) ∧ capacity < reached.length + text.length ∧
      alert = .insertOverflow .string reached.length text.length capacity := by
  induction texts generalizing content with
  | nil => cases h
  | cons text rest ih =>
    rw [appending] at h
    by_cases hfits : capacity - content.length < text.length
    · rw [if_pos hfits] at h
      cases h
      exact ⟨[], text, rest, content, rfl, rfl, by omega, rfl⟩
    · rw [if_neg hfits] at h
      obtain ⟨fitting, next, later, reached, rfl, hreached, hover, halert⟩ := ih h
      refine ⟨text :: fitting, next, later, reached, rfl, ?_, hover, halert⟩
      rw [appending, if_neg hfits, hreached]

theorem appendAll_stopped (hs : Sound s) {texts : List (List UInt8)} {alert : Alert}
    (h : (appending s.capacity texts s.content).2 = some alert) :
    ∃ fitting text rest t, texts = fitting ++ text :: rest ∧
      appendAll fitting s = ⟨.value t.len, t, [], []⟩ ∧ s.capacity < t.len + text.length ∧
      alert = .insertOverflow .string t.len text.length s.capacity := by
  obtain ⟨fitting, text, rest, reached, hsplit, hreached, hover, halert⟩ := appending_stopped h
  refine ⟨fitting, text, rest, s.holding reached, hsplit, ?_, ?_, ?_⟩
  · rw [appendAll_eq hs, hreached, len_holding]
    rfl
  · rwa [len_holding]
  · rwa [len_holding]

theorem write_stopped (hs : Sound s) {pieces : List (List Char)} {alert : Alert}
    (h : (appending s.capacity (pieces.map Text.encode) s.content).2 = some alert) :
    ∃ fitting piece rest t, pieces = fitting ++ piece :: rest ∧
      write fitting s = ⟨.value true, t, [], []⟩ ∧ s.capacity < t.len + (Text.encode piece).length ∧
      alert = .insertOverflow .string t.len (Text.encode piece).length s.capacity := by
  obtain ⟨fitting, text, rest, reached, hsplit, hreached, hover, halert⟩ := appending_stopped h
  obtain ⟨fitting, later, rfl, rfl, hlater⟩ := List.map_eq_append_iff.mp hsplit
  obtain ⟨piece, rest, rfl, rfl, rfl⟩ := List.map_eq_cons_iff.mp hlater
  refine ⟨fitting, piece, rest, s.holding reached, rfl, ?_, ?_, ?_⟩
  · rw [write_eq hs, hreached]
    rfl
  · rwa [len_holding]
  · rwa [len_holding]

/-! ## Calls -/

section OnBytes

variable {capacity : Nat} {xs : List UInt8}

theorem insertText_explained {action : Action} {t : ByteString} {text : List UInt8}
    (moment : action.Inserts s t text) (hlen : xs.length = t.len) (position : Nat)
    (hfailure : ∀ alert, action.failure s.capacity alert = .error alert.kind) :
    (ListReport.insertText s.capacity xs position text).Explained (action.Alerts s) (action.failure s.capacity) := by
  unfold ListReport.insertText
  split
  case isTrue h =>
    rw [hlen] at h ⊢
    have hkind := hfailure (.insertOverflow .string t.len text.length s.capacity)
    exact .inr ⟨_, rfl, hkind.symm, .insert moment (by omega)⟩
  split
  case isTrue => exact .inl rfl
  case isFalse => exact .inl rfl

theorem appendTexts_explained {so : Alert → Prop} {failure : Alert → Outcome (Answer UInt8)}
    {texts : List (List UInt8)} {failed : Outcome (Answer UInt8)} (answer : List UInt8 → Answer UInt8)
    (h : ∀ alert, (appending capacity texts xs).2 = some alert → failed = failure alert ∧ so alert) :
    (ListReport.appendTexts capacity xs texts answer failed).Explained so failure := by
  unfold ListReport.appendTexts
  cases hstopped : (appending capacity texts xs).2 with
  | none => exact .inl (by simp [hstopped, alerts])
  | some alert =>
    obtain ⟨hfailed, hso⟩ := h alert hstopped
    refine .inr ⟨alert, ?_, ?_, hso⟩
    · simp [hstopped, alerts, Entry.alert?]
    · simp [hstopped, hfailed]

theorem formatText_explained {so : Alert → Prop} {failure : Alert → Outcome (Answer UInt8)}
    {pieces : List (List Char)} {failed : Outcome (Answer UInt8)}
    (h : ∀ alert, (appending capacity (pieces.map Text.encode) []).2 = some alert →
      failed = failure alert ∧ so alert) :
    (ListReport.formatText capacity pieces failed).Explained so failure := by
  unfold ListReport.formatText
  cases hstopped : (appending capacity (pieces.map Text.encode) []).2 with
  | none => exact .inl (by simp [hstopped, alerts])
  | some alert =>
    obtain ⟨hfailed, hso⟩ := h alert hstopped
    refine .inr ⟨alert, ?_, ?_, hso⟩
    · simp [hstopped, alerts, Entry.alert?]
    · simp [hstopped, hfailed]

end OnBytes

/-- Pieces that are written over the content stop where they would if the string were empty. -/
theorem rewrite_stopped (hs : Sound s) {pieces : List (List Char)} {alert : Alert}
    (h : (appending s.capacity (pieces.map Text.encode) []).2 = some alert) :
    ∃ fitting piece rest t, pieces = fitting ++ piece :: rest ∧
      write fitting (clear s).state = ⟨.value true, t, [], []⟩ ∧
      s.capacity < t.len + (Text.encode piece).length ∧
      alert = .insertOverflow .string t.len (Text.encode piece).length s.capacity := by
  have hcapacity := capacity_holding_nil hs
  have hcontent : (s.holding []).content = [] := content_holding
  rw [← hcapacity, ← hcontent] at h
  rw [clear_eq hs, ← hcapacity]
  exact write_stopped (sound_holding_nil hs) h

theorem onBytes_explained (hs : Sound s) (action : Action) :
    (action.onBytes s.capacity s.content).Explained (action.Alerts s) (action.failure s.capacity) := by
  have hlen := length_content hs
  cases action with
  | insert position text => exact insertText_explained (.insert position text) hlen position fun _ => rfl
  | append text => exact insertText_explained (.append text) hlen _ fun _ => rfl
  | push b => exact insertText_explained (.push b) hlen _ fun _ => rfl
  | resize len =>
    rw [Action.onBytes, ListReport.resizeText]
    split
    case isTrue h => exact .inr ⟨_, rfl, rfl, .resize h⟩
    case isFalse => exact .inl rfl
  | appendAll texts =>
    refine appendTexts_explained _ fun alert hstopped => ?_
    obtain ⟨fitting, text, rest, t, rfl, hreached, hover, rfl⟩ := appendAll_stopped hs hstopped
    exact ⟨rfl, .insert (.appendAll hreached) hover⟩
  | write pieces =>
    refine appendTexts_explained _ fun alert hstopped => ?_
    obtain ⟨fitting, piece, rest, t, rfl, hreached, hover, rfl⟩ := write_stopped hs hstopped
    exact ⟨rfl, .insert (.write hreached) hover⟩
  | format pieces =>
    refine formatText_explained fun alert hstopped => ?_
    obtain ⟨fitting, piece, rest, t, rfl, hreached, hover, rfl⟩ := rewrite_stopped hs hstopped
    exact ⟨rfl, .insert (.format hreached) hover⟩
  | convert pieces =>
    refine formatText_explained fun alert hstopped => ?_
    obtain ⟨fitting, piece, rest, t, rfl, hreached, hover, rfl⟩ := rewrite_stopped hs hstopped
    exact ⟨rfl, .insert (.convert hreached) hover⟩
  | search engine source pattern group =>
    rw [Action.onBytes, ListReport.searchText]
    cases hengine : engine pattern with
    | none => exact .inr ⟨_, rfl, rfl, .pattern hengine⟩
    | some find =>
      cases hcaptured : captured find source group with
      | none => exact .inl (by simp [hcaptured, alerts])
      | some text =>
        simp only [hcaptured]
        refine insertText_explained (.search hengine hcaptured) ?_ 0 fun _ => rfl
        rw [clear_eq hs, len_holding]
  | assign text =>
    rw [Action.onBytes, ListReport.replaceText]
    split
    case isTrue => exact .inl rfl
    case isFalse => exact .inl rfl
  | encodeHex source =>
    rw [Action.onBytes, ListReport.encodeText]
    split
    case isTrue => exact .inl rfl
    case isFalse => exact .inl rfl
  | removeRange bounds =>
    rw [Action.onBytes, ListReport.removeSpan]
    split
    case h_1 => exact .inl rfl
    case h_2 => exact .inl rfl
  | get | index | front | back | exchange | exchangeIndex | rewrite | find | findIf | clear | popBack | remove
  | removeIf => exact .inl rfl

/-- A string reports no insertions. -/
theorem insertions_onBytes (action : Action) (capacity : Nat) (xs : List UInt8) :
    insertions (action.onBytes capacity xs).trace = [] := by
  have hinsert (xs : List UInt8) (position : Nat) (text : List UInt8) :
      insertions (ListReport.insertText capacity xs position text).trace = [] := by
    rw [ListReport.insertText]
    repeat' split
    all_goals rfl
  have hstopped (stopped : Option Alert) : insertions (stopped.toList.map .alert) = [] := by
    cases stopped <;> rfl
  cases action with
  | insert position text => exact hinsert xs position text
  | append text => exact hinsert xs xs.length text
  | push b => exact hinsert xs xs.length [b]
  | appendAll texts => exact hstopped _
  | write pieces => exact hstopped _
  | format pieces | convert pieces =>
    simp only [Action.onBytes, ListReport.formatText]
    split
    · rfl
    · exact hstopped _
  | search engine source pattern group =>
    rw [Action.onBytes, ListReport.searchText]
    split
    · rfl
    split
    · rfl
    · exact hinsert [] 0 _
  | resize len =>
    rw [Action.onBytes, ListReport.resizeText]
    split <;> rfl
  | assign text =>
    rw [Action.onBytes, ListReport.replaceText]
    split <;> rfl
  | encodeHex source =>
    rw [Action.onBytes, ListReport.encodeText]
    split <;> rfl
  | removeRange bounds =>
    rw [Action.onBytes, ListReport.removeSpan]
    split <;> rfl
  | get | index | front | back | exchange | exchangeIndex | rewrite | find | findIf | clear | popBack | remove
  | removeIf => rfl

/-! ## Strings that are made -/

/-- The alert of a string that is made, if there is one. -/
def Storage.Alerts : Storage → Alert → Prop
  | allocated capacity allocator, alert =>
    alert = .allocationFailed .string (capacity + 1) ∧ allocator (capacity + 1) = false
  | _, _ => False

theorem trace_borrow (memory : List UInt8) : ((borrow memory : Call Unit UInt8 ByteString) ()).trace = [] := by
  cases memory with
  | nil => rfl
  | cons b memory =>
    have hclear : clear ⟨b :: memory, 0⟩ = ⟨.value (), closed [] memory, [], []⟩ :=
      setLen_eq 0 (Nat.zero_lt_succ _)
    simp [borrow, Call.buildPlain, hclear]

theorem create_truthful (storage : Storage) : (storage.create ()).Truthful storage.Alerts [] := by
  cases storage with
  | inline capacity => exact Report.truthful_of_silent rfl
  | inlineOf capacity text =>
    rw [Storage.create, ofBytes_apply]
    split
    case isTrue => exact Report.truthful_of_silent rfl
    case isFalse => exact Report.truthful_of_silent rfl
  | allocated capacity allocator =>
    rw [Storage.create, allocate_apply]
    split
    case isTrue =>
      split
      case isTrue => exact Report.truthful_of_quiet rfl rfl
      case isFalse h => exact Report.truthful_of_alert rfl rfl ⟨rfl, by simpa using h⟩ rfl
    case isFalse => exact Report.truthful_of_silent rfl
  | borrowed memory => exact Report.truthful_of_silent (trace_borrow memory)
  | bound region =>
    have htrace : ((region.bindString : Call Unit UInt8 ByteString) ()).trace = [.span (.bind .string region.size)] := by
      simp [Region.bindString, Report.after, trace_borrow]
    refine Report.truthful_of_quiet ?_ ?_
    · rw [Storage.create, htrace]
      rfl
    · rw [Storage.create, htrace]
      rfl

/-! ## All of them -/

/-- The traces of calls on a string, of those that fill an array from it, and of its copies tell the
truth. -/
structure Truthful (s : ByteString) : Prop where
  calls : ∀ action : Action, (action.run s).Explained (action.Alerts s) (action.failure s.capacity)
  bare : ∀ action : Action, insertions (action.run s).trace = []
  splits : ∀ list : SlotArray ByteString, list.Reachable → ∀ capacity delimiter,
    (s.split capacity delimiter list).Truthful
      (SlotArray.Fills list.capacity (s.split capacity delimiter list).state) []
  decodes : ∀ target : SlotArray UInt8, target.Reachable →
    (s.decodeHex target).Truthful (SlotArray.Fills target.capacity (s.decodeHex target).state) []
  copies : ∀ allocator, ((s.cloneAllocated allocator : Call Unit UInt8 ByteString) ()).Truthful
    (fun alert => alert = .allocationFailed .string (s.capacity + 1) ∧ allocator (s.capacity + 1) = false) []

theorem truthful (hs : Sound s) : Truthful s := by
  constructor
  case calls =>
    intro action
    rw [Action.run_eq action hs]
    exact onBytes_explained hs action
  case bare =>
    intro action
    rw [Action.run_eq action hs]
    exact insertions_onBytes action s.capacity s.content
  case splits =>
    intro list hlist capacity delimiter
    exact (filling_split hs capacity delimiter).truthful hlist.sound
  case decodes =>
    intro target htarget
    exact (filling_decodeHex hs).truthful htarget.sound
  case copies =>
    intro allocator
    rw [cloneAllocated_apply hs]
    split
    case isTrue => exact Report.truthful_of_quiet rfl rfl
    case isFalse h => exact Report.truthful_of_alert rfl rfl ⟨rfl, by simpa using h⟩ rfl

end FixedCapacity.ByteString
