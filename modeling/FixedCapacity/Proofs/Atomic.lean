/-
  FixedCapacity.Proofs.Atomic — a call that fails changes nothing.

  A call that ends without a value leaves the array or the string as it was, down to the
  slots and bytes left over. It ran no maker, copied no element, and destroyed none but the
  one it was given (`SlotArray.Atomic`, `ByteString.Atomic`).

  Some calls on strings are told apart. Formatting that does not fit leaves the string empty.
  A search touches its destination only when there is something to copy, and empties it when
  the copy does not fit. Texts appended one after another and pieces written one after
  another are a call each: the one that does not fit changes nothing, and those before it
  stand (`Interrupted`, `stopped_writer_keeps_pieces`).
-/

import FixedCapacity.Proofs.Reachable

namespace FixedCapacity

/-! ## Arrays -/

namespace SlotArray

variable {α : Type} {a : SlotArray α}

/-- No call on the array that fails does anything. -/
structure Atomic (a : SlotArray α) : Prop where
  calls : ∀ action : Action α, (∀ answer, (action.run a).outcome ≠ .value answer) →
    (action.run a).state = a ∧ ∃ asked : List α,
      (action.run a).ledger = asked.map .tested ++ (action.given (action.run a).outcome).map .dropped
  copies : ∀ allocator, (∀ copy, ((cloneAllocated a allocator : Call Unit α _) ()).outcome ≠ .value copy) →
    ((cloneAllocated a allocator : Call Unit α _) ()).ledger = []

/-- The slots behind the elements, when a call that may fail leaves the same elements. -/
theorem left_failed (action : Action α) (capacity : Nat) (xs : List α) (free : List (Option α))
    (hfail : ∀ answer, (action.onList capacity xs).outcome ≠ .value answer) :
    action.left xs free xs = free := by
  cases action with
  | removeIf test t => exact absurd rfl (hfail _)
  | _ => exact List.drop_left' (List.length_map _)

theorem atomic (ha : Sound a) : Atomic a := by
  obtain ⟨xs, free, rfl, hw⟩ := sound_iff.mp ha
  constructor
  case calls =>
    intro action hfail
    rw [Action.run_laid action xs free hw] at hfail ⊢
    obtain ⟨hstate, asked, hledger⟩ := onList_failed action _ xs hfail
    refine ⟨?_, asked, hledger⟩
    rw [Report.state_on, hstate, left_failed action _ xs free hfail]
  case copies => exact fun allocator => (Family.cloneAllocated_copyOf ha allocator).refused

end SlotArray

/-! ## Strings -/

namespace ByteString

open SlotArray (eq_none_of_found)

variable {s : ByteString}

/-- The group took this range of the bytes in the first match of the pattern. -/
def Engine.Takes (engine : Engine) (pattern : String) (bytes : List UInt8) (group start stop : Nat) : Prop :=
  ∃ find, ∃ captures : Captures, engine pattern = some find ∧ find bytes = some captures ∧
    captures[group]? = some (some (start, stop))

/-- What a group takes is a range of the bytes that were searched. -/
def Engine.Within (engine : Engine) : Prop :=
  ∀ pattern bytes group start stop, engine.Takes pattern bytes group start stop →
    start ≤ stop ∧ stop ≤ bytes.length

/-- The calls that neither format nor copy out of another string, and that write one text at most. -/
def Action.Plain : Action → Prop
  | format _ | convert _ | search .. | appendAll _ | write _ => False
  | _ => True

/-- Nothing is left of the content, and nothing else happened. -/
structure Emptied (s : ByteString) (r : Report ByteString UInt8 (Answer UInt8)) : Prop where
  content : r.state.content = []
  len : r.state.len = 0
  capacity : r.state.capacity = s.capacity
  ledger : r.ledger = []

/-- The texts up to the first that does not fit were appended, and appending that one does nothing. -/
def Interrupted (s : ByteString) (texts : List (List UInt8)) (left : ByteString) : Prop :=
  ∃ fitting text rest, texts = fitting ++ text :: rest ∧
    appendAll fitting s = ⟨.value left.len, left, [], []⟩ ∧
    (append text left).outcome = .error .noMemory ∧ (append text left).state = left

/-- How a search that fails leaves its destination. -/
structure Searched (engine : Engine) (source : ByteString) (pattern : String) (group : Nat)
    (matched : ByteString) (r : Report ByteString UInt8 (Answer UInt8)) : Prop where
  kinds : (∀ answer, r.outcome ≠ .value answer) →
    r.outcome = .error .invalidArgument ∨ r.outcome = .error .notFound ∨ r.outcome = .error .noMemory
  untouched : r.outcome = .error .invalidArgument ∨ r.outcome = .error .notFound →
    r.state = matched ∧ r.ledger = []
  emptied : r.outcome = .error .noMemory → Emptied matched r
  tooLong : r.outcome = .error .noMemory ↔
    ∃ start stop, engine.Takes pattern source.content group start stop ∧ matched.capacity < stop - start

/-- No call on the string that fails does anything, but for those that say so. -/
structure Atomic (s : ByteString) : Prop where
  calls : ∀ action : Action, action.Plain → (∀ answer, (action.run s).outcome ≠ .value answer) →
    (action.run s).state = s ∧ ∃ asked : List UInt8, (action.run s).ledger = asked.map .tested
  formats : ∀ pieces, (∀ answer, ((Action.format pieces).run s).outcome ≠ .value answer) →
    Emptied s ((Action.format pieces).run s)
  converts : ∀ pieces, (∀ answer, ((Action.convert pieces).run s).outcome ≠ .value answer) →
    Emptied s ((Action.convert pieces).run s)
  searches : ∀ (engine : Engine) source pattern group, engine.Within →
    Searched engine source pattern group s ((Action.search engine source pattern group).run s)
  appends : ∀ texts, (∀ answer, ((Action.appendAll texts).run s).outcome ≠ .value answer) →
    Interrupted s texts ((Action.appendAll texts).run s).state
  writes : ∀ pieces, ((Action.write pieces).run s).outcome = .value (.flag false) →
    Interrupted s (pieces.map Text.encode) ((Action.write pieces).run s).state
  looks : ∀ look, ((Use.look look).run s).state = s

/-! ### Calls that write one text at most -/

theorem insertText_failed {capacity : Nat} {xs : List UInt8} {position : Nat} {text : List UInt8}
    (hfail : ∀ answer, (ListReport.insertText capacity xs position text).outcome ≠ .value answer) :
    (ListReport.insertText capacity xs position text).state = xs ∧
      (ListReport.insertText capacity xs position text).ledger = [] := by
  simp only [ListReport.insertText] at hfail ⊢
  split at hfail
  case isTrue h =>
    rw [if_pos h]
    exact ⟨rfl, rfl⟩
  split at hfail
  case isTrue h h' =>
    rw [if_neg h, if_pos h']
    exact ⟨rfl, rfl⟩
  case isFalse => exact absurd rfl (hfail _)

theorem onBytes_failed {action : Action} (hplain : action.Plain) (capacity : Nat) (xs : List UInt8)
    (hfail : ∀ answer, (action.onBytes capacity xs).outcome ≠ .value answer) :
    (action.onBytes capacity xs).state = xs ∧
      ∃ asked : List UInt8, (action.onBytes capacity xs).ledger = asked.map .tested := by
  cases action with
  | format | convert | search | appendAll | write => exact hplain.elim
  | rewrite | clear | removeIf => exact absurd rfl (hfail _)
  | get | index | front | back => exact ⟨rfl, [], rfl⟩
  | find b => exact ⟨rfl, Predicate.asked (fun t y => (y == b, t)) () xs, rfl⟩
  | findIf test t => exact ⟨rfl, Predicate.asked test t xs, rfl⟩
  | exchange position b | exchangeIndex position b =>
    have h := eq_none_of_found hfail
    exact ⟨List.set_eq_of_length_le (by simpa using h), [], rfl⟩
  | popBack =>
    obtain rfl : xs = [] := by simpa using eq_none_of_found hfail
    exact ⟨rfl, [], rfl⟩
  | remove position =>
    have h := eq_none_of_found hfail
    exact ⟨List.eraseIdx_of_length_le (by simpa using h), [], rfl⟩
  | insert position text =>
    obtain ⟨hstate, hledger⟩ := insertText_failed hfail
    exact ⟨hstate, [], hledger⟩
  | append text =>
    obtain ⟨hstate, hledger⟩ := insertText_failed hfail
    exact ⟨hstate, [], hledger⟩
  | push b =>
    obtain ⟨hstate, hledger⟩ := insertText_failed hfail
    exact ⟨hstate, [], hledger⟩
  | resize len =>
    simp only [Action.onBytes, ListReport.resizeText] at hfail ⊢
    rw [ListReport.eq_refused rfl hfail]
    exact ⟨rfl, [], rfl⟩
  | assign text =>
    simp only [Action.onBytes, ListReport.replaceText] at hfail ⊢
    rw [ListReport.eq_refused rfl hfail]
    exact ⟨rfl, [], rfl⟩
  | encodeHex source =>
    simp only [Action.onBytes, ListReport.encodeText] at hfail ⊢
    rw [ListReport.eq_refused rfl hfail]
    exact ⟨rfl, [], rfl⟩
  | removeRange bounds =>
    simp only [Action.onBytes, ListReport.removeSpan] at hfail ⊢
    cases h : bounds.resolve xs.length with
    | error kind => exact ⟨rfl, [], rfl⟩
    | ok range =>
      rw [h] at hfail
      exact absurd rfl (hfail _)

theorem run_failed (hs : Sound s) {action : Action} (hplain : action.Plain)
    (hfail : ∀ answer, (action.run s).outcome ≠ .value answer) :
    (action.run s).state = s ∧ ∃ asked : List UInt8, (action.run s).ledger = asked.map .tested := by
  rw [Action.run_eq action hs] at hfail ⊢
  obtain ⟨hstate, hledger⟩ := onBytes_failed hplain s.capacity s.content hfail
  refine ⟨?_, hledger⟩
  have hleaves : action.leaves s s.content = s.holding s.content := by
    cases action with
    | format | convert => exact hplain.elim
    | _ => rfl
  rw [Report.state_on, hstate, hleaves, holding_content hs]

/-! ### Formatting -/

theorem formatText_failed {capacity : Nat} {pieces : List (List Char)} {failed : Outcome (Answer UInt8)}
    (hfail : ∀ answer, (ListReport.formatText capacity pieces failed).outcome ≠ .value answer) :
    (ListReport.formatText capacity pieces failed).state = [] ∧
      (ListReport.formatText capacity pieces failed).ledger = [] := by
  simp only [ListReport.formatText] at hfail ⊢
  split at hfail
  case isTrue => exact absurd rfl (hfail _)
  case isFalse h =>
    rw [if_neg h]
    exact ⟨rfl, rfl⟩

/-- A call that leaves no content leaves an empty string of the same capacity. -/
theorem emptied (hs : Sound s) {action : Action} (hstate : (action.onBytes s.capacity s.content).state = [])
    (hledger : (action.onBytes s.capacity s.content).ledger = []) : Emptied s (action.run s) := by
  obtain ⟨hsound, hcapacity, hcontent⟩ := run_sound action hs
  rw [hstate] at hcontent
  refine ⟨hcontent, ?_, hcapacity, ?_⟩
  · rw [← length_content hsound, hcontent, List.length_nil]
  · rw [Action.run_eq action hs]
    exact hledger

/-! ### Texts one after another -/

theorem interrupted (hs : Sound s) (texts : List (List UInt8))
    (hstopped : (appending s.capacity texts s.content).2 ≠ none) :
    Interrupted s texts (s.holding (appending s.capacity texts s.content).1) := by
  induction texts generalizing s with
  | nil => exact absurd rfl hstopped
  | cons text rest ih =>
    have hlen := length_content hs
    rw [appending, hlen] at hstopped ⊢
    by_cases hfits : s.capacity - s.len < text.length
    · rw [if_pos hfits, holding_content hs]
      refine ⟨[], text, rest, rfl, rfl, ?_, ?_⟩
      · rw [append_eq hs, if_pos hfits]
      · rw [append_eq hs, if_pos hfits]
    · -- The text was appended: the rest goes on from there.
      rw [if_neg hfits] at hstopped ⊢
      have hlonger := length_append_le hs hfits
      have hcapacity := capacity_holding hs hlonger
      have hsame := holding_holding (s := s) (le_length_appending s.capacity rest (s.content ++ text))
      have hrest := ih (sound_holding hs hlonger)
      rw [hcapacity, content_holding, hsame] at hrest
      obtain ⟨fitting, next, later, hsplit, happended, hrefused⟩ := hrest hstopped
      refine ⟨text :: fitting, next, later, ?_, ?_, hrefused⟩
      · rw [hsplit, List.cons_append]
      · rw [appendAll, Call.bind_apply, append_eq hs, if_neg hfits, Report.andThen_value, happended,
          Report.after_nil]

/-! ### Searches -/

theorem captured_eq_some {engine : Engine} {pattern : String} {find : List UInt8 → Option Captures}
    (hengine : engine pattern = some find) {source : ByteString} {group : Nat} {text : List UInt8} :
    captured find source group = some text ↔
      ∃ start stop, engine.Takes pattern source.content group start stop ∧
        (source.content.drop start).take (stop - start) = text := by
  simp only [captured, Engine.Takes, Option.map_eq_some_iff, Option.bind_eq_some_iff, Option.join_eq_some_iff]
  constructor
  · rintro ⟨⟨start, stop⟩, ⟨captures, hfind, hgroup⟩, htext⟩
    exact ⟨start, stop, ⟨find, captures, hengine, hfind, hgroup⟩, htext⟩
  · rintro ⟨start, stop, ⟨find', captures, hengine', hfind, hgroup⟩, htext⟩
    cases hengine.symm.trans hengine'
    exact ⟨(start, stop), ⟨captures, hfind, hgroup⟩, htext⟩

/-- A group takes one range at most. -/
theorem Engine.Takes.unique {engine : Engine} {pattern : String} {bytes : List UInt8}
    {group start stop start' stop' : Nat} (h : engine.Takes pattern bytes group start stop)
    (h' : engine.Takes pattern bytes group start' stop') : start = start' ∧ stop = stop' := by
  obtain ⟨find, captures, hengine, hfind, hgroup⟩ := h
  obtain ⟨find', captures', hengine', hfind', hgroup'⟩ := h'
  cases hengine.symm.trans hengine'
  cases hfind.symm.trans hfind'
  cases hgroup.symm.trans hgroup'
  exact ⟨rfl, rfl⟩

/-- A search that finds nothing to copy does nothing. -/
theorem searched_nothing {engine : Engine} {source matched : ByteString} {pattern : String} {group : Nat}
    {kind : Error.Kind} {trace : List Trace.Entry} (hkind : kind = .invalidArgument ∨ kind = .notFound)
    (hnothing : ∀ start stop, ¬ engine.Takes pattern source.content group start stop) :
    Searched engine source pattern group matched ⟨.error kind, matched, trace, []⟩ := by
  have hmemory : (.error kind : Outcome (Answer UInt8)) ≠ .error .noMemory := by
    rcases hkind with rfl | rfl <;> simp
  constructor
  case kinds =>
    intro _
    rcases hkind with rfl | rfl
    · exact .inl rfl
    · exact .inr (.inl rfl)
  case untouched => exact fun _ => ⟨rfl, rfl⟩
  case emptied => exact fun h => absurd h hmemory
  case tooLong =>
    constructor
    · exact fun h => absurd h hmemory
    · rintro ⟨start, stop, htakes, -⟩
      exact absurd htakes (hnothing start stop)

/-- A search that finds something to copy fails if that does not fit, and then leaves nothing. -/
theorem searched_something (hs : Sound s) {engine : Engine} {source : ByteString} {pattern : String}
    {group start stop : Nat} (htakes : engine.Takes pattern source.content group start stop)
    {text : List UInt8} (hlength : text.length = stop - start) :
    Searched engine source pattern group s
      ((ListReport.insertText s.capacity [] 0 text).on s.holding) := by
  have hwhich : (∃ start' stop', engine.Takes pattern source.content group start' stop' ∧
      s.capacity < stop' - start') ↔ s.capacity < stop - start := by
    constructor
    · rintro ⟨start', stop', htakes', hlong⟩
      obtain ⟨rfl, rfl⟩ := htakes.unique htakes'
      exact hlong
    · exact fun hlong => ⟨start, stop, htakes, hlong⟩
  rw [ListReport.insertText, List.length_nil, Nat.sub_zero, hlength, if_neg (Nat.lt_irrefl 0)]
  by_cases hlong : s.capacity < stop - start
  · rw [if_pos hlong]
    constructor
    case kinds => exact fun _ => .inr (.inr rfl)
    case untouched => rintro (h | h) <;> cases h
    case emptied => exact fun _ => ⟨content_holding, len_holding, capacity_holding_nil hs, rfl⟩
    case tooLong => exact ⟨fun _ => hwhich.mpr hlong, fun _ => rfl⟩
  · rw [if_neg hlong]
    constructor
    case kinds => exact fun hfail => absurd rfl (hfail _)
    case untouched => rintro (h | h) <;> cases h
    case emptied => intro h; cases h
    case tooLong =>
      constructor
      · intro h; cases h
      · exact fun h => absurd (hwhich.mp h) hlong

theorem searched (hs : Sound s) {engine : Engine} (hwithin : engine.Within) (source : ByteString)
    (pattern : String) (group : Nat) :
    Searched engine source pattern group s ((Action.search engine source pattern group).run s) := by
  have hrun := Action.run_eq (Action.search engine source pattern group) hs
  simp only [Action.onBytes, Action.leaves, ListReport.searchText] at hrun
  cases hengine : engine pattern with
  | none =>
    simp only [hengine, Report.on_mk, holding_content hs] at hrun
    rw [hrun]
    refine searched_nothing (.inl rfl) fun start stop htakes => ?_
    obtain ⟨find, captures, hfind, -⟩ := htakes
    cases hengine.symm.trans hfind
  | some find =>
    cases hcaptured : captured find source group with
    | none =>
      simp only [hengine, hcaptured, Report.on_mk, holding_content hs] at hrun
      rw [hrun]
      refine searched_nothing (.inr rfl) fun start stop htakes => ?_
      have hsome := (captured_eq_some hengine).mpr ⟨start, stop, htakes, rfl⟩
      cases hcaptured.symm.trans hsome
    | some text =>
      obtain ⟨start, stop, htakes, rfl⟩ := (captured_eq_some hengine).mp hcaptured
      obtain ⟨hle, hstop⟩ := hwithin pattern _ group start stop htakes
      simp only [hengine, hcaptured] at hrun
      rw [hrun]
      refine searched_something hs htakes ?_
      rw [List.length_take, List.length_drop]
      omega

theorem atomic (hs : Sound s) : Atomic s := by
  constructor
  case calls => exact fun action hplain hfail => run_failed hs hplain hfail
  case formats =>
    intro pieces hfail
    rw [Action.run_eq _ hs] at hfail
    obtain ⟨hstate, hledger⟩ := formatText_failed hfail
    exact emptied hs hstate hledger
  case converts =>
    intro pieces hfail
    rw [Action.run_eq _ hs] at hfail
    obtain ⟨hstate, hledger⟩ := formatText_failed hfail
    exact emptied hs hstate hledger
  case searches => exact fun engine source pattern group hwithin => searched hs hwithin source pattern group
  case appends =>
    intro texts hfail
    rw [Action.run_eq _ hs] at hfail ⊢
    refine interrupted hs texts fun hnone => ?_
    simp [Action.onBytes, ListReport.appendTexts, hnone] at hfail
  case writes =>
    intro pieces hfail
    rw [Action.run_eq _ hs] at hfail ⊢
    refine interrupted hs (pieces.map Text.encode) fun hnone => ?_
    simp [Action.onBytes, ListReport.appendTexts, hnone] at hfail
  case looks => exact fun look => rfl

end ByteString

/-- Whatever calls led to an array or a string, a call on it that fails changes nothing, but for those
that are told apart. -/
theorem failed_calls_are_atomic :
    (∀ {α : Type} {a : SlotArray α}, a.Reachable → a.Atomic) ∧
      ∀ {s : ByteString}, s.Reachable → s.Atomic :=
  ⟨fun h => SlotArray.atomic h.sound, fun h => ByteString.atomic h.sound⟩

/-- A full array refuses an element, and a string that is too short for what a search copies is emptied. -/
theorem failed_calls_are_atomic_of_full :
    let full : SlotArray Nat := .ofFull [5]
    let short := ByteString.closed [7] []
    let whole : ByteString.Engine := fun _ => some fun bytes => some [some (0, bytes.length)]
    full.Reachable ∧ full.Atomic ∧ ((SlotArray.Action.insert 0 [6]).run full).state = full ∧
      short.Reachable ∧ short.Atomic ∧
      ByteString.Emptied short ((ByteString.Action.search whole (.closed [1, 2] []) "" 0).run short) := by
  intro full short whole
  have hfull : full.Reachable := SlotArray.reachable_ofFull [5] (by decide)
  have hshort : short.Reachable := ByteString.reachable_closed [7] (by decide)
  have hwithin : whole.Within := by
    rintro pattern bytes group start stop ⟨find, captures, hfind, hcaptures, hgroup⟩
    cases hfind
    cases hcaptures
    obtain ⟨hlt, hrange⟩ := List.getElem?_eq_some_iff.mp hgroup
    have hpair : (0, bytes.length) = (start, stop) := by simpa using hrange
    cases hpair
    exact ⟨Nat.zero_le _, Nat.le_refl _⟩
  have harray := failed_calls_are_atomic.1 hfull
  have hstring := failed_calls_are_atomic.2 hshort
  refine ⟨hfull, harray, ?_, hshort, hstring, ?_⟩
  · exact (harray.calls (.insert 0 [6]) fun answer h => nomatch h).1
  · exact (hstring.searches whole (.closed [1, 2] []) "" 0 hwithin).emptied rfl

/-- A writer that is stopped at its second piece keeps the first. -/
theorem stopped_writer_keeps_pieces :
    let short := ByteString.empty 2
    let report := (ByteString.Action.write [['a'], ['b', 'c']]).run short
    short.Reachable ∧ short.content = [] ∧ report.outcome = .value (.flag false) ∧ report.state.content = [0x61] := by
  intro short report
  have hshort : short.Reachable := ByteString.reachable_empty (by decide)
  have hreport : report =
      ⟨.value (.flag false), ⟨[0x61, 0, 0], 1⟩, [.alert (.insertOverflow .string 1 2 2)], []⟩ := by
    decide +kernel
  refine ⟨hshort, rfl, ?_, ?_⟩
  · rw [hreport]
  · rw [hreport]
    rfl

end FixedCapacity
