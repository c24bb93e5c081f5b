/-
  FixedCapacity.Proofs.Error.Provenance — the first place at which an error is noticed stays.

  An error is noticed over and over on its way up: by calls that note a place (`wraps`), and by
  functions nested in each other that hand it up, each at a line of its own (`Nested`). The place of
  its own counts first, then the first one noted (`location_wraps`), and no later one; nothing else
  of the error changes (`Noticed`).

  Handing a failed result up is noting one place for each function (`Nested.run_error`), and what
  the functions do with values plays no part in it. A value reaches the next function as it is.
-/

import FixedCapacity.Error.Path
import FixedCapacity.Error.Text
import FixedCapacity.Proofs.Error.Equality

namespace FixedCapacity.Error

/-- The error after a row of calls that note a place. -/
def wraps (e : Error) (places : List Location) : Error :=
  places.foldl (fun e place => e.wrap place.file place.line) e

/-- What is left of an error that was first noticed at a place. -/
structure Noticed (place : Location) (e passed : Error) : Prop where
  location : passed.location = some place
  kind : passed.kind = e.kind
  errno : passed.errno = e.errno
  category : passed.category = e.category
  message : ∀ describe, passed.message describe = e.message describe
  isNone : passed.isNone = e.isNone
  same : passed == e
  alike : ∀ other, (passed == other) = (e == other) ∧ (other == passed) = (other == e)
  digest : passed.digest = e.digest
  display : ∀ describe, passed.display describe =
    e.message describe ++ " (" ++ place.file ++ ":" ++ Text.decimal place.line ++ ")"

theorem location_wrap (e : Error) (file : String) (line : Nat) :
    (e.wrap file line).location = some (e.location.getD ⟨file, line⟩) := by
  rw [wrap]
  cases hplace : e.location with
  | none => rfl
  | some place => exact hplace

section Wraps

variable (e : Error) (place : Location) (places : List Location)

theorem wraps_cons : e.wraps (place :: places) = (e.wrap place.file place.line).wraps places := rfl

theorem wraps_append (later : List Location) : e.wraps (places ++ later) = (e.wraps places).wraps later :=
  List.foldl_append

@[simp] theorem kind_wraps : (e.wraps places).kind = e.kind := by
  induction places generalizing e with
  | nil => rfl
  | cons place places ih => rw [wraps_cons, ih, kind_wrap]

@[simp] theorem errno_wraps : (e.wraps places).errno = e.errno := by
  induction places generalizing e with
  | nil => rfl
  | cons place places ih => rw [wraps_cons, ih, errno_wrap]

/-- A place that is known stays, whoever notes others. -/
theorem location_wraps_of_known {e : Error} (h : e.location = some place) :
    (e.wraps places).location = some place := by
  induction places generalizing e with
  | nil => exact h
  | cons next places ih =>
    rw [wraps_cons]
    apply ih
    rw [location_wrap, h, Option.getD_some]

theorem location_wraps : (e.wraps (place :: places)).location = some (e.location.getD place) :=
  location_wraps_of_known _ places (location_wrap e place.file place.line)

end Wraps

theorem display_of_location {e : Error} {place : Location} (h : e.location = some place)
    (describe : Descriptions) :
    e.display describe = e.message describe ++ " (" ++ place.file ++ ":" ++ Text.decimal place.line ++ ")" := by
  apply String.toList_injective
  simp [display, pieces, h, Location.pieces, Text.decimal]

/-- An error shows what another one shows if it has its kind and its number, except for the place. -/
theorem noticed_of_kind_errno {e passed : Error} {place : Location} (hplace : passed.location = some place)
    (hkind : passed.kind = e.kind) (herrno : passed.errno = e.errno) : Noticed place e passed := by
  have hcongruent : Congruent passed e := congruent_of_kind_errno hkind herrno
  have hdigest : passed.digest = e.digest := hcongruent.digest
  constructor
  case location => exact hplace
  case kind => exact hkind
  case errno => exact herrno
  case category => exact hcongruent.category
  case message => exact hcongruent.message
  case isNone => exact hcongruent.isNone
  case same => exact (beq_iff_digest passed e).mpr hdigest
  case alike => exact fun other => ⟨beq_congr hdigest rfl, beq_congr rfl hdigest⟩
  case digest => exact hdigest
  case display =>
    intro describe
    rw [display_of_location hplace, hcongruent.message]

theorem noticed_wraps (e : Error) (place : Location) (places : List Location) :
    Noticed (e.location.getD place) e (e.wraps (place :: places)) :=
  noticed_of_kind_errno (location_wraps e place places) (kind_wraps e _) (errno_wraps e _)

/-! ## Functions nested in each other -/

/-- A line of a file that is known by its path. -/
structure Site where
  path : String
  line : Nat

/-- The place that is noted for a line: the name of the file without the directories. -/
def Site.location (s : Site) : Location := ⟨baseName s.path, s.line⟩

/-- Functions nested in each other. Each one takes the result of the one inside of it at some line,
where a failure ends it, and goes on with the value. -/
inductive Nested (α : Type) : Type → Type 1
  | innermost : Nested α α
  | around {β γ : Type} (inner : Nested α β) (site : Site) (rest : β → Except Error γ) : Nested α γ

namespace Nested

variable {α β γ : Type}

/-- What the outermost function returns if the innermost one returns `result`. -/
def run {β : Type} : Nested α β → Except Error α → Except Error β
  | .innermost, result => result
  | .around inner site rest, result => passUp (baseName site.path) site.line (inner.run result) >>= rest

/-- The places a failure of the innermost function passes, in this order. -/
def places {β : Type} : Nested α β → List Location
  | .innermost => []
  | .around inner site _ => inner.places ++ [site.location]

/-- Functions that hand on what they get, the outermost one first. -/
def forwarding : List Site → Nested α α
  | [] => .innermost
  | site :: sites => .around (forwarding sites) site .ok

/-- A failure is noticed once by each function and nothing else is done to it. -/
theorem run_error (n : Nested α β) (e : Error) : n.run (.error e) = .error (e.wraps n.places) := by
  induction n with
  | innermost => rfl
  | around inner site rest ih =>
    calc (inner.around site rest).run (.error e)
      _ = passUp (baseName site.path) site.line (.error (e.wraps inner.places)) >>= rest := by rw [run, ih]
      _ = .error ((e.wraps inner.places).wrap site.location.file site.location.line) := rfl
      _ = .error (e.wraps (inner.places ++ [site.location])) := by
        rw [wraps_append]
        rfl

/-- A value is what the function around goes on with. -/
theorem run_around_of_ok {inner : Nested α β} {result : Except Error α} {v : β}
    (h : inner.run result = .ok v) (site : Site) (rest : β → Except Error γ) :
    (inner.around site rest).run result = rest v := by
  rw [run, h]
  rfl

theorem run_forwarding_ok (sites : List Site) (v : α) : (forwarding sites).run (.ok v) = .ok v := by
  induction sites with
  | nil => rfl
  | cons site sites ih => exact run_around_of_ok ih site .ok

end Nested

/-- However often an error is noticed, directly or by functions that hand it up, the first place
stays, and with it all the rest of the error. A value is handed up as it is. -/
theorem first_place_survives (e : Error) :
    (∀ first later, Noticed (e.location.getD first) e (e.wraps (first :: later))) ∧
      (∀ {α β γ : Type} (inner : Nested α β) (site : Site) (rest : β → Except Error γ),
        ∃ passed, (inner.around site rest).run (.error e) = .error passed ∧
          Noticed (e.location.getD (inner.places.headD site.location)) e passed) ∧
      (∀ {α β γ : Type} (inner : Nested α β) (site : Site) (rest : β → Except Error γ) result v,
        inner.run result = .ok v → (inner.around site rest).run result = rest v) ∧
      ∀ {α : Type} (sites : List Site) (v : α), (Nested.forwarding sites).run (.ok v) = .ok v := by
  refine ⟨noticed_wraps e, ?_, ?_, ?_⟩
  · intro α β γ inner site rest
    refine ⟨e.wraps (inner.places ++ [site.location]), (inner.around site rest).run_error e, ?_⟩
    cases inner.places with
    | nil => exact noticed_wraps e site.location []
    | cons first later => exact noticed_wraps e first (later ++ [site.location])
  · intro α β γ inner site rest result v hvalue
    exact Nested.run_around_of_ok hvalue site rest
  · intro α sites v
    exact Nested.run_forwarding_ok sites v

/-- A number that two functions hand up is found where the inner one noticed it. -/
theorem first_place_survives_of_two :
    ∃ passed : Error,
      ((Nested.innermost (α := Nat)).around ⟨"src/tools/find.rs", 3⟩ .ok |>.around ⟨"src/main.rs", 9⟩ .ok).run
          (.error (ofErrno (-2))) = .error passed ∧
        passed.errno = 2 ∧ passed.location = some ⟨"find.rs", 3⟩ := by
  obtain ⟨-, hnested, -, -⟩ := first_place_survives (ofErrno (-2))
  obtain ⟨passed, hrun, hnoticed⟩ :=
    hnested ((Nested.innermost (α := Nat)).around ⟨"src/tools/find.rs", 3⟩ .ok) ⟨"src/main.rs", 9⟩ .ok
  refine ⟨passed, hrun, hnoticed.errno, ?_⟩
  rw [hnoticed.location]
  decide +kernel

end FixedCapacity.Error
