/-
  FixedCapacity.Proofs.Error.Conversion — pairs and results made into each other.

  A pair holds a value and an error, a result one of the two, so each way loses something. A pair that
  has been a result has a normal form: a success keeps its value and nothing of its error, a failure keeps
  its error and has the default for its value (`throughResult_of_isNone`, `throughResult_of_failed`). The
  error stays the same one either way, for what a success loses of it is only a place (`same_none`).

  A result that has been a pair is what it was, unless it failed with an error that is none: that one
  comes back as a success (`throughPair_error_of_isNone`). System calls never fail so (`checkReturn_neg`).
-/

import FixedCapacity.Proofs.Error.Equality

namespace FixedCapacity.Error

variable {α : Type} [Inhabited α]

/-- A pair that has been a result in between. -/
def Status.throughResult (p : Status α) : Status α := .ofExcept p.toExcept

/-- A result that has been a pair in between. -/
def throughPair (r : Except Error α) : Except Error α := (Status.ofExcept r).toExcept

/-! ## Pairs -/

namespace Status

section ToExcept

variable {α : Type} {p : Status α}

theorem toExcept_of_isNone (h : p.error.isNone) : p.toExcept = .ok p.value := if_pos h

theorem toExcept_of_failed (h : p.error.isNone = false) : p.toExcept = .error p.error :=
  if_neg (Bool.not_eq_true _ ▸ h)

end ToExcept

variable {p : Status α}

theorem throughResult_of_isNone (h : p.error.isNone) : p.throughResult = .ofValue p.value := by
  rw [throughResult, toExcept_of_isNone h]
  rfl

theorem throughResult_of_failed (h : p.error.isNone = false) : p.throughResult = ⟨default, p.error⟩ := by
  rw [throughResult, toExcept_of_failed h]
  rfl

end Status

/-- Of the errors that can be built, those that are none are all the same, wherever they were noticed. -/
theorem same_none {e : Error} (he : Built e) (h : e.isNone) : ofKind .none == e := by
  have hkind : e.kind = .none := of_decide_eq_true h
  have hplain : e.errno = 0 := by
    by_cases hnumber : e.errno = 0
    · exact hnumber
    · rw [he.regular.runtime hnumber] at hkind
      cases hkind
  rw [beq_iff_digest, digest, digest, hkind, hplain]
  rfl

theorem beq_self (e : Error) : e == e := (beq_iff_digest e e).mpr rfl

/-- What becomes of a pair that is made into a result, and of one that has been a result in between. -/
structure Status.Converts [BEq α] (p : Status α) : Prop where
  value : p.toExcept = .ok p.value ↔ p.error.isNone
  failure : p.toExcept = .error p.error ↔ p.error.isNone = false
  isOk : p.throughResult.isOk = p.isOk
  error : p.throughResult.error == p.error
  compared : (p.throughResult == p) = if p.error.isNone then p.value == p.value else default == p.value
  /-- The pair itself comes back from a success, and from a failure whose value was the default one. A
  value has to be equal to itself for that. -/
  same : p.value == p.value → (p.throughResult == p ↔ p.error.isNone ∨ default == p.value)
  settled : p.throughResult.throughResult = p.throughResult

/-- The error of a pair that has been a result is the one it had, so a comparison is one of the values. -/
theorem Status.throughResult_beq [BEq α] {p : Status α} (hp : Built p.error) :
    (p.throughResult == p) = if p.error.isNone then p.value == p.value else default == p.value := by
  rcases hnone : p.error.isNone with _ | _
  case false =>
    rw [throughResult_of_failed hnone]
    show (default == p.value && p.error == p.error) = (default == p.value)
    rw [beq_self, Bool.and_true]
  case true =>
    have hsame := same_none hp hnone
    rw [throughResult_of_isNone hnone]
    show (p.value == p.value && ofKind .none == p.error) = (p.value == p.value)
    rw [hsame, Bool.and_true]

theorem Status.converts [BEq α] {p : Status α} (hp : Built p.error) : p.Converts := by
  have hcompared := throughResult_beq hp
  rcases hnone : p.error.isNone with _ | _
  case false =>
    have hresult := toExcept_of_failed hnone
    have hback := throughResult_of_failed hnone
    constructor
    case value => rw [hresult, hnone]; exact iff_of_false nofun nofun
    case failure => rw [hnone]; exact iff_of_true hresult rfl
    case isOk => rw [hback]; rfl
    case error => rw [hback]; exact beq_self p.error
    case compared => exact hcompared
    case same =>
      intro _
      rw [hcompared, hnone]
      exact (or_iff_right nofun).symm
    case settled => rw [hback]; exact throughResult_of_failed hnone
  case true =>
    have hresult := toExcept_of_isNone hnone
    have hback := throughResult_of_isNone hnone
    constructor
    case value => rw [hnone]; exact iff_of_true hresult rfl
    case failure => rw [hresult, hnone]; exact iff_of_false nofun nofun
    case isOk => rw [hback]; exact hnone.symm
    case error => rw [hback]; exact same_none hp hnone
    case compared => exact hcompared
    case same =>
      intro hvalue
      rw [hcompared, hnone]
      exact iff_of_true hvalue (.inl rfl)
    case settled => rw [hback]; exact throughResult_of_isNone rfl

/-! ## Results -/

theorem throughPair_ok (v : α) : throughPair (.ok v) = .ok v := rfl

/-- A failure whose error is none becomes a success. -/
theorem throughPair_error_of_isNone {e : Error} (h : e.isNone) : throughPair (.error e) = .ok (default : α) :=
  Status.toExcept_of_isNone (p := ⟨default, e⟩) h

theorem throughPair_error {e : Error} (h : e.isNone = false) : throughPair (.error e : Except Error α) = .error e :=
  Status.toExcept_of_failed (p := ⟨default, e⟩) h

/-- What becomes of a result that has been a pair in between. -/
structure Converts (r : Except Error α) : Prop where
  same : throughPair r = r ↔ ∀ e, r = .error e → e.isNone = false
  turned : ∀ e, r = .error e → e.isNone → throughPair r = .ok default
  /-- No other failure becomes a success. -/
  only : ∀ e v, r = .error e → (throughPair r = .ok v ↔ e.isNone ∧ v = default)

theorem converts (r : Except Error α) : Converts r := by
  rcases r with e | v
  case ok => exact ⟨iff_of_true (throughPair_ok v) nofun, nofun, nofun⟩
  case error =>
    rcases hnone : e.isNone with _ | _
    case false =>
      have hback := throughPair_error (α := α) hnone
      constructor
      case same =>
        refine iff_of_true hback ?_
        rintro _ ⟨⟩
        exact hnone
      case turned =>
        rintro _ ⟨⟩ h
        rw [hnone] at h
        cases h
      case only =>
        rintro _ v ⟨⟩
        rw [hback, hnone]
        exact iff_of_false nofun nofun
    case true =>
      have hback := throughPair_error_of_isNone (α := α) hnone
      constructor
      case same =>
        rw [hback]
        refine iff_of_false nofun fun h => ?_
        rw [h e rfl] at hnone
        cases hnone
      case turned =>
        rintro _ ⟨⟩ -
        exact hback
      case only =>
        rintro _ v ⟨⟩
        rw [hback, hnone, Except.ok.injEq]
        exact ⟨fun h => ⟨rfl, h.symm⟩, fun h => h.2.symm⟩

/-! ## System calls -/

theorem checkReturn_nonneg {ret : Int} (h : 0 ≤ ret) : checkReturn ret = .ok ret := if_neg (Int.not_lt.mpr h)

theorem checkReturn_neg {ret : Int} (h : ret < 0) : checkReturn ret = .error (ofErrno ret) := if_pos h

theorem isNone_ofErrno {ret : Int} (h : ret ≠ 0) : (ofErrno ret).isNone = false := by
  simp [isNone, ofErrno, h]

theorem errno_ofErrno_neg {ret : Int} (h : ret < 0) : (ofErrno ret).errno = min (-ret) 0x7FFFFFFF := by
  show min (ret.natAbs : Int) 0x7FFFFFFF = _
  rw [Int.ofNat_natAbs_of_nonpos (Int.le_of_lt h)]

/-- What the value of a system call is checked to. -/
structure Checked (ret : Int) : Prop where
  value : checkReturn ret = .ok ret ↔ 0 ≤ ret
  /-- A failure has a number, its pair the default value, and it comes back from there. -/
  failure : ret < 0 → ∃ e, checkReturn ret = .error e ∧ Built e ∧ e.kind = .runtime ∧
    e.errno = min (-ret) 0x7FFFFFFF ∧ Status.ofExcept (checkReturn ret) = ⟨0, e⟩ ∧
    (Status.ofExcept (checkReturn ret)).isOk = false ∧ throughPair (checkReturn ret) = checkReturn ret
  never : ∀ e, checkReturn ret = .error e → e.isNone = false

theorem checked (ret : Int) : Checked ret := by
  rcases Int.lt_or_le ret 0 with hneg | hnonneg
  case inl =>
    have hnumber : ret ≠ 0 := Int.ne_of_lt hneg
    have hreturn := checkReturn_neg hneg
    have hfailed := isNone_ofErrno hnumber
    constructor
    case value => rw [hreturn]; exact iff_of_false nofun (Int.not_le.mpr hneg)
    case failure =>
      intro _
      rw [hreturn]
      exact ⟨ofErrno ret, rfl, .ofErrno ret, if_neg hnumber, errno_ofErrno_neg hneg, rfl, hfailed,
        throughPair_error hfailed⟩
    case never =>
      rw [hreturn]
      rintro _ ⟨⟩
      exact hfailed
  case inr =>
    have hreturn := checkReturn_nonneg hnonneg
    constructor
    case value => exact iff_of_true hreturn hnonneg
    case failure => exact fun hneg => absurd hnonneg (Int.not_le.mpr hneg)
    case never =>
      rw [hreturn]
      exact nofun

/-- Pairs and results turn into each other, and a failure becomes a success only if its error was none,
which the error of a system call never is. -/
theorem conversions_keep_failures :
    (∀ {α : Type} [Inhabited α] [BEq α] {p : Status α}, Built p.error → p.Converts) ∧
      (∀ {α : Type} [Inhabited α] (r : Except Error α), Converts r) ∧ ∀ ret, Checked ret :=
  ⟨Status.converts, converts, checked⟩

/-- A success that was noticed somewhere loses its place, a failure its value, and a failure that was none
comes back as a success. The least return value has the largest number. -/
theorem conversions_keep_failures_of_least :
    let noticed := (ofKind .none).wrap "open.rs" 4
    let success : Status Int := ⟨3, noticed⟩
    let late : Status Int := ⟨3, ofKind .timeout⟩
    Built success.error ∧ Built late.error ∧ success.throughResult == success ∧
      success.throughResult.error.location = none ∧ (late.throughResult == late) = false ∧
      late.throughResult.isOk = false ∧ throughPair (.error noticed) = .ok (0 : Int) ∧
      ∃ e, checkReturn (-0x80000000) = .error e ∧ e.errno = 0x7FFFFFFF := by
  intro noticed success late
  have hsuccess : Built success.error := .wrap (.ofKind _) _ _
  have hlate : Built late.error := .ofKind _
  obtain ⟨hpairs, hresults, hcalls⟩ := conversions_keep_failures
  have hdiffer : ¬ late.throughResult == late := by
    rw [(hpairs hlate).same (by decide)]
    decide
  obtain ⟨e, hreturn, -, -, hnumber, -⟩ := (hcalls (-0x80000000)).failure (by decide)
  exact ⟨hsuccess, hlate, ((hpairs hsuccess).same (by decide)).mpr (.inl rfl), rfl,
    Bool.not_eq_true _ ▸ hdiffer, (hpairs hlate).isOk.trans rfl, (hresults (.error noticed)).turned _ rfl rfl, e,
    hreturn, hnumber.trans (by decide)⟩

end FixedCapacity.Error
