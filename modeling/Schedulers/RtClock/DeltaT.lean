import Schedulers.Support.SleepCalls
import Schedulers.Support.CIntegers

/-!
# `delta_t` of `posix_clock.c`

The difference of two times, in `int` arithmetic and by cases on the signs and the
ranges of the two differences. A run has no result when a signed operation overflows.
-/

namespace Schedulers.RtClock

open Schedulers.SleepCalls Schedulers.CIntegers

set_option autoImplicit false

def ok : Int := 0

def error : Int := -1

/-- The return code and the content of `*delta_t` after the call, which had the content
`delta` before it. -/
def deltaT (stop start delta : Timespec) : Option (Int × Timespec) := do
  let dtSec := toSigned 32 (← signed 64 (stop.tvSec - start.tvSec))
  let dtNsec := toSigned 32 (← signed 64 (stop.tvNsec - start.tvNsec))
  -- case 1 - less than a second of change
  if dtSec = 0 then
    if 0 ≤ dtNsec ∧ dtNsec < nanosecPerSec then
      return (ok, ⟨0, dtNsec⟩)
    else if dtNsec > nanosecPerSec then
      return (ok, ⟨1, ← signed 32 (dtNsec - nanosecPerSec)⟩)
    else
      return (error, delta)
  -- case 2 - more than a second of change, check for roll-over
  else if dtSec > 0 then
    if 0 ≤ dtNsec ∧ dtNsec < nanosecPerSec then
      return (ok, ⟨dtSec, dtNsec⟩)
    else if dtNsec > nanosecPerSec then
      return (ok, ⟨← signed 64 (delta.tvSec + 1), ← signed 32 (dtNsec - nanosecPerSec)⟩)
    else
      return (ok, ⟨← signed 32 (dtSec - 1), ← signed 32 (nanosecPerSec + dtNsec)⟩)
  else
    return (ok, delta)

/-- The branches, on differences that no conversion has changed. -/
def deltaBranches (dtSec dtNsec : Int) (delta : Timespec) : Option (Int × Timespec) :=
  if dtSec = 0 then
    if 0 ≤ dtNsec ∧ dtNsec < nanosecPerSec then some (ok, ⟨0, dtNsec⟩)
    else if dtNsec > nanosecPerSec then some (ok, ⟨1, dtNsec - nanosecPerSec⟩)
    else some (error, delta)
  else if dtSec > 0 then
    if 0 ≤ dtNsec ∧ dtNsec < nanosecPerSec then some (ok, ⟨dtSec, dtNsec⟩)
    else if dtNsec > nanosecPerSec then
      (signed 64 (delta.tvSec + 1)).map fun tvSec => (ok, ⟨tvSec, dtNsec - nanosecPerSec⟩)
    else some (ok, ⟨dtSec - 1, nanosecPerSec + dtNsec⟩)
  else some (ok, delta)

variable {stop start delta : Timespec}

theorem delta_t_eq_branches (seconds : FitsSigned 32 (stop.tvSec - start.tvSec))
    (fraction : FitsSigned 32 (stop.tvNsec - start.tvNsec)) :
    deltaT stop start delta =
      deltaBranches (stop.tvSec - start.tvSec) (stop.tvNsec - start.tvNsec) delta := by
  have longSeconds : FitsSigned 64 (stop.tvSec - start.tvSec) := by
    simp only [FitsSigned] at *
    omega
  have longFraction : FitsSigned 64 (stop.tvNsec - start.tvNsec) := by
    simp only [FitsSigned] at *
    omega
  unfold deltaT deltaBranches
  rw [signed_of_fits longSeconds, signed_of_fits longFraction]
  simp only [Option.bind_eq_bind, Option.bind_some, toSigned_of_fits seconds,
    toSigned_of_fits fraction]
  generalize stop.tvSec - start.tvSec = dtSec at *
  generalize stop.tvNsec - start.tvNsec = dtNsec at *
  have above : dtNsec > nanosecPerSec → FitsSigned 32 (dtNsec - nanosecPerSec) := by
    simp only [FitsSigned, nanosecPerSec] at *
    omega
  have below : ¬dtNsec > nanosecPerSec → FitsSigned 32 (nanosecPerSec + dtNsec) := by
    simp only [FitsSigned, nanosecPerSec] at *
    omega
  have earlier : dtSec > 0 → FitsSigned 32 (dtSec - 1) := by
    simp only [FitsSigned] at *
    omega
  split_ifs with same within beyond later within beyond
  · rfl
  · rw [signed_of_fits (above beyond)]
    rfl
  · rfl
  · rfl
  · rw [signed_of_fits (above beyond)]
    cases signed 64 (delta.tvSec + 1) <;> rfl
  · rw [signed_of_fits (earlier later), signed_of_fits (below beyond)]
    rfl
  · rfl

/-- An error, with the old content, exactly when `stop` is earlier than `start`, and
else the valid time from `start` to `stop`. -/
def Truthful (stop start delta : Timespec) : Prop :=
  (deltaT stop start delta = some (error, delta) ↔ stop.nanoseconds < start.nanoseconds) ∧
  (start.nanoseconds ≤ stop.nanoseconds → ∃ result, deltaT stop start delta = some (ok, result) ∧
    result.Normalized ∧ start.nanoseconds + result.nanoseconds = stop.nanoseconds)

def trueDelta (elapsed : Int) (delta : Timespec) : Int × Timespec :=
  if elapsed < 0 then (error, delta) else (ok, .ofNanoseconds elapsed)

variable {elapsed dtSec dtNsec : Int}

theorem error_true_iff : (error, delta) = trueDelta elapsed delta ↔ elapsed < 0 := by
  unfold trueDelta
  split_ifs with earlier
  · simp [earlier]
  · simp [earlier, ok, error]

theorem ok_true_iff {result : Timespec} :
    (ok, result) = trueDelta elapsed delta ↔
      0 ≤ elapsed ∧ result.Normalized ∧ result.nanoseconds = elapsed := by
  unfold trueDelta
  split_ifs with earlier
  · have later : ¬0 ≤ elapsed := by omega
    simp [later, ok, error]
  · have later : 0 ≤ elapsed := by omega
    simp only [Prod.mk.injEq, true_and, later]
    constructor
    · intro same
      rw [same]
      exact ⟨Timespec.normalized_ofNanoseconds elapsed, Timespec.nanoseconds_ofNanoseconds elapsed⟩
    · intro ⟨valid, denotes⟩
      exact valid.eq_ofNanoseconds denotes

theorem truthful_iff :
    Truthful stop start delta ↔
      deltaT stop start delta = some (trueDelta (stop.nanoseconds - start.nanoseconds) delta) := by
  unfold Truthful
  constructor
  · intro ⟨order, value⟩
    by_cases earlier : stop.nanoseconds < start.nanoseconds
    · rw [order.mpr earlier, Option.some.injEq, error_true_iff]
      omega
    · obtain ⟨result, returned, valid, sum⟩ := value (by omega)
      rw [returned, Option.some.injEq, ok_true_iff]
      exact ⟨by omega, valid, by omega⟩
  · intro returned
    rw [returned, Option.some.injEq, eq_comm, error_true_iff]
    refine ⟨by omega, fun later => ?_⟩
    have notEarlier : ¬stop.nanoseconds - start.nanoseconds < 0 := by omega
    refine ⟨.ofNanoseconds (stop.nanoseconds - start.nanoseconds), ?_, ?_, ?_⟩
    · rw [trueDelta, if_neg notEarlier]
    · exact Timespec.normalized_ofNanoseconds _
    · rw [Timespec.nanoseconds_ofNanoseconds]
      omega

/-- The branch for these differences is the one they need, and the second of a carry is
added to the right content. -/
def ProperBranch (dtSec dtNsec : Int) (delta : Timespec) : Prop :=
  (dtSec = 0 ∧ dtNsec ≠ nanosecPerSec) ∨
  (0 < dtSec ∧ -nanosecPerSec ≤ dtNsec ∧ dtNsec < nanosecPerSec) ∨
  (0 < dtSec ∧ nanosecPerSec < dtNsec ∧ delta.tvSec = dtSec) ∨
  (dtSec = -1 ∧ nanosecPerSec ≤ dtNsec ∧ delta = ⟨0, dtNsec - nanosecPerSec⟩)

instance (dtSec dtNsec : Int) (delta : Timespec) : Decidable (ProperBranch dtSec dtNsec delta) :=
  inferInstanceAs (Decidable (
    (dtSec = 0 ∧ dtNsec ≠ nanosecPerSec) ∨
    (0 < dtSec ∧ -nanosecPerSec ≤ dtNsec ∧ dtNsec < nanosecPerSec) ∨
    (0 < dtSec ∧ nanosecPerSec < dtNsec ∧ delta.tvSec = dtSec) ∨
    (dtSec = -1 ∧ nanosecPerSec ≤ dtNsec ∧ delta = ⟨0, dtNsec - nanosecPerSec⟩)))

theorem carried_second_true_iff (seconds : FitsSigned 32 dtSec) (later : 0 < dtSec)
    (carries : nanosecPerSec < dtNsec) (greatest : dtNsec < 2 * nanosecPerSec) :
    ((signed 64 (delta.tvSec + 1)).map fun tvSec =>
          (ok, (⟨tvSec, dtNsec - nanosecPerSec⟩ : Timespec))) =
        some (trueDelta (dtSec * nanosecPerSec + dtNsec) delta) ↔
      delta.tvSec = dtSec := by
  simp only [FitsSigned, nanosecPerSec] at *
  constructor
  · intro returned
    obtain ⟨tvSec, added, same⟩ := Option.map_eq_some_iff.mp returned
    have sum := (signed_eq_some.mp added).2
    have denotes := (ok_true_iff.mp same).2.2
    simp only [Timespec.nanoseconds, nanosecPerSec] at denotes
    omega
  · intro content
    have fits : FitsSigned 64 (delta.tvSec + 1) := by
      simp only [FitsSigned]
      omega
    rw [signed_of_fits fits, Option.map_some, Option.some.injEq, ok_true_iff]
    simp only [Timespec.Normalized, Timespec.nanoseconds, nanosecPerSec]
    omega

theorem delta_branches_true_iff (seconds : FitsSigned 32 dtSec)
    (least : -(2 * nanosecPerSec) < dtNsec) (greatest : dtNsec < 2 * nanosecPerSec) :
    deltaBranches dtSec dtNsec delta =
        some (trueDelta (dtSec * nanosecPerSec + dtNsec) delta) ↔
      ProperBranch dtSec dtNsec delta := by
  unfold deltaBranches ProperBranch
  split_ifs with same within beyond later within beyond
  · rw [Option.some.injEq, ok_true_iff]
    simp only [Timespec.Normalized, Timespec.nanoseconds, nanosecPerSec] at *
    omega
  · rw [Option.some.injEq, ok_true_iff]
    simp only [Timespec.Normalized, Timespec.nanoseconds, nanosecPerSec] at *
    omega
  · rw [Option.some.injEq, error_true_iff]
    simp only [nanosecPerSec] at *
    omega
  · rw [Option.some.injEq, ok_true_iff]
    simp only [Timespec.Normalized, Timespec.nanoseconds, nanosecPerSec, and_true] at *
    omega
  · rw [carried_second_true_iff seconds later beyond greatest]
    simp only [nanosecPerSec] at *
    omega
  · rw [Option.some.injEq, ok_true_iff]
    simp only [Timespec.Normalized, Timespec.nanoseconds, nanosecPerSec] at *
    omega
  · obtain ⟨tvSec, tvNsec⟩ := delta
    rw [Option.some.injEq, ok_true_iff, Timespec.mk.injEq]
    simp only [Timespec.Normalized, Timespec.nanoseconds, nanosecPerSec] at *
    omega

/-- The law holds of a call exactly when it takes a proper branch. -/
theorem delta_t_truthful_iff (stop start delta : Timespec)
    (seconds : FitsSigned 32 (stop.tvSec - start.tvSec))
    (stopFraction : 0 ≤ stop.tvNsec ∧ stop.tvNsec < 2 * nanosecPerSec)
    (startFraction : 0 ≤ start.tvNsec ∧ start.tvNsec < 2 * nanosecPerSec) :
    Truthful stop start delta ↔
      ProperBranch (stop.tvSec - start.tvSec) (stop.tvNsec - start.tvNsec) delta := by
  have least : -(2 * nanosecPerSec) < stop.tvNsec - start.tvNsec := by omega
  have greatest : stop.tvNsec - start.tvNsec < 2 * nanosecPerSec := by omega
  have fraction : FitsSigned 32 (stop.tvNsec - start.tvNsec) := by
    simp only [FitsSigned, nanosecPerSec] at *
    omega
  have elapsed : stop.nanoseconds - start.nanoseconds =
      (stop.tvSec - start.tvSec) * nanosecPerSec + (stop.tvNsec - start.tvNsec) := by
    simp only [Timespec.nanoseconds, Int.sub_mul]
    omega
  rw [truthful_iff, delta_t_eq_branches seconds fraction, elapsed]
  exact delta_branches_true_iff seconds least greatest

/-- Nine seconds and a fraction, with a borrow. -/
theorem delta_t_truthful_iff_borrow :
    Truthful ⟨10, 200000000⟩ ⟨0, 900000000⟩ ⟨77, 5⟩ :=
  (delta_t_truthful_iff ⟨10, 200000000⟩ ⟨0, 900000000⟩ ⟨77, 5⟩ (by decide) (by decide)
    (by decide)).mpr (by decide)

/-- A carry comes with the old second, and an earlier stop with the old content. -/
theorem delta_t_leaks_old_content :
    (deltaT ⟨1, 1500000000⟩ ⟨0, 0⟩ ⟨7, 0⟩ = some (ok, ⟨8, 500000000⟩) ∧
      ¬Truthful ⟨1, 1500000000⟩ ⟨0, 0⟩ ⟨7, 0⟩) ∧
    (deltaT ⟨3, 0⟩ ⟨5, 0⟩ ⟨7, 0⟩ = some (ok, ⟨7, 0⟩) ∧ ¬Truthful ⟨3, 0⟩ ⟨5, 0⟩ ⟨7, 0⟩) := by
  simp only [truthful_iff]
  decide

theorem delta_t_of_normalized (later : start.nanoseconds ≤ stop.nanoseconds)
    (stopValid : stop.Normalized) (startValid : start.Normalized)
    (seconds : stop.tvSec - start.tvSec < 2 ^ 31) :
    FitsSigned 32 (stop.tvSec - start.tvSec) ∧ FitsSigned 32 (stop.tvNsec - start.tvNsec) ∧
      deltaT stop start delta =
        some (ok, .ofNanoseconds (stop.nanoseconds - start.nanoseconds)) := by
  simp only [Timespec.Normalized, nanosecPerSec] at stopValid startValid
  have secondsFit : FitsSigned 32 (stop.tvSec - start.tvSec) := by
    simp only [FitsSigned, Timespec.nanoseconds, nanosecPerSec] at *
    omega
  have fractionFits : FitsSigned 32 (stop.tvNsec - start.tvNsec) := by
    simp only [FitsSigned]
    omega
  have forward : 0 ≤ stop.tvSec - start.tvSec := by
    simp only [Timespec.nanoseconds, nanosecPerSec] at later
    omega
  have proper : ProperBranch (stop.tvSec - start.tvSec) (stop.tvNsec - start.tvNsec) delta := by
    simp only [ProperBranch, nanosecPerSec]
    omega
  refine ⟨secondsFit, fractionFits, ?_⟩
  have returned := truthful_iff.mp ((delta_t_truthful_iff stop start delta secondsFit
    (by simp only [nanosecPerSec]; omega) (by simp only [nanosecPerSec]; omega)).mpr proper)
  have notEarlier : ¬stop.nanoseconds - start.nanoseconds < 0 := by omega
  rw [returned, trueDelta, if_neg notEarlier]

/-- The two calls at the end of an iteration: the return codes, and what is left in
`rtclk_dt` and `delay_error`. No code is looked at. -/
def measureDelay (stop start requested rtclkDt delayError : Timespec) :
    Option ((Int × Timespec) × (Int × Timespec)) := do
  let first ← deltaT stop start rtclkDt
  let second ← deltaT first.2 requested delayError
  return (first, second)

/-- Both calls succeed, their results are valid and add up to the stop time, and no
difference is changed by its conversion to `int`. -/
def OversleepExact (stop start requested rtclkDt delayError : Timespec) : Prop :=
  ∃ elapsed oversleep, measureDelay stop start requested rtclkDt delayError =
      some ((ok, elapsed), (ok, oversleep)) ∧
    elapsed.Normalized ∧ oversleep.Normalized ∧
    start.nanoseconds + elapsed.nanoseconds = stop.nanoseconds ∧
    start.nanoseconds + requested.nanoseconds + oversleep.nanoseconds = stop.nanoseconds ∧
    (FitsSigned 32 (stop.tvSec - start.tvSec) ∧ FitsSigned 32 (stop.tvNsec - start.tvNsec)) ∧
    FitsSigned 32 (elapsed.tvSec - requested.tvSec) ∧
    FitsSigned 32 (elapsed.tvNsec - requested.tvNsec)

theorem oversleep_is_exact (stop start requested rtclkDt delayError : Timespec)
    (stopValid : stop.Normalized) (startValid : start.Normalized)
    (requestedValid : requested.Normalized) (later : start.nanoseconds ≤ stop.nanoseconds)
    (slept : requested.nanoseconds ≤ stop.nanoseconds - start.nanoseconds)
    (seconds : stop.tvSec - start.tvSec < 2 ^ 31)
    (oversleptSeconds :
      (Timespec.ofNanoseconds (stop.nanoseconds - start.nanoseconds)).tvSec - requested.tvSec <
        2 ^ 31) :
    OversleepExact stop start requested rtclkDt delayError := by
  obtain ⟨secondsFit, fractionFits, first⟩ :=
    @delta_t_of_normalized _ _ rtclkDt later stopValid startValid seconds
  have elapsedValid := Timespec.normalized_ofNanoseconds (stop.nanoseconds - start.nanoseconds)
  have elapsedValue := Timespec.nanoseconds_ofNanoseconds (stop.nanoseconds - start.nanoseconds)
  generalize Timespec.ofNanoseconds (stop.nanoseconds - start.nanoseconds) = elapsed at *
  obtain ⟨restSecondsFit, restFractionFits, second⟩ :=
    @delta_t_of_normalized elapsed requested delayError (by omega) elapsedValid requestedValid
      oversleptSeconds
  refine ⟨elapsed, .ofNanoseconds (elapsed.nanoseconds - requested.nanoseconds), ?_, elapsedValid,
    Timespec.normalized_ofNanoseconds _, by omega, ?_, ⟨secondsFit, fractionFits⟩,
    restSecondsFit, restFractionFits⟩
  · rw [measureDelay, first, Option.bind_eq_bind, Option.bind_some, second]
    rfl
  · rw [Timespec.nanoseconds_ofNanoseconds]
    omega

/-- A sleep of 10 ms that took 10.5 ms, with a borrow in the first call. -/
theorem oversleep_is_exact_ten_millisecs :
    OversleepExact ⟨8, 5500000⟩ ⟨7, 995000000⟩ ⟨0, 10000000⟩ ⟨0, 0⟩ ⟨0, 0⟩ :=
  oversleep_is_exact ⟨8, 5500000⟩ ⟨7, 995000000⟩ ⟨0, 10000000⟩ ⟨0, 0⟩ ⟨0, 0⟩ (by decide)
    (by decide) (by decide) (by decide) (by decide) (by decide) (by decide)

/-- When less than nothing was requested the clock may have gone back: the first call
then reports an error. -/
theorem oversleep_of_negative_request :
    (Timespec.Normalized ⟨4, 0⟩ ∧ Timespec.Normalized ⟨4, 1⟩ ∧ Timespec.Normalized ⟨-1, 0⟩ ∧
      Timespec.nanoseconds ⟨-1, 0⟩ ≤ Timespec.nanoseconds ⟨4, 0⟩ - Timespec.nanoseconds ⟨4, 1⟩) ∧
    ¬OversleepExact ⟨4, 0⟩ ⟨4, 1⟩ ⟨-1, 0⟩ ⟨0, 0⟩ ⟨0, 0⟩ := by
  refine ⟨by decide, ?_⟩
  intro ⟨elapsed, oversleep, measured, _⟩
  have first : measureDelay ⟨4, 0⟩ ⟨4, 1⟩ ⟨-1, 0⟩ ⟨0, 0⟩ ⟨0, 0⟩ =
      some ((error, ⟨0, 0⟩), (ok, ⟨1, 0⟩)) := by decide
  rw [first] at measured
  simp [ok, error] at measured

end Schedulers.RtClock
