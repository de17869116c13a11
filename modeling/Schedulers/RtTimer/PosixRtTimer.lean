import Schedulers.Support.SleepCalls
import Schedulers.Support.CIntegers

/-!
# The interval timer of `posix_rt_timer.c`

`main` computes the period from a number of milliseconds, in `int`, and arms the timer
with it; the signal handler adds up how far each tick is from the period.
-/

namespace Schedulers.RtTimer

open Schedulers.SleepCalls Schedulers.CIntegers

set_option autoImplicit false

def nsecPerMsec : Int := 1000000

structure Itimerspec where
  itInterval : Timespec
  itValue : Timespec
  deriving DecidableEq, Repr

structure TimerSetup where
  periodNsecs : Int
  itime : Itimerspec
  deriving DecidableEq, Repr

/-- `main` up to `timer_settime`; the argument is `argv[1]` as `atoi` reads it. -/
def setUp (argument : Option Int) : Option TimerSetup := do
  let periodMillisecs := argument.getD 10
  let periodNsecs ← signed 32 (periodMillisecs * nsecPerMsec)
  let intervalNsec ← signed 32 (periodMillisecs * nsecPerMsec)
  let valueNsec ← signed 32 (periodMillisecs * nsecPerMsec)
  return {
    periodNsecs := toUnsigned 64 periodNsecs
    itime := { itInterval := ⟨0, intervalNsec⟩, itValue := ⟨0, valueNsec⟩ } }

/-- `timer_settime` does not reject these times. -/
def Itimerspec.Accepted (itime : Itimerspec) : Prop :=
  itime.itInterval.Normalized ∧ itime.itValue.Normalized

def ArmedAsRequested (millisecs : Int) : Prop :=
  ∃ setup, setUp (some millisecs) = some setup ∧
    setup.periodNsecs = millisecs * nsecPerMsec ∧ setup.itime.Accepted ∧
    setup.itime.itInterval.nanoseconds = millisecs * nsecPerMsec ∧
    setup.itime.itValue.nanoseconds = millisecs * nsecPerMsec

theorem set_up_of_fits {millisecs : Int} (fits : FitsSigned 32 (millisecs * nsecPerMsec)) :
    setUp (some millisecs) = some {
      periodNsecs := toUnsigned 64 (millisecs * nsecPerMsec)
      itime := {
        itInterval := ⟨0, millisecs * nsecPerMsec⟩
        itValue := ⟨0, millisecs * nsecPerMsec⟩ } } := by
  simp only [setUp, Option.getD_some, signed_of_fits fits, Option.bind_eq_bind, Option.bind_some,
    Option.pure_def]

theorem set_up_cases {millisecs : Int} {setup : TimerSetup}
    (arranged : setUp (some millisecs) = some setup) :
    setup.itime = {
      itInterval := ⟨0, millisecs * nsecPerMsec⟩
      itValue := ⟨0, millisecs * nsecPerMsec⟩ } := by
  by_cases fits : FitsSigned 32 (millisecs * nsecPerMsec)
  · rw [set_up_of_fits fits, Option.some.injEq] at arranged
    rw [← arranged]
  · simp [setUp, signed, fits] at arranged

/-- With the seconds fixed at zero the timer can be armed for less than one second. -/
theorem timer_armed_iff (millisecs : Int) :
    ArmedAsRequested millisecs ↔ 0 ≤ millisecs ∧ millisecs ≤ 999 := by
  constructor
  · intro ⟨setup, arranged, _, ⟨intervalValid, _⟩, _, _⟩
    rw [set_up_cases arranged] at intervalValid
    simp only [Timespec.Normalized, nsecPerMsec, nanosecPerSec] at intervalValid
    omega
  · intro range
    have fits : FitsSigned 32 (millisecs * nsecPerMsec) := by
      simp only [FitsSigned, nsecPerMsec]
      omega
    have unsigned : toUnsigned 64 (millisecs * nsecPerMsec) = millisecs * nsecPerMsec := by
      apply toUnsigned_of_fits
      · simp only [nsecPerMsec]
        omega
      · simp only [nsecPerMsec]
        omega
    have valid : Timespec.Normalized ⟨0, millisecs * nsecPerMsec⟩ := by
      simp only [Timespec.Normalized, nsecPerMsec, nanosecPerSec]
      omega
    have denotes : Timespec.nanoseconds ⟨0, millisecs * nsecPerMsec⟩ = millisecs * nsecPerMsec := by
      simp only [Timespec.nanoseconds, nanosecPerSec]
      omega
    exact ⟨_, set_up_of_fits fits, unsigned, ⟨valid, valid⟩, denotes, denotes⟩

/-- One second is rejected, and from 2148 ms on the product overflows. -/
theorem timer_of_a_second :
    (setUp (some 1000) = some {
        periodNsecs := 1000000000
        itime := { itInterval := ⟨0, 1000000000⟩, itValue := ⟨0, 1000000000⟩ } } ∧
      ¬ArmedAsRequested 1000) ∧
    (setUp (some 2148) = none ∧ ¬ArmedAsRequested 2148) := by
  have overflows : setUp (some 2148) = none := by decide
  refine ⟨⟨by decide, ?_⟩, overflows, ?_⟩
  · intro ⟨setup, arranged, _, ⟨intervalValid, _⟩, _, _⟩
    rw [set_up_cases arranged] at intervalValid
    exact absurd intervalValid (by decide)
  · intro ⟨setup, arranged, _⟩
    rw [overflows] at arranged
    cases arranged

/-- Without an argument the period is 10 ms. -/
example : setUp none = setUp (some 10) := rfl

structure TimerState where
  periodNsecs : Int
  tickCount : Int
  rtclkTime : Timespec
  rtclkLastTime : Timespec
  tickError : Int
  accumJitterNsec : Int
  deriving DecidableEq, Repr

/-- After the set-up, with the start time as the last one. -/
def TimerState.armed (periodNsecs : Int) (rtclkStartTime : Timespec) : TimerState where
  periodNsecs := periodNsecs
  tickCount := 0
  rtclkTime := ⟨0, 0⟩
  rtclkLastTime := rtclkStartTime
  tickError := 0
  accumJitterNsec := 0

/-- The handler, when `clock_gettime` reads `rtclkTime`. The subtraction of the period
is unsigned and its result goes to an `int`; `abs` of the least `int` overflows. -/
def monitorIntervalExpired (state : TimerState) (rtclkTime : Timespec) : Option TimerState := do
  let deltaSec ← signed 64 (rtclkTime.tvSec - state.rtclkLastTime.tvSec)
  let deltaNsec ← signed 64 (rtclkTime.tvNsec - state.rtclkLastTime.tvNsec)
  let scaledSec ← signed 64 (deltaSec * nanosecPerSec)
  let deltaTime ← signed 64 (scaledSec + deltaNsec)
  let tickError := toSigned 32 (toUnsigned 64 (toUnsigned 64 deltaTime - state.periodNsecs))
  let jitter ← signed 32 tickError.natAbs
  return {
    periodNsecs := state.periodNsecs
    tickCount := toUnsigned 64 (state.tickCount + 1)
    rtclkTime := rtclkTime
    rtclkLastTime := rtclkTime
    tickError := tickError
    accumJitterNsec := toUnsigned 64 (state.accumJitterNsec + toUnsigned 64 jitter) }

def runTicks (state : TimerState) (readings : List Timespec) : Option TimerState :=
  readings.foldlM monitorIntervalExpired state

def lateness (period : Int) (last reading : Timespec) : Int :=
  reading.nanoseconds - last.nanoseconds - period

def trueJitter (period : Int) : Timespec → List Timespec → Int
  | _, [] => 0
  | last, reading :: readings =>
      (lateness period last reading).natAbs + trueJitter period reading readings

/-- No tick is so late that an `int` cannot hold it. -/
def EachFits (period : Int) : Timespec → List Timespec → Prop
  | _, [] => True
  | last, reading :: readings =>
      lateness period last reading < 2 ^ 31 ∧ EachFits period reading readings

variable {state next : TimerState} {reading : Timespec}

theorem elapsed_fields (last reading : Timespec) :
    (reading.tvSec - last.tvSec) * nanosecPerSec + (reading.tvNsec - last.tvNsec) =
      reading.nanoseconds - last.nanoseconds := by
  simp only [Timespec.nanoseconds, Int.sub_mul]
  omega

/-- The unsigned detour of the subtraction ends in the low bits of the lateness. -/
theorem tick_error_eq (period elapsed : Int) :
    toSigned 32 (toUnsigned 64 (toUnsigned 64 elapsed - period)) =
      toSigned 32 (elapsed - period) := by
  rw [toUnsigned_sub, toSigned_toUnsigned (by decide)]

def countedJitter (period : Int) (last reading : Timespec) : Int :=
  (toSigned 32 (lateness period last reading)).natAbs

theorem expired_cases (ticked : monitorIntervalExpired state reading = some next) :
    countedJitter state.periodNsecs state.rtclkLastTime reading < 2 ^ 31 ∧
      next.periodNsecs = state.periodNsecs ∧ next.rtclkLastTime = reading ∧
      next.tickCount = toUnsigned 64 (state.tickCount + 1) ∧
      next.accumJitterNsec = toUnsigned 64
        (state.accumJitterNsec + countedJitter state.periodNsecs state.rtclkLastTime reading) := by
  simp only [monitorIntervalExpired, Option.bind_eq_bind, Option.bind_eq_some_iff, signed_eq_some,
    Option.pure_def, Option.some.injEq] at ticked
  obtain ⟨deltaSec, ⟨_, rfl⟩, deltaNsec, ⟨_, rfl⟩, scaledSec, ⟨_, rfl⟩, deltaTime, ⟨_, rfl⟩,
    jitter, ⟨fits, rfl⟩, rfl⟩ := ticked
  rw [elapsed_fields, tick_error_eq] at fits ⊢
  have small : countedJitter state.periodNsecs state.rtclkLastTime reading < 2 ^ 31 := by
    simp only [FitsSigned] at fits
    simp only [countedJitter, lateness]
    omega
  refine ⟨small, rfl, rfl, rfl, ?_⟩
  have whole : toUnsigned 64 (countedJitter state.periodNsecs state.rtclkLastTime reading) =
      countedJitter state.periodNsecs state.rtclkLastTime reading := by
    apply toUnsigned_of_fits
    · simp only [countedJitter]
      omega
    · omega
  rw [← whole]
  rfl

/-- The clock does not go back, and its readings are valid. -/
structure TickOrder (period : Int) (last reading : Timespec) : Prop where
  period : 0 < period ∧ period < nanosecPerSec
  later : last.nanoseconds ≤ reading.nanoseconds
  lastValid : last.Normalized
  valid : reading.Normalized

theorem TickOrder.early {period : Int} {last : Timespec} (order : TickOrder period last reading) :
    -nanosecPerSec < lateness period last reading := by
  have short := order.period.2
  have later := order.later
  simp only [lateness]
  omega

theorem counted_jitter_of_fits {period : Int} {last : Timespec}
    (order : TickOrder period last reading) (fits : lateness period last reading < 2 ^ 31) :
    countedJitter period last reading = (lateness period last reading).natAbs := by
  have early := order.early
  have inRange : FitsSigned 32 (lateness period last reading) := by
    simp only [FitsSigned, nanosecPerSec] at *
    omega
  rw [countedJitter, toSigned_of_fits inRange]

theorem counted_jitter_bound {period : Int} {last : Timespec}
    (order : TickOrder period last reading) (small : countedJitter period last reading < 2 ^ 31) :
    countedJitter period last reading ≤ (lateness period last reading).natAbs ∧
      (countedJitter period last reading = (lateness period last reading).natAbs ↔
        lateness period last reading < 2 ^ 31) := by
  by_cases fits : lateness period last reading < 2 ^ 31
  · have same := counted_jitter_of_fits order fits
    exact ⟨Int.le_of_eq same, iff_of_true same fits⟩
  · omega

theorem expired_of_fits (order : TickOrder state.periodNsecs state.rtclkLastTime reading)
    (fits : lateness state.periodNsecs state.rtclkLastTime reading < 2 ^ 31) :
    ∃ next, monitorIntervalExpired state reading = some next := by
  have exactJitter := counted_jitter_of_fits order fits
  have early := order.early
  obtain ⟨short, later, lastValid, valid⟩ := order
  simp only [Timespec.Normalized, nanosecPerSec] at short lastValid valid early
  have elapsed := elapsed_fields state.rtclkLastTime reading
  have deltaSec : FitsSigned 64 (reading.tvSec - state.rtclkLastTime.tvSec) := by
    simp only [FitsSigned, lateness, nanosecPerSec] at *
    omega
  have deltaNsec : FitsSigned 64 (reading.tvNsec - state.rtclkLastTime.tvNsec) := by
    simp only [FitsSigned]
    omega
  have scaledSec :
      FitsSigned 64 ((reading.tvSec - state.rtclkLastTime.tvSec) * nanosecPerSec) := by
    simp only [FitsSigned, lateness, nanosecPerSec] at *
    omega
  have deltaTime : FitsSigned 64 ((reading.tvSec - state.rtclkLastTime.tvSec) * nanosecPerSec +
      (reading.tvNsec - state.rtclkLastTime.tvNsec)) := by
    rw [elapsed]
    simp only [FitsSigned, lateness] at *
    omega
  have jitter : FitsSigned 32 (countedJitter state.periodNsecs state.rtclkLastTime reading) := by
    rw [exactJitter]
    simp only [FitsSigned]
    omega
  rw [countedJitter, lateness, ← elapsed, ← tick_error_eq] at jitter
  simp only [monitorIntervalExpired, Option.bind_eq_bind, Option.bind_eq_some_iff, signed_eq_some]
  exact ⟨_, _, ⟨deltaSec, rfl⟩, _, ⟨deltaNsec, rfl⟩, _, ⟨scaledSec, rfl⟩, _, ⟨deltaTime, rfl⟩, _,
    ⟨jitter, rfl⟩, rfl⟩

structure ClockReadings (rtclkStartTime : Timespec) (readings : List Timespec) : Prop where
  ordered : (rtclkStartTime :: readings).Pairwise fun earlier later =>
    earlier.nanoseconds ≤ later.nanoseconds
  valid : ∀ reading ∈ rtclkStartTime :: readings, reading.Normalized

theorem ClockReadings.tick {period : Int} {last : Timespec} {readings : List Timespec}
    (given : ClockReadings last (reading :: readings))
    (short : 0 < period ∧ period < nanosecPerSec) : TickOrder period last reading where
  period := short
  later := (List.pairwise_cons.mp given.ordered).1 reading (by simp)
  lastValid := given.valid last (by simp)
  valid := given.valid reading (by simp)

theorem ClockReadings.rest {last : Timespec} {readings : List Timespec}
    (given : ClockReadings last (reading :: readings)) : ClockReadings reading readings where
  ordered := (List.pairwise_cons.mp given.ordered).2
  valid later member := given.valid later (List.mem_cons_of_mem last member)

structure TimerState.Words (state : TimerState) : Prop where
  tickCount : toUnsigned 64 state.tickCount = state.tickCount
  accumJitterNsec : toUnsigned 64 state.accumJitterNsec = state.accumJitterNsec

theorem expired_words (ticked : monitorIntervalExpired state reading = some next) :
    next.Words := by
  obtain ⟨_, _, _, tickCount, accumJitterNsec⟩ := expired_cases ticked
  constructor
  · rw [tickCount, toUnsigned_toUnsigned]
  · rw [accumJitterNsec, toUnsigned_toUnsigned]

theorem run_ticks_cons {readings : List Timespec} :
    runTicks state (reading :: readings) =
      (monitorIntervalExpired state reading).bind fun next => runTicks next readings :=
  List.foldlM_cons

theorem run_ticks_counts {readings : List Timespec} {final : TimerState}
    (short : 0 < state.periodNsecs ∧ state.periodNsecs < nanosecPerSec) (words : state.Words)
    (clock : ClockReadings state.rtclkLastTime readings)
    (ran : runTicks state readings = some final) :
    ∃ counted : Int, 0 ≤ counted ∧
      counted ≤ trueJitter state.periodNsecs state.rtclkLastTime readings ∧
      (counted = trueJitter state.periodNsecs state.rtclkLastTime readings ↔
        EachFits state.periodNsecs state.rtclkLastTime readings) ∧
      final.accumJitterNsec = toUnsigned 64 (state.accumJitterNsec + counted) ∧
      final.tickCount = toUnsigned 64 (state.tickCount + readings.length) := by
  induction readings generalizing state with
  | nil =>
      have same : state = final := Option.some.inj ran
      subst same
      refine ⟨0, Int.le_refl 0, Int.le_refl 0, iff_of_true rfl trivial, ?_, ?_⟩
      · rw [Int.add_zero, words.accumJitterNsec]
      · simp [words.tickCount]
  | cons reading readings induction =>
      rw [run_ticks_cons, Option.bind_eq_some_iff] at ran
      obtain ⟨next, ticked, rest⟩ := ran
      obtain ⟨small, period, last, tickCount, accumJitterNsec⟩ := expired_cases ticked
      have clockRest := clock.rest
      rw [← last] at clockRest
      obtain ⟨counted, nonneg, atMost, fits, total, ticks⟩ :=
        induction (period ▸ short) (expired_words ticked) clockRest rest
      rw [period, last] at atMost fits
      obtain ⟨firstAtMost, firstFits⟩ := counted_jitter_bound (clock.tick short) small
      have first : 0 ≤ countedJitter state.periodNsecs state.rtclkLastTime reading := by
        simp only [countedJitter]
        omega
      refine ⟨countedJitter state.periodNsecs state.rtclkLastTime reading + counted, ?_, ?_, ?_,
        ?_, ?_⟩
      · omega
      · rw [trueJitter]
        omega
      · rw [trueJitter, EachFits, ← firstFits, ← fits]
        omega
      · rw [total, accumJitterNsec, toUnsigned_add, Int.add_assoc]
      · rw [ticks, tickCount, toUnsigned_add, List.length_cons]
        push_cast
        rw [Int.add_assoc, Int.add_comm 1]

theorem run_ticks_of_fits {readings : List Timespec}
    (short : 0 < state.periodNsecs ∧ state.periodNsecs < nanosecPerSec)
    (clock : ClockReadings state.rtclkLastTime readings)
    (fits : EachFits state.periodNsecs state.rtclkLastTime readings) :
    ∃ final, runTicks state readings = some final := by
  induction readings generalizing state with
  | nil => exact ⟨state, rfl⟩
  | cons reading readings induction =>
      obtain ⟨next, ticked⟩ := expired_of_fits (clock.tick short) fits.1
      obtain ⟨_, period, last, _, _⟩ := expired_cases ticked
      obtain ⟨final, rest⟩ := @induction next (period ▸ short) (last ▸ clock.rest)
        (by rw [period, last]; exact fits.2)
      exact ⟨final, by rw [run_ticks_cons, ticked, Option.bind_some, rest]⟩

theorem armed_run_counts {period : Int} {rtclkStartTime : Timespec} {readings : List Timespec}
    {final : TimerState} (short : 0 < period ∧ period < nanosecPerSec)
    (clock : ClockReadings rtclkStartTime readings)
    (ran : runTicks (.armed period rtclkStartTime) readings = some final) :
    ∃ counted : Int, 0 ≤ counted ∧ counted ≤ trueJitter period rtclkStartTime readings ∧
      (counted = trueJitter period rtclkStartTime readings ↔
        EachFits period rtclkStartTime readings) ∧
      final.accumJitterNsec = toUnsigned 64 counted ∧
      final.tickCount = toUnsigned 64 readings.length := by
  have words : (TimerState.armed period rtclkStartTime).Words := ⟨rfl, rfl⟩
  have counts := run_ticks_counts short words clock ran
  simpa only [TimerState.armed, Int.zero_add] using counts

def JitterExact (period : Int) (rtclkStartTime : Timespec) (readings : List Timespec) : Prop :=
  ∃ final, runTicks (.armed period rtclkStartTime) readings = some final ∧
    final.accumJitterNsec = trueJitter period rtclkStartTime readings ∧
    final.tickCount = readings.length

/-- The accumulated jitter is the true one exactly when no tick was more than an `int` of
nanoseconds late and the ticks fit in their counter. -/
theorem jitter_exact_iff (millisecs : Int) (range : 1 ≤ millisecs ∧ millisecs ≤ 999)
    (rtclkStartTime : Timespec) (readings : List Timespec)
    (clock : ClockReadings rtclkStartTime readings)
    (bounded : trueJitter (millisecs * nsecPerMsec) rtclkStartTime readings < 2 ^ 63) :
    JitterExact (millisecs * nsecPerMsec) rtclkStartTime readings ↔
      EachFits (millisecs * nsecPerMsec) rtclkStartTime readings ∧ readings.length < 2 ^ 64 := by
  have short : 0 < millisecs * nsecPerMsec ∧ millisecs * nsecPerMsec < nanosecPerSec := by
    simp only [nsecPerMsec, nanosecPerSec]
    omega
  generalize millisecs * nsecPerMsec = period at *
  constructor
  · rintro ⟨final, ran, total, ticks⟩
    obtain ⟨counted, nonneg, atMost, whole, accumulated, counter⟩ :=
      armed_run_counts short clock ran
    rw [toUnsigned_of_fits nonneg (by omega)] at accumulated
    have few := (toUnsigned_eq_iff.mp (counter.symm.trans ticks)).2
    exact ⟨whole.mp (accumulated.symm.trans total), by omega⟩
  · rintro ⟨fits, few⟩
    obtain ⟨final, ran⟩ :=
      @run_ticks_of_fits (.armed period rtclkStartTime) readings short clock fits
    obtain ⟨counted, nonneg, atMost, whole, accumulated, counter⟩ :=
      armed_run_counts short clock ran
    rw [toUnsigned_of_fits nonneg (by omega)] at accumulated
    rw [toUnsigned_of_fits (by omega) (by omega)] at counter
    exact ⟨final, ran, accumulated.trans (whole.mpr fits), counter⟩

/-- Two ticks at 10 ms, one early and one late. -/
theorem jitter_exact_iff_two_ticks :
    JitterExact (10 * nsecPerMsec) ⟨5, 0⟩ [⟨5, 9000000⟩, ⟨5, 21000000⟩] := by
  refine (jitter_exact_iff 10 (by decide) ⟨5, 0⟩ [⟨5, 9000000⟩, ⟨5, 21000000⟩]
    ⟨by decide, by decide⟩ (by decide)).mpr ⟨?_, by decide⟩
  simp only [EachFits]
  decide

/-- A process stopped for five seconds: the tick counts with a part of its lateness. -/
theorem jitter_of_a_stopped_process :
    runTicks (.armed 10000000 ⟨5, 0⟩) [⟨10, 0⟩] = some {
        periodNsecs := 10000000
        tickCount := 1
        rtclkTime := ⟨10, 0⟩
        rtclkLastTime := ⟨10, 0⟩
        tickError := 695032704
        accumJitterNsec := 695032704 } ∧
      trueJitter 10000000 ⟨5, 0⟩ [⟨10, 0⟩] = 4990000000 ∧
      ¬JitterExact 10000000 ⟨5, 0⟩ [⟨10, 0⟩] := by
  have ran : runTicks (.armed 10000000 ⟨5, 0⟩) [⟨10, 0⟩] = some {
      periodNsecs := 10000000
      tickCount := 1
      rtclkTime := ⟨10, 0⟩
      rtclkLastTime := ⟨10, 0⟩
      tickError := 695032704
      accumJitterNsec := 695032704 } := by decide
  refine ⟨ran, by decide, ?_⟩
  intro ⟨final, again, total, _⟩
  rw [ran] at again
  cases again
  exact absurd total (by decide)

end Schedulers.RtTimer
