import Schedulers.Sequencer.SequencerModel
import Schedulers.Support.SleepCalls

/-!
# The drift-controlled sequencer of `seqgenex0.c`

`Sequencer` corrects the length of each cycle, sleeps with `clock_nanosleep` until
an absolute time and then releases its services. `clock_nanosleep` returns error
numbers, which are positive; the test `rc < 0` behind it never holds.
-/

namespace Schedulers.Sequencer

open Schedulers.TransitionSystem Schedulers.SleepCalls

set_option autoImplicit false

/-- `ABS_DELAY`: the clock reading plus the corrected delay, carried once. -/
def absoluteDeadline (currentTimeVal : Timespec) (delayNsec : Int) : Timespec :=
  let delayTime : Timespec := ⟨currentTimeVal.tvSec, currentTimeVal.tvNsec + delayNsec⟩
  if delayTime.tvNsec > nanosecPerSec then delayTime.carry else delayTime

theorem absolute_deadline_nanoseconds (currentTimeVal : Timespec) (delayNsec : Int) :
    (absoluteDeadline currentTimeVal delayNsec).nanoseconds =
      currentTimeVal.nanoseconds + delayNsec := by
  have sum : (⟨currentTimeVal.tvSec, currentTimeVal.tvNsec + delayNsec⟩ : Timespec).nanoseconds =
      currentTimeVal.nanoseconds + delayNsec := by
    rw [Timespec.nanoseconds, Timespec.nanoseconds]
    dsimp only
    omega
  unfold absoluteDeadline
  dsimp only
  split_ifs
  · rw [Timespec.carry_nanoseconds, sum]
  · exact sum

theorem absolute_deadline_normalized (currentTimeVal : Timespec) (delayNsec : Int) :
    (absoluteDeadline currentTimeVal delayNsec).Normalized ↔
      0 ≤ currentTimeVal.tvNsec + delayNsec ∧
        currentTimeVal.tvNsec + delayNsec < 2 * nanosecPerSec ∧
        currentTimeVal.tvNsec + delayNsec ≠ nanosecPerSec := by
  unfold absoluteDeadline
  dsimp only
  split_ifs with carries
  · rw [Timespec.normalized_carry, nanosecPerSec]
    rw [nanosecPerSec] at carries
    dsimp only at carries ⊢
    omega
  · rw [Timespec.Normalized, nanosecPerSec]
    rw [nanosecPerSec] at carries
    dsimp only at carries ⊢
    omega

/-- The single carry with its strict comparison gives a valid deadline for exactly
these sums: neither negative, nor two seconds and more, nor one second sharp. -/
theorem deadline_valid_iff (currentTimeVal : Timespec) (delayNsec : Int) :
    ((absoluteDeadline currentTimeVal delayNsec).Normalized ∧
      (absoluteDeadline currentTimeVal delayNsec).nanoseconds =
        currentTimeVal.nanoseconds + delayNsec) ↔
      0 ≤ currentTimeVal.tvNsec + delayNsec ∧
        currentTimeVal.tvNsec + delayNsec < 2 * nanosecPerSec ∧
        currentTimeVal.tvNsec + delayNsec ≠ nanosecPerSec := by
  rw [absolute_deadline_normalized]
  exact and_iff_left (absolute_deadline_nanoseconds currentTimeVal delayNsec)

/-- The nominal 10 ms less the bias, started 9.9 ms before a full second: the sum is one
second sharp and is not carried. -/
theorem deadline_one_second_sharp :
    ¬∀ (currentTimeVal : Timespec) (delayNsec : Int), currentTimeVal.Normalized →
      -1000000000000 < delayNsec → delayNsec < 1000000000000 →
      (absoluteDeadline currentTimeVal delayNsec).Normalized ∧
        (absoluteDeadline currentTimeVal delayNsec).nanoseconds =
          currentTimeVal.nanoseconds + delayNsec := by
  intro always
  have valid := always ⟨5, 990100000⟩ 9900000 (by decide) (by decide) (by decide)
  exact absurd valid.1 (by decide)

def seqgenex0 : Divisors 3 := ![some 2, some 10, some 15]

/-- `slept` is a return of `clock_nanosleep` and `posted` a `sem_post` that releases a
service, both with the `seqCnt` of their cycle; `finalPost` is one of those after the
last cycle. -/
inductive DriftEvent where
  | slept (seqCnt : Nat) (rc : Int)
  | posted (seqCnt : Nat) (service : Fin 3)
  | finalPost (service : Fin 3)
  deriving DecidableEq, Repr

inductive DriftPoint where
  | sleeping
  | ended
  | exited
  deriving DecidableEq, Repr

structure DriftState where
  seqCnt : Nat
  delayCnt : Nat
  abortTest : Bool
  point : DriftPoint
  log : List DriftEvent

def DriftState.start (abortTest : Bool) : DriftState where
  seqCnt := 0
  delayCnt := 0
  abortTest := abortTest
  point := .sleeping
  log := []

def cyclePosts (seqCnt : Nat) : List DriftEvent :=
  ((List.finRange 3).filter fun service => releases seqgenex0 service seqCnt).map
    (.posted seqCnt)

/-- From the return of one `clock_nanosleep` to the next call or the end. -/
def driftStep (sequencePeriods : Nat) (rc : Int) (state : DriftState) : DriftState :=
  let woken := { state with log := state.log ++ [DriftEvent.slept state.seqCnt rc] }
  if rc = eintr then { woken with delayCnt := woken.delayCnt + 1 }
  else if rc < 0 then { woken with point := .exited }
  else
    let released := { woken with
      log := woken.log ++ cyclePosts woken.seqCnt
      seqCnt := woken.seqCnt + 1 }
    if !released.abortTest && released.seqCnt < sequencePeriods then
      { released with delayCnt := 0 }
    else
      { released with
        log := released.log ++ (List.finRange 3).map DriftEvent.finalPost
        point := .ended }

/-- The labels are the results of `clock_nanosleep`: zero or an error number. -/
def driftSystem (sequencePeriods : Nat) : System DriftState Int where
  initial state := ∃ abortTest, state = .start abortTest
  step rc state :=
    if state.point = .sleeping ∧ 0 ≤ rc then some (driftStep sequencePeriods rc state) else none

def lastSleep : Option (Nat × Int) → List DriftEvent → Option (Nat × Int)
  | last, [] => last
  | _, .slept seqCnt rc :: rest => lastSleep (some (seqCnt, rc)) rest
  | last, .posted _ _ :: rest => lastSleep last rest
  | last, .finalPost _ :: rest => lastSleep last rest

/-- Each release of a service follows a last sleep of its own cycle that returned 0. -/
def RestedAfter : Option (Nat × Int) → List DriftEvent → Prop
  | _, [] => True
  | _, .slept seqCnt rc :: rest => RestedAfter (some (seqCnt, rc)) rest
  | last, .posted seqCnt _ :: rest => last = some (seqCnt, 0) ∧ RestedAfter last rest
  | last, .finalPost _ :: rest => RestedAfter last rest

/-- Services are released only after a completed sleep, and an error stops the sequencer. -/
structure ReleasesRested (state : DriftState) : Prop where
  rested : RestedAfter none state.log
  stopped : ∀ seqCnt rc, .slept seqCnt rc ∈ state.log → rc ≠ 0 → rc ≠ eintr →
    state.point = .exited ∧ state.log.getLast? = some (.slept seqCnt rc)

theorem last_sleep_slept (last : Option (Nat × Int)) (log : List DriftEvent) (seqCnt : Nat)
    (rc : Int) : lastSleep last (log ++ [.slept seqCnt rc]) = some (seqCnt, rc) := by
  induction log generalizing last with
  | nil => rfl
  | cons event log ih => cases event <;> exact ih _

theorem rested_after_append (last : Option (Nat × Int)) (earlier later : List DriftEvent) :
    RestedAfter last (earlier ++ later) ↔
      RestedAfter last earlier ∧ RestedAfter (lastSleep last earlier) later := by
  induction earlier generalizing last with
  | nil => simp [RestedAfter, lastSleep]
  | cons event earlier ih =>
      cases event with
      | slept seqCnt rc => exact ih (some (seqCnt, rc))
      | posted seqCnt service =>
          rw [List.cons_append, RestedAfter, RestedAfter, ih last, and_assoc]
          rfl
      | finalPost service => exact ih last

theorem rested_after_posts (seqCnt : Nat) :
    RestedAfter (some (seqCnt, 0)) (cyclePosts seqCnt) := by
  unfold cyclePosts
  induction (List.finRange 3).filter fun service => releases seqgenex0 service seqCnt with
  | nil => trivial
  | cons service services ih => exact ⟨rfl, ih⟩

theorem rested_after_final_posts (last : Option (Nat × Int)) (services : List (Fin 3)) :
    RestedAfter last (services.map .finalPost) := by
  induction services with
  | nil => trivial
  | cons service services ih => exact ih

/-- What one return of `clock_nanosleep` adds to the log. With POSIX results the branch
that exits is never taken. -/
theorem drift_step_log (sequencePeriods : Nat) {rc : Int} (posix : 0 ≤ rc) (state : DriftState)
    (running : state.point ≠ .exited) :
    (driftStep sequencePeriods rc state).point ≠ .exited ∧
    ∃ rest, (driftStep sequencePeriods rc state).log =
        state.log ++ [.slept state.seqCnt rc] ++ rest ∧
      ((rc = eintr ∧ rest = []) ∨
        (rc ≠ eintr ∧ ∃ services : List (Fin 3),
          rest = cyclePosts state.seqCnt ++ services.map .finalPost)) := by
  have positive : ¬rc < 0 := by omega
  unfold driftStep
  dsimp only
  split_ifs with interrupted again
  · exact ⟨running, [], by simp, .inl ⟨interrupted, rfl⟩⟩
  · exact ⟨running, _, rfl, .inr ⟨interrupted, [], by simp⟩⟩
  · refine ⟨by simp, cyclePosts state.seqCnt ++ (List.finRange 3).map .finalPost, ?_,
      .inr ⟨interrupted, _, rfl⟩⟩
    simp

def OnlyInterruptions (log : List DriftEvent) : Prop :=
  ∀ seqCnt rc, .slept seqCnt rc ∈ log → rc = 0 ∨ rc = eintr

structure DriftInvariant (state : DriftState) : Prop where
  running : state.point ≠ .exited
  rested : OnlyInterruptions state.log → RestedAfter none state.log

theorem drift_invariant_step {sequencePeriods : Nat} {rc : Int} (posix : 0 ≤ rc)
    {state : DriftState} (given : DriftInvariant state) :
    DriftInvariant (driftStep sequencePeriods rc state) := by
  obtain ⟨running, rest, log, shape⟩ :=
    drift_step_log sequencePeriods posix state given.running
  refine ⟨running, fun only => ?_⟩
  have before : OnlyInterruptions state.log := by
    intro seqCnt other member
    apply only seqCnt other
    rw [log]
    simp [member]
  have now : rc = 0 ∨ rc = eintr := by
    apply only state.seqCnt rc
    rw [log]
    simp
  have woken : RestedAfter none (state.log ++ [.slept state.seqCnt rc]) :=
    (rested_after_append _ _ _).mpr ⟨given.rested before, trivial⟩
  rw [log, rested_after_append, last_sleep_slept]
  refine ⟨woken, ?_⟩
  rcases shape with ⟨_, rfl⟩ | ⟨awake, services, rfl⟩
  · trivial
  · obtain rfl : rc = 0 := now.resolve_right awake
    rw [rested_after_append]
    exact ⟨rested_after_posts state.seqCnt, rested_after_final_posts _ services⟩

theorem drift_invariant_reachable {sequencePeriods : Nat} {state : DriftState}
    (reached : Reachable (driftSystem sequencePeriods) anyStep state) : DriftInvariant state := by
  apply reached.keeps
  · rintro _ ⟨abortTest, rfl⟩
    exact ⟨by simp [DriftState.start], fun _ => trivial⟩
  · intro rc before after given _ taken
    simp only [driftSystem] at taken
    split_ifs at taken with enabled
    cases taken
    exact drift_invariant_step enabled.2 given

/-- In runs of any length the services are released after completed sleeps only, and
errors stop the sequencer, exactly as long as there is no error other than `EINTR`. -/
theorem releases_rested_iff (sequencePeriods : Nat) (state : DriftState)
    (reached : Reachable (driftSystem sequencePeriods) anyStep state) :
    ReleasesRested state ↔
      ∀ seqCnt rc, .slept seqCnt rc ∈ state.log → rc = 0 ∨ rc = eintr := by
  have invariant := drift_invariant_reachable reached
  constructor
  · intro rested seqCnt rc member
    by_contra bad
    push Not at bad
    exact invariant.running (rested.stopped seqCnt rc member bad.1 bad.2).1
  · intro only
    refine ⟨invariant.rested only, fun seqCnt rc member nonzero other => ?_⟩
    exact absurd (only seqCnt rc member) (by simp [nonzero, other])

/-- An interrupted sleep and one that completes. -/
theorem releases_rested_iff_interrupted :
    ∃ state, Reachable (driftSystem 1) anyStep state ∧
      .slept 0 eintr ∈ state.log ∧ .posted 0 2 ∈ state.log ∧ ReleasesRested state := by
  have runs : ∃ state, Reachable (driftSystem 1) anyStep state ∧
      state.log = [.slept 0 eintr, .slept 0 0, .posted 0 0, .posted 0 1, .posted 0 2,
        .finalPost 0, .finalPost 1, .finalPost 2] :=
    schedule_reaches [eintr, 0] ⟨false, rfl⟩ (by decide)
  obtain ⟨state, reached, log⟩ := runs
  refine ⟨state, reached, by simp [log], by simp [log],
    (releases_rested_iff 1 state reached).mpr ?_⟩
  intro seqCnt rc member
  simp only [log, List.mem_cons, DriftEvent.slept.injEq, reduceCtorEq, List.not_mem_nil,
    or_false] at member
  rcases member with ⟨_, rfl⟩ | ⟨_, rfl⟩
  · exact .inr rfl
  · exact .inl rfl

def einval : Int := 22

/-- `clock_nanosleep` fails with `EINVAL` in the first of two cycles: all three services
are released and the second cycle begins. -/
theorem einval_releases_undelayed :
    ¬∀ (sequencePeriods : Nat) (state : DriftState),
      Reachable (driftSystem sequencePeriods) anyStep state → ReleasesRested state := by
  intro always
  have runs : ∃ state, Reachable (driftSystem 2) anyStep state ∧
      state.log = [.slept 0 einval, .posted 0 0, .posted 0 1, .posted 0 2] :=
    schedule_reaches [einval] ⟨false, rfl⟩ (by decide)
  obtain ⟨state, reached, log⟩ := runs
  have rested := (always 2 state reached).rested
  rw [log] at rested
  exact absurd rested.1 (by decide)

end Schedulers.Sequencer
