import Schedulers.Sequencer.SequencerModel
import Schedulers.Support.SleepCalls

/-!
# The delay loop of `seqgen.c`

The loop is written to sleep again for what an interruption left over. It looks for
`EINTR` in the return value of `nanosleep`, which is -1 then, so the residual is
never read and the branch for errors ends the process.
-/

namespace Schedulers.Sequencer

open Schedulers.TransitionSystem Schedulers.SleepCalls

set_option autoImplicit false

def delayTime : Timespec := ⟨0, 33333333⟩

inductive DelayPoint where
  | sleeping
  | ended
  | exited
  deriving DecidableEq, Repr

structure ReleasedCycle where
  seqCnt : Nat
  services : List (Fin 7)
  slept : Int
  deriving DecidableEq, Repr

/-- `residual` is in nanoseconds; the source keeps seconds in a `double` and looks at
its sign only. `slept`, `outcomes` and `released` are what an observer notes: the
time slept in this cycle, the outcomes of all calls and the cycles released. -/
structure DelayState where
  seqCnt : Nat
  delayCnt : Nat
  residual : Int
  remainingTime : Timespec
  abortTest : Bool
  point : DelayPoint
  slept : Int
  outcomes : List SleepOutcome
  released : List ReleasedCycle

/-- `remaining_time` is not initialised. -/
def DelayState.start (abortTest : Bool) (remainingTime : Timespec) : DelayState where
  seqCnt := 0
  delayCnt := 0
  residual := 0
  remainingTime := remainingTime
  abortTest := abortTest
  point := .sleeping
  slept := 0
  outcomes := []
  released := []

def storeRemaining (outcome : SleepOutcome) (remainingTime : Timespec) : Timespec :=
  match outcome with
  | .completed => remainingTime
  | .interrupted remaining => remaining

/-- The code behind the delay loop, up to the next `nanosleep` or the end. -/
def releaseCycle (sequencePeriods : Nat) (state : DelayState) : DelayState :=
  let counted := { state with seqCnt := state.seqCnt + 1 }
  let services := (List.finRange 7).filter fun service => releases seqgen service counted.seqCnt
  let cycle : ReleasedCycle := ⟨counted.seqCnt, services, counted.slept⟩
  let released := { counted with released := counted.released ++ [cycle] }
  if !released.abortTest && released.seqCnt < sequencePeriods then
    { released with delayCnt := 0, residual := 0, slept := 0 }
  else { released with point := .ended }

/-- `while((residual > 0.0) && (delay_cnt < 100))`; the request is not changed. -/
def testResidual (sequencePeriods : Nat) (state : DelayState) : DelayState :=
  if 0 < state.residual && state.delayCnt < 100 then state
  else releaseCycle sequencePeriods state

/-- From the return of one `nanosleep` to the next call or the end. -/
def delayStep (sequencePeriods : Nat) (outcome : SleepOutcome) (state : DelayState) :
    DelayState :=
  let rc := outcome.returnCode
  let woken := { state with
    remainingTime := storeRemaining outcome state.remainingTime
    slept := state.slept + outcome.slept delayTime
    outcomes := state.outcomes ++ [outcome] }
  if rc = eintr then
    testResidual sequencePeriods { woken with
      residual := woken.remainingTime.nanoseconds
      delayCnt := woken.delayCnt + 1 }
  else if rc < 0 then { woken with point := .exited }
  else testResidual sequencePeriods woken

def delaySystem (sequencePeriods : Nat) : System DelayState SleepOutcome where
  initial state := ∃ abortTest remainingTime, state = .start abortTest remainingTime
  step outcome state :=
    if state.point = .sleeping ∧ outcome.Allowed delayTime then
      some (delayStep sequencePeriods outcome state)
    else none

/-- The process lives, and each release follows a full delay. -/
structure SleepsThrough (state : DelayState) : Prop where
  alive : state.point ≠ .exited
  full : ∀ cycle ∈ state.released, cycle.slept = 33333333

/-- At the call nothing of this cycle has been slept; only an interruption exits. -/
structure DelayInvariant (state : DelayState) : Prop where
  fresh : state.point = .sleeping → state.slept = 0 ∧ state.residual = 0
  full : ∀ cycle ∈ state.released, cycle.slept = 33333333
  exits : state.point = .exited ↔ ∃ outcome ∈ state.outcomes, outcome ≠ .completed

theorem delay_invariant_start (abortTest : Bool) (remainingTime : Timespec) :
    DelayInvariant (.start abortTest remainingTime) where
  fresh _ := ⟨rfl, rfl⟩
  full _ member := absurd member List.not_mem_nil
  exits := by simp [DelayState.start]

theorem delay_step_interrupted (sequencePeriods : Nat) (remaining : Timespec)
    (state : DelayState) :
    delayStep sequencePeriods (.interrupted remaining) state =
      { state with
        remainingTime := remaining
        slept := state.slept + (SleepOutcome.interrupted remaining).slept delayTime
        outcomes := state.outcomes ++ [.interrupted remaining]
        point := .exited } := rfl

theorem delay_step_completed (sequencePeriods : Nat) (state : DelayState) :
    delayStep sequencePeriods .completed state =
      testResidual sequencePeriods { state with
        slept := state.slept + delayTime.nanoseconds
        outcomes := state.outcomes ++ [.completed] } := rfl

theorem delay_invariant_release {sequencePeriods : Nat} {state : DelayState}
    (full : ∀ cycle ∈ state.released, cycle.slept = 33333333) (now : state.slept = 33333333)
    (quiet : state.residual = 0) (completed : ∀ outcome ∈ state.outcomes, outcome = .completed)
    (running : state.point = .sleeping) :
    DelayInvariant (testResidual sequencePeriods state) := by
  have leaves : ¬(decide (0 < state.residual) && decide (state.delayCnt < 100)) = true := by
    simp [quiet]
  have none : ¬∃ outcome ∈ state.outcomes, outcome ≠ .completed := by
    rintro ⟨outcome, member, other⟩
    exact other (completed outcome member)
  have released (services : List (Fin 7)) : ∀ cycle ∈ state.released ++
      [(⟨state.seqCnt + 1, services, state.slept⟩ : ReleasedCycle)], cycle.slept = 33333333 := by
    intro cycle member
    rcases List.mem_append.mp member with before | last
    · exact full cycle before
    · rw [List.mem_singleton.mp last]
      exact now
  rw [testResidual, if_neg leaves]
  unfold releaseCycle
  dsimp only
  split_ifs
  · exact ⟨fun _ => ⟨rfl, rfl⟩, released _, iff_of_false (by simp [running]) none⟩
  · exact ⟨by simp, released _, iff_of_false (by simp) none⟩

theorem delay_invariant_step {sequencePeriods : Nat} {outcome : SleepOutcome}
    {state : DelayState} (given : DelayInvariant state) (sleeping : state.point = .sleeping) :
    DelayInvariant (delayStep sequencePeriods outcome state) := by
  cases outcome with
  | interrupted remaining =>
      rw [delay_step_interrupted]
      refine ⟨by simp, given.full, ?_⟩
      exact iff_of_true rfl ⟨.interrupted remaining, by simp, by simp⟩
  | completed =>
      obtain ⟨nothing, quiet⟩ := given.fresh sleeping
      have completed : ∀ outcome ∈ state.outcomes, outcome = .completed := by
        intro outcome member
        by_contra other
        rw [given.exits.mpr ⟨outcome, member, other⟩] at sleeping
        cases sleeping
      rw [delay_step_completed]
      apply delay_invariant_release
      · exact given.full
      · change state.slept + delayTime.nanoseconds = 33333333
        rw [nothing]
        decide
      · exact quiet
      · intro outcome member
        rcases List.mem_append.mp member with before | last
        · exact completed outcome before
        · exact List.mem_singleton.mp last
      · exact sleeping

theorem delay_invariant_reachable {sequencePeriods : Nat} {state : DelayState}
    (reached : Reachable (delaySystem sequencePeriods) anyStep state) : DelayInvariant state := by
  apply reached.keeps
  · rintro _ ⟨abortTest, remainingTime, rfl⟩
    exact delay_invariant_start abortTest remainingTime
  · intro outcome before after given _ taken
    simp only [delaySystem] at taken
    split_ifs at taken with enabled
    cases taken
    exact delay_invariant_step given enabled.1

/-- Runs without an interruption sleep 33333333 ns before each release; the first
interruption, whatever it leaves over, ends the process. -/
theorem sleeps_through_iff_uninterrupted (sequencePeriods : Nat) (state : DelayState)
    (reached : Reachable (delaySystem sequencePeriods) anyStep state) :
    SleepsThrough state ↔ ∀ outcome ∈ state.outcomes, outcome = .completed := by
  have invariant := delay_invariant_reachable reached
  constructor
  · intro through outcome member
    by_contra other
    exact through.alive (invariant.exits.mpr ⟨outcome, member, other⟩)
  · intro completed
    refine ⟨fun exited => ?_, invariant.full⟩
    obtain ⟨outcome, member, other⟩ := invariant.exits.mp exited
    exact other (completed outcome member)

/-- Two cycles without an interruption. -/
theorem sleeps_through_iff_uninterrupted_two_cycles :
    ∃ state, Reachable (delaySystem 2) anyStep state ∧ state.released.length = 2 ∧
      SleepsThrough state := by
  have runs : ∃ state, Reachable (delaySystem 2) anyStep state ∧
      state.outcomes = [.completed, .completed] ∧ state.released.length = 2 :=
    schedule_reaches [.completed, .completed] ⟨false, ⟨0, 0⟩, rfl⟩ (by decide)
  obtain ⟨state, reached, outcomes, two⟩ := runs
  refine ⟨state, reached, two, (sleeps_through_iff_uninterrupted 2 state reached).mpr ?_⟩
  rw [outcomes]
  decide

/-- One signal after 10 ms of the first delay. -/
theorem interrupted_sleep_exits :
    ¬∀ (sequencePeriods : Nat) (state : DelayState),
      Reachable (delaySystem sequencePeriods) anyStep state →
      state.outcomes.countP SleepOutcome.isInterrupted < 100 → SleepsThrough state := by
  intro always
  have runs : ∃ state, Reachable (delaySystem 1) anyStep state ∧
      state.outcomes = [.interrupted ⟨0, 23333333⟩] ∧ state.point = .exited :=
    schedule_reaches [.interrupted ⟨0, 23333333⟩] ⟨false, ⟨0, 0⟩, rfl⟩ (by decide)
  obtain ⟨state, reached, outcomes, exited⟩ := runs
  have through := always 1 state reached (by rw [outcomes]; decide)
  exact through.alive exited

end Schedulers.Sequencer
