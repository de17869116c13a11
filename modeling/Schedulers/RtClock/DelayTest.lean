import Schedulers.Support.SleepCalls
import Schedulers.Support.TransitionSystem
import Mathlib.Data.List.DropRight

/-!
# The delay test of `posix_clock.c`

Each iteration of `delay_test` sleeps 10 ms and goes on with what an interruption
left over, at most `max_sleep_calls` times. The count is a file-level variable that
is set to zero before the first iteration only, so the iterations share one budget.
-/

namespace Schedulers.RtClock

open Schedulers.TransitionSystem Schedulers.SleepCalls

set_option autoImplicit false

def maxSleepCalls : Nat := 3

def testIterations : Nat := 100

/-- `TEST_SECONDS` and `TEST_NANOSECONDS` -/
def sleepRequested : Timespec := ⟨0, 1000000 * 10⟩

/-- The calls of one iteration and the time slept in them. -/
structure Iteration where
  outcomes : List SleepOutcome
  slept : Int
  deriving DecidableEq, Repr

def Iteration.start : Iteration where
  outcomes := []
  slept := 0

def Iteration.record (iteration : Iteration) (sleepTime : Timespec) (outcome : SleepOutcome) :
    Iteration where
  outcomes := iteration.outcomes ++ [outcome]
  slept := iteration.slept + outcome.slept sleepTime

def Iteration.interruptions (iteration : Iteration) : Nat :=
  iteration.outcomes.countP SleepOutcome.isInterrupted

/-- `current` and `finished` are what an observer notes of the iterations. -/
structure DelayTestState where
  idx : Nat
  sleepCount : Nat
  sleepTime : Timespec
  remainingTime : Timespec
  current : Iteration
  finished : List Iteration

def DelayTestState.start : DelayTestState where
  idx := 0
  sleepCount := 0
  sleepTime := sleepRequested
  remainingTime := ⟨0, 0⟩
  current := .start
  finished := []

/-- The end of the sleep loop and the head of the next iteration. -/
def nextIteration (state : DelayTestState) : DelayTestState :=
  let ended := { state with
    idx := state.idx + 1
    current := .start
    finished := state.finished ++ [state.current] }
  if ended.idx < testIterations then { ended with sleepTime := sleepRequested } else ended

/-- `(remaining_time.tv_sec > 0) || (remaining_time.tv_nsec > 0)` -/
def timeRemains (remainingTime : Timespec) : Bool :=
  decide (0 < remainingTime.tvSec) || decide (0 < remainingTime.tvNsec)

/-- From the return of one `nanosleep` to the next call or the end of the test. -/
def delayTestStep (outcome : SleepOutcome) (state : DelayTestState) : DelayTestState :=
  let called := { state with current := state.current.record state.sleepTime outcome }
  match outcome with
  | .completed => nextIteration called
  | .interrupted remaining =>
      let retried := { called with
        remainingTime := remaining
        sleepTime := remaining
        sleepCount := called.sleepCount + 1 }
      if timeRemains retried.remainingTime && retried.sleepCount < maxSleepCalls then retried
      else nextIteration retried

def delayTestSystem : System DelayTestState SleepOutcome where
  initial state := state = .start
  step outcome state :=
    if state.idx < testIterations ∧ outcome.Allowed state.sleepTime then
      some (delayTestStep outcome state)
    else none

/-- The sleep completed, or no time was left, or the calls of this iteration used up
the budget. -/
inductive Iteration.EndsProperly (iteration : Iteration) : Prop where
  | completed (last : iteration.outcomes.getLast? = some .completed)
      (total : iteration.slept = sleepRequested.nanoseconds)
  | nothingLeft (remaining : Timespec)
      (last : iteration.outcomes.getLast? = some (.interrupted remaining))
      (none : remaining.nanoseconds = 0)
  | usedUp (budget : iteration.interruptions = maxSleepCalls)

def IterationsEndProperly (state : DelayTestState) : Prop :=
  ∀ iteration ∈ state.finished, iteration.EndsProperly

def leavesTime : SleepOutcome → Bool
  | .completed => false
  | .interrupted remaining => timeRemains remaining

/-- The interruptions that stand together at the end of `outcomes`, each with time left. -/
def retriesAtEnd (outcomes : List SleepOutcome) : Nat :=
  (outcomes.rtakeWhile leavesTime).length

def interruptionsIn (outcomes : List SleepOutcome) : Nat :=
  outcomes.countP SleepOutcome.isInterrupted

/-- After `before` an interruption that leaves time has its own budget: it is one of the
first `max_sleep_calls - 1` of the run, or the next one and directly after these. -/
def HasOwnBudget (before : List SleepOutcome) : Prop :=
  interruptionsIn before + 1 < maxSleepCalls ∨
    interruptionsIn before + 1 = maxSleepCalls ∧ retriesAtEnd before + 1 = maxSleepCalls

def OwnBudgets (outcomes : List SleepOutcome) : Prop :=
  ∀ before outcome, before ++ [outcome] <+: outcomes → leavesTime outcome = true →
    HasOwnBudget before

theorem own_budgets_nil : OwnBudgets [] := fun before outcome earlier => by
  have short := earlier.length_le
  rw [List.length_append, List.length_singleton] at short
  exact absurd short (Nat.not_succ_le_zero _)

theorem own_budgets_snoc (outcomes : List SleepOutcome) (outcome : SleepOutcome) :
    OwnBudgets (outcomes ++ [outcome]) ↔
      OwnBudgets outcomes ∧ (leavesTime outcome = true → HasOwnBudget outcomes) := by
  constructor
  · intro own
    refine ⟨fun before other earlier => ?_, own outcomes outcome (List.prefix_refl _)⟩
    exact own before other (earlier.trans (List.prefix_append _ _))
  · rintro ⟨own, last⟩ before other earlier left
    rcases List.prefix_concat_iff.mp earlier with same | earlier
    · obtain ⟨rfl, rfl⟩ := List.append_singleton_inj.mp same
      exact last left
    · exact own before other earlier left

theorem leaves_time_interrupted {outcome : SleepOutcome} (left : leavesTime outcome = true) :
    outcome.isInterrupted = true := by
  cases outcome with
  | completed => exact left
  | interrupted remaining => rfl

theorem retries_at_end_le (outcomes : List SleepOutcome) :
    retriesAtEnd outcomes ≤ interruptionsIn outcomes := by
  have all : (outcomes.rtakeWhile leavesTime).countP SleepOutcome.isInterrupted =
      (outcomes.rtakeWhile leavesTime).length :=
    List.countP_eq_length.mpr fun outcome member =>
      leaves_time_interrupted (List.mem_rtakeWhile_imp member)
  rw [retriesAtEnd, ← all]
  exact (List.rtakeWhile_suffix _ _).sublist.countP_le

theorem time_remains_iff {time : Timespec} (valid : time.Duration) :
    timeRemains time = true ↔ 0 < time.nanoseconds := by
  rw [← valid.positive]
  simp [timeRemains]

theorem nothing_remains {time : Timespec} (valid : time.Duration)
    (none : ¬timeRemains time = true) :
    time.nanoseconds = 0 := by
  rw [time_remains_iff valid] at none
  have seconds := valid.1
  have fraction := valid.2.1
  rw [Timespec.nanoseconds, nanosecPerSec] at none ⊢
  omega

theorem next_iteration_finished (state : DelayTestState) :
    (nextIteration state).finished = state.finished ++ [state.current] := by
  unfold nextIteration
  dsimp only
  split_ifs <;> rfl

theorem next_iteration_current (state : DelayTestState) :
    (nextIteration state).current = .start := by
  unfold nextIteration
  dsimp only
  split_ifs <;> rfl

theorem next_iteration_sleep_count (state : DelayTestState) :
    (nextIteration state).sleepCount = state.sleepCount := by
  unfold nextIteration
  dsimp only
  split_ifs <;> rfl

theorem next_iteration_account (state : DelayTestState)
    (running : (nextIteration state).idx < testIterations) :
    (nextIteration state).current.slept + (nextIteration state).sleepTime.nanoseconds =
      sleepRequested.nanoseconds := by
  rw [next_iteration_current]
  unfold nextIteration at running ⊢
  dsimp only at running ⊢
  split_ifs at running ⊢ with more
  · change 0 + sleepRequested.nanoseconds = sleepRequested.nanoseconds
    omega
  · exact absurd running more

theorem next_iteration_proper_iff (state : DelayTestState) :
    IterationsEndProperly (nextIteration state) ↔
      IterationsEndProperly state ∧ state.current.EndsProperly := by
  unfold IterationsEndProperly
  rw [next_iteration_finished, List.forall_mem_append, List.forall_mem_singleton]

theorem record_last (iteration : Iteration) (sleepTime : Timespec) (outcome : SleepOutcome) :
    (iteration.record sleepTime outcome).outcomes.getLast? = some outcome := by
  simp [Iteration.record]

theorem record_interrupted_count (iteration : Iteration) (sleepTime remaining : Timespec) :
    (iteration.record sleepTime (.interrupted remaining)).interruptions =
      iteration.interruptions + 1 := by
  simp [Iteration.record, Iteration.interruptions, SleepOutcome.isInterrupted]

theorem ends_with_time_left_iff (iteration : Iteration) (sleepTime : Timespec)
    {remaining : Timespec} (valid : remaining.Duration) (left : timeRemains remaining = true) :
    (iteration.record sleepTime (.interrupted remaining)).EndsProperly ↔
      iteration.interruptions + 1 = maxSleepCalls := by
  rw [← record_interrupted_count iteration sleepTime remaining]
  constructor
  · rintro (⟨last, _⟩ | ⟨other, last, none⟩ | budget)
    · rw [record_last] at last
      cases last
    · rw [record_last] at last
      cases last
      have positive := (time_remains_iff valid).mp left
      omega
    · exact budget
  · exact .usedUp

/-- What the outcomes so far have made of the state. The count is that of all
iterations; while it is below the budget the current iteration has the interruptions
that stand together at the end, and after that every call begins an iteration. -/
structure DelayTestInvariant (outcomes : List SleepOutcome) (state : DelayTestState) : Prop where
  account : state.idx < testIterations →
    state.current.slept + state.sleepTime.nanoseconds = sleepRequested.nanoseconds
  counted : state.sleepCount = interruptionsIn outcomes
  retrying : state.sleepCount < maxSleepCalls →
    state.current.outcomes = outcomes.rtakeWhile leavesTime
  spent : maxSleepCalls ≤ state.sleepCount → state.current.outcomes = []

section Step

variable {outcomes : List SleepOutcome} {state : DelayTestState}

theorem delay_test_invariant_start : DelayTestInvariant [] .start where
  account _ := rfl
  counted := rfl
  retrying _ := rfl
  spent _ := rfl

theorem DelayTestInvariant.own_interruptions (given : DelayTestInvariant outcomes state)
    (below : state.sleepCount < maxSleepCalls) :
    state.current.interruptions = retriesAtEnd outcomes := by
  rw [Iteration.interruptions, given.retrying below, retriesAtEnd]
  apply List.countP_eq_length.mpr
  intro outcome member
  exact leaves_time_interrupted (List.mem_rtakeWhile_imp member)

theorem DelayTestInvariant.has_own_budget_iff (given : DelayTestInvariant outcomes state) :
    HasOwnBudget outcomes ↔ state.sleepCount + 1 < maxSleepCalls ∨
      state.current.interruptions + 1 = maxSleepCalls := by
  have few := retries_at_end_le outcomes
  rw [HasOwnBudget, ← given.counted] at *
  by_cases below : state.sleepCount < maxSleepCalls
  · rw [given.own_interruptions below]
    omega
  · have none : state.current.interruptions = 0 := by
      rw [Iteration.interruptions, given.spent (Nat.le_of_not_lt below)]
      rfl
    rw [none, maxSleepCalls] at *
    omega

theorem interruptions_in_snoc (outcomes : List SleepOutcome) (outcome : SleepOutcome) :
    interruptionsIn (outcomes ++ [outcome]) =
      interruptionsIn outcomes + if outcome.isInterrupted then 1 else 0 := by
  rw [interruptionsIn, List.countP_append, List.countP_singleton]
  rfl

theorem delay_test_invariant_step {outcome : SleepOutcome}
    (given : DelayTestInvariant outcomes state) (running : state.idx < testIterations) :
    DelayTestInvariant (outcomes ++ [outcome]) (delayTestStep outcome state) := by
  have account := given.account running
  have counted := given.counted
  cases outcome with
  | completed =>
      have ends : (outcomes ++ [SleepOutcome.completed]).rtakeWhile leavesTime = [] :=
        List.rtakeWhile_concat_neg _ _ _ (by simp [leavesTime])
      constructor
      · exact next_iteration_account _
      · rw [interruptions_in_snoc, delayTestStep, next_iteration_sleep_count]
        exact counted
      · intro _
        rw [ends, delayTestStep, next_iteration_current]
        rfl
      · intro _
        rw [delayTestStep, next_iteration_current]
        rfl
  | interrupted remaining =>
      have more : state.sleepCount + 1 =
          interruptionsIn (outcomes ++ [SleepOutcome.interrupted remaining]) := by
        rw [interruptions_in_snoc, counted]
        rfl
      unfold delayTestStep
      dsimp only
      split_ifs with again
      · simp only [Bool.and_eq_true, decide_eq_true_eq] at again
        obtain ⟨left, below⟩ := again
        constructor
        · intro _
          change state.current.slept + (state.sleepTime.nanoseconds - remaining.nanoseconds) +
            remaining.nanoseconds = _
          omega
        · exact more
        · intro _
          have retried : leavesTime (.interrupted remaining) = true := left
          rw [List.rtakeWhile_concat_pos _ _ _ retried, ← given.retrying (by omega)]
          rfl
        · intro spent
          exact absurd below (Nat.not_lt.mpr spent)
      · constructor
        · exact next_iteration_account _
        · rw [next_iteration_sleep_count]
          exact more
        · rw [next_iteration_current, next_iteration_sleep_count]
          intro below
          have none : ¬leavesTime (.interrupted remaining) = true := fun left => by
            exact again (by simp [show timeRemains remaining = true from left, below])
          rw [List.rtakeWhile_concat_neg _ _ _ none]
          rfl
        · intro _
          rw [next_iteration_current]
          rfl

theorem step_ends_properly_iff {outcome : SleepOutcome}
    (given : DelayTestInvariant outcomes state) (running : state.idx < testIterations)
    (allowed : outcome.Allowed state.sleepTime) :
    IterationsEndProperly (delayTestStep outcome state) ↔
      IterationsEndProperly state ∧ (leavesTime outcome = true → HasOwnBudget outcomes) := by
  cases outcome with
  | completed =>
      have ended : (state.current.record state.sleepTime .completed).EndsProperly :=
        .completed (record_last _ _ _) (given.account running)
      rw [delayTestStep, next_iteration_proper_iff]
      exact ⟨fun proper => ⟨proper.1, fun left => absurd left (by simp [leavesTime])⟩,
        fun proper => ⟨proper.1, ended⟩⟩
  | interrupted remaining =>
      rw [given.has_own_budget_iff]
      unfold delayTestStep
      dsimp only
      split_ifs with again
      · simp only [Bool.and_eq_true, decide_eq_true_eq] at again
        exact ⟨fun proper => ⟨proper, fun _ => .inl again.2⟩, fun proper => proper.1⟩
      · rw [next_iteration_proper_iff]
        refine and_congr_right fun _ => ?_
        by_cases left : timeRemains remaining = true
        · have spent : ¬state.sleepCount + 1 < maxSleepCalls := by simpa [left] using again
          rw [ends_with_time_left_iff _ _ allowed.1 left]
          simp [spent, leavesTime, left]
        · have ended : (state.current.record state.sleepTime
              (.interrupted remaining)).EndsProperly :=
            .nothingLeft remaining (record_last _ _ _) (nothing_remains allowed.1 left)
          exact ⟨fun _ time => absurd time left, fun _ => ended⟩

end Step

theorem follow_outcomes {outcomes : List SleepOutcome} {state : DelayTestState}
    (followed : delayTestSystem.follow anyStep outcomes .start = some state) :
    DelayTestInvariant outcomes state ∧ (IterationsEndProperly state ↔ OwnBudgets outcomes) := by
  induction outcomes using List.reverseRecOn generalizing state with
  | nil =>
      cases followed
      exact ⟨delay_test_invariant_start, fun _ => own_budgets_nil,
        fun _ _ member => absurd member List.not_mem_nil⟩
  | append_singleton outcomes outcome ih =>
      rw [follow_snoc_any] at followed
      obtain ⟨before, reached, taken⟩ := Option.bind_eq_some_iff.mp followed
      obtain ⟨given, proper⟩ := ih reached
      simp only [delayTestSystem] at taken
      split_ifs at taken with enabled
      cases taken
      refine ⟨delay_test_invariant_step given enabled.1, ?_⟩
      rw [step_ends_properly_iff given enabled.1 enabled.2, own_budgets_snoc, proper]

/-- For every sequence of outcomes the iterations so far have ended properly exactly if
each interruption that left time had its own budget. -/
theorem iterations_end_properly_iff {outcomes : List SleepOutcome} {state : DelayTestState}
    (followed : delayTestSystem.follow anyStep outcomes .start = some state) :
    IterationsEndProperly state ↔ OwnBudgets outcomes :=
  (follow_outcomes followed).2

/-- The first iteration uses up its budget in three interruptions that leave time; the
second completes at once. -/
theorem iterations_end_properly_iff_used_up :
    ∃ state, delayTestSystem.follow anyStep [.interrupted ⟨0, 9000000⟩,
        .interrupted ⟨0, 8000000⟩, .interrupted ⟨0, 7000000⟩, .completed] .start = some state ∧
      state.finished.length = 2 ∧ IterationsEndProperly state := by
  obtain ⟨state, followed, ended⟩ : ∃ state, delayTestSystem.follow anyStep
      [.interrupted ⟨0, 9000000⟩, .interrupted ⟨0, 8000000⟩, .interrupted ⟨0, 7000000⟩,
        .completed] .start = some state ∧ state.finished.length = 2 := ⟨_, rfl, rfl⟩
  refine ⟨state, followed, ended, (iterations_end_properly_iff followed).mpr ?_⟩
  have own : OwnBudgets ([] ++ [.interrupted ⟨0, 9000000⟩] ++ [.interrupted ⟨0, 8000000⟩] ++
      [.interrupted ⟨0, 7000000⟩] ++ [.completed]) := by
    simp only [own_budgets_snoc]
    exact ⟨⟨⟨⟨own_budgets_nil, fun _ => .inl (by decide)⟩, fun _ => .inl (by decide)⟩,
      fun _ => .inr (by decide)⟩, fun left => absurd left (by decide)⟩
  exact own

/-- The first iteration uses up its budget; the second gives up after one interruption,
with 9 ms left. -/
theorem second_iteration_gives_up :
    ¬∀ state, Reachable delayTestSystem anyStep state → IterationsEndProperly state := by
  intro always
  let gaveUp : Iteration := ⟨[.interrupted ⟨0, 9000000⟩], 1000000⟩
  have runs : ∃ state, Reachable delayTestSystem anyStep state ∧ gaveUp ∈ state.finished :=
    schedule_reaches
      [.interrupted ⟨0, 9000000⟩, .interrupted ⟨0, 8000000⟩, .interrupted ⟨0, 7000000⟩,
        .interrupted ⟨0, 9000000⟩] rfl (by decide)
  obtain ⟨state, reached, member⟩ := runs
  rcases always state reached gaveUp member with ⟨last, _⟩ | ⟨remaining, last, none⟩ | budget
  · cases last
  · cases last
    exact absurd none (by decide)
  · exact absurd budget (by decide)

end Schedulers.RtClock
