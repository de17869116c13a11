import Schedulers.TimeTriggered.Sch51Timing

/-!
# Activations counted, run and pending

Between the update that makes a periodic slot due and the call of its body the
activation is held in `RunMe`, a `tByte` that the interrupt and the dispatcher
both write. The balance of the three counts is an invariant of every
interleaving, modulo the 256 values a `tByte` has.
-/

namespace Schedulers.TimeTriggered

open Schedulers.InterruptibleProgram

set_option autoImplicit false

variable {maxTasks : Nat} {Task : Type}

def isCallOf (index : Fin maxTasks) :
    Observation (SchState maxTasks Task) (SchEvent maxTasks Task) → Bool
  | .event (.called slot _) => slot = index
  | _ => false

def callCount (index : Fin maxTasks) (history : SchHistory maxTasks Task) : Nat :=
  history.countP (isCallOf index)

/-- How many updates have found `Delay` of slot `index` equal to zero. -/
def dueCount (index : Fin maxTasks) (history : SchHistory maxTasks Task) : Nat :=
  (foundDelayZero index history).count true

theorem call_count_append (index : Fin maxTasks) (earlier later : SchHistory maxTasks Task) :
    callCount index (earlier ++ later) = callCount index earlier + callCount index later := by
  simp [callCount]

theorem due_count_append (index : Fin maxTasks) (earlier later : SchHistory maxTasks Task) :
    dueCount index (earlier ++ later) = dueCount index earlier + dueCount index later := by
  simp [dueCount, foundDelayZero]

theorem due_count_events (index : Fin maxTasks) (events : List (SchEvent maxTasks Task)) :
    dueCount index (events.map .event : SchHistory maxTasks Task) = 0 := by
  simp [dueCount, foundDelayZero]

theorem due_count_interrupt (index : Fin maxTasks) (before : SchState maxTasks Task) :
    dueCount index ([.interrupt before] : SchHistory maxTasks Task) =
      if (before.tasks index).delay = 0 then 1 else 0 := by
  by_cases zero : (before.tasks index).delay = 0 <;> simp [dueCount, foundDelayZero, zero]

theorem call_count_interrupt (index : Fin maxTasks) (before : SchState maxTasks Task) :
    callCount index ([.interrupt before] : SchHistory maxTasks Task) = 0 := by
  simp [callCount, isCallOf]

theorem call_count_other (index other : Fin maxTasks) (different : index ≠ other)
    (events : List (SchEvent maxTasks Task))
    (about : ∀ event ∈ events, dispatchEvent other event) :
    callCount index (events.map .event : SchHistory maxTasks Task) = 0 := by
  rw [callCount, List.countP_eq_zero]
  intro observation member
  obtain ⟨event, inside, rfl⟩ := List.mem_map.mp member
  cases event with
  | called slot pTask =>
      have same : slot = other := about _ inside
      simp [isCallOf, same, Ne.symm different]
  | _ => simp [isCallOf]

/-- `inFlight` is one from the call of the body until `RunMe -= 1`. -/
structure ActivationBalance (index : Fin maxTasks) (inFlight : Nat)
    (moment : SchMoment maxTasks Task) : Prop where
  occupied : (moment.state.tasks index).pTask ≠ none
  periodic : (moment.state.tasks index).period ≠ 0
  balance : (callCount index moment.history + (moment.state.tasks index).runMe.toNat) % 256 =
    (dueCount index moment.history + inFlight) % 256
  ordered : callCount index moment.history ≤ dueCount index moment.history

theorem activation_balance_update {index : Fin maxTasks} {inFlight : Nat}
    {moment : SchMoment maxTasks Task} (given : ActivationBalance index inFlight moment) :
    ActivationBalance index inFlight (moment.interrupted (schUpdate moment.state)) := by
  have occupied := given.occupied
  have balance := given.balance
  have ordered := given.ordered
  constructor
  · simpa using occupied
  · simpa using given.periodic
  · simp only [Moment.interrupted_history, Moment.interrupted_state, sch_update_tasks,
      call_count_append, call_count_interrupt, due_count_append, due_count_interrupt,
      update_task_run_me, STask.BecomesDue, occupied, ne_eq, not_false_eq_true, true_and]
    split_ifs
    · rw [UInt8.toNat_add]
      have one : (1 : UInt8).toNat = 1 := rfl
      omega
    · omega
  · simp only [Moment.interrupted_history, call_count_append, call_count_interrupt,
      due_count_append]
    omega

theorem call_count_elsewhere {index other : Fin maxTasks} (different : index ≠ other)
    {before after : SchMoment maxTasks Task}
    (change : SlotChange (dispatchEvent other) other before after) :
    callCount index after.history = callCount index before.history := by
  obtain ⟨events, history, about⟩ := change.observed
  rw [history, call_count_append, call_count_other index other different events about,
    Nat.add_zero]

theorem activation_balance_ignores (index other : Fin maxTasks) (inFlight : Nat)
    (different : index ≠ other) :
    IgnoresSlot (dispatchEvent other) other
      (ActivationBalance index inFlight : SchMoment maxTasks Task → Prop) := by
  intro before after change given
  have same := change.others index different
  obtain ⟨events, history, _⟩ := change.observed
  have calls := call_count_elsewhere different change
  have dues : dueCount index after.history = dueCount index before.history := by
    rw [history, due_count_append, due_count_events, Nat.add_zero]
  constructor
  · rw [same]; exact given.occupied
  · rw [same]; exact given.periodic
  · rw [same, calls, dues]; exact given.balance
  · rw [calls, dues]; exact given.ordered

def balanceAssertion (index : Fin maxTasks) (inFlight lead : Nat) :
    Assertion (timer : Handler (SchState maxTasks Task)) anyMoment where
  holds moment := ActivationBalance index inFlight moment ∧
    callCount index moment.history + lead ≤ dueCount index moment.history
  sound _ _ := trivial
  stable moment next given fires := by
    obtain rfl : next = schUpdate moment.state := fires
    refine ⟨activation_balance_update given.1, ?_⟩
    simp only [Moment.interrupted_history, call_count_append, call_count_interrupt,
      due_count_append]
    omega

theorem balance_called (index : Fin maxTasks) (moment : SchMoment maxTasks Task)
    (given : (balanceAssertion index 0 1).holds moment) :
    (balanceAssertion index 1 0).holds
      (moment.executed id fun state => [.called index (state.tasks index).pTask]) := by
  obtain ⟨before, leading⟩ := given
  have balance := before.balance
  have calls : callCount index
      (moment.executed id fun state => [.called index (state.tasks index).pTask]).history =
      callCount index moment.history + 1 := by
    simp [callCount, isCallOf]
  have dues : dueCount index
      (moment.executed id fun state => [.called index (state.tasks index).pTask]).history =
      dueCount index moment.history := by
    simp [dueCount, foundDelayZero]
  refine ⟨⟨before.occupied, before.periodic, ?_, ?_⟩, ?_⟩
  · rw [calls, dues]
    change (_ + (moment.state.tasks index).runMe.toNat) % 256 = _
    omega
  · omega
  · omega

theorem balance_returned (index : Fin maxTasks) (moment : SchMoment maxTasks Task)
    (given : (balanceAssertion index 1 0).holds moment) :
    (balanceAssertion index 1 0).holds (moment.executed id fun _ => [.returned index]) := by
  have calls : callCount index (moment.executed id fun _ => [.returned index]).history =
      callCount index moment.history := by
    simp [callCount, isCallOf]
  have dues : dueCount index (moment.executed id fun _ => [.returned index]).history =
      dueCount index moment.history := by
    simp [dueCount, foundDelayZero]
  refine ⟨⟨given.1.occupied, given.1.periodic, ?_, ?_⟩, ?_⟩
  · rw [calls, dues]; exact given.1.balance
  · rw [calls, dues]; exact given.1.ordered
  · rw [calls, dues]; exact given.2

/-- `RunMe -= 1` pays for the call, also when `RunMe` wrapped to zero meanwhile. -/
theorem balance_counted (index : Fin maxTasks) (moment : SchMoment maxTasks Task)
    (given : (balanceAssertion index 1 0).holds moment) :
    (balanceAssertion index 0 0).holds (moment.executed
      (fun state => state.setTask index
        { state.tasks index with runMe := (state.tasks index).runMe - 1 }) fun _ => []) := by
  have balance := given.1.balance
  refine ⟨⟨by simpa using given.1.occupied, by simpa using given.1.periodic, ?_, ?_⟩, ?_⟩
  · simp only [Moment.executed_history, Moment.executed_state, SchState.set_task_same,
      List.map_nil, List.append_nil, UInt8.toNat_sub]
    have one : (1 : UInt8).toNat = 1 := rfl
    omega
  · simpa using given.1.ordered
  · simpa using given.2

theorem dispatch_keeps_balance (index : Fin maxTasks) (passes : Nat) :
    Triple (timer : Handler (SchState maxTasks Task)) anyMoment
      (balanceAssertion index 0 0).holds (dispatchPasses passes)
      fun _ => (balanceAssertion index 0 0).holds := by
  let never : Assertion (timer : Handler (SchState maxTasks Task)) anyMoment :=
    { holds := fun _ => False, sound := fun _ _ => trivial, stable := fun _ _ given _ => given }
  apply triple_for_each (balanceAssertion index 0 0)
  intro _ _
  apply triple_for_each (balanceAssertion index 0 0)
  intro other _
  by_cases same : index = other
  · subst same
    apply dispatch_task_spec index _ (balanceAssertion index 0 0) (balanceAssertion index 0 1)
      (balanceAssertion index 1 0) (balanceAssertion index 1 0) (balanceAssertion index 0 0) never
    · intro moment given nonzero
      have balance := given.1.balance
      have ordered := given.1.ordered
      have small := (moment.state.tasks index).runMe.toNat_lt
      have pending : (moment.state.tasks index).runMe.toNat ≠ 0 := by
        intro zero
        exact nonzero (UInt8.toNat_inj.mp zero)
      exact ⟨given.1, by omega⟩
    · exact balance_called index
    · intro _
      exact triple_consequence (triple_done (balanceAssertion index 1 0) ())
        (fun _ given => given) fun _ _ given => given.2
    · exact balance_returned index
    · exact balance_counted index
    · exact fun _ given _ => given
    · exact fun _ given none => given.1.periodic none
    · exact fun _ given => given.elim
  · apply frame_triple (dispatch_task_stays_in other)
    intro before after change given
    obtain ⟨events, history, _⟩ := change.observed
    refine ⟨activation_balance_ignores index other 0 same before after change given.1, ?_⟩
    rw [call_count_elsewhere same change, history, due_count_append, due_count_events]
    exact given.2

theorem balance_after_add {pFunction : Task} {delay period : Nat} (periodic : period ≠ 0)
    {index : Fin maxTasks} {before : SchState maxTasks Task} {afterAdd : SchMoment maxTasks Task}
    (added : (schAddTask (some pFunction) delay period).run ⟨[], before⟩ =
      some (index.val, afterAdd)) :
    (balanceAssertion index 0 0).holds ⟨[], afterAdd.state⟩ := by
  obtain ⟨slot, same, _, _, rfl⟩ := add_task_run _ _ _ _ _ _ added
  obtain rfl : index = slot := Fin.ext same
  refine ⟨⟨?_, ?_, ?_, ?_⟩, ?_⟩ <;>
    simp [periodic, callCount, dueCount, foundDelayZero]

/-- After every complete dispatch pass the calls of the body and the activations
pending in `RunMe` account for the updates that found `Delay` zero modulo 256,
and exactly as long as fewer than 256 activations are pending. -/
theorem activations_balance_after_pass (before : SchState maxTasks Task) (pFunction : Task)
    (delay period : Nat) (periodic : 0 < period) (index : Fin maxTasks)
    (afterAdd : SchMoment maxTasks Task)
    (added : (schAddTask (some pFunction) delay period).run ⟨[], before⟩ =
      some (index.val, afterAdd))
    (passes : Nat) (final : SchMoment maxTasks Task)
    (run : Reaches timer (dispatchPasses passes, ⟨[], afterAdd.state⟩) (.done (), final)) :
    (callCount index final.history + (final.state.tasks index).runMe.toNat) % 256 =
        dueCount index final.history % 256 ∧
      callCount index final.history ≤ dueCount index final.history ∧
      (callCount index final.history + (final.state.tasks index).runMe.toNat =
          dueCount index final.history ↔
        dueCount index final.history - callCount index final.history < 256) := by
  have start := balance_after_add (by omega) added
  have kept := ((dispatch_keeps_balance index passes).finally start run).1
  have balance := kept.balance
  have ordered := kept.ordered
  have small := (final.state.tasks index).runMe.toNat_lt
  refine ⟨balance, ordered, ?_⟩
  omega

/-- One update, then one pass that runs the body. -/
theorem activations_balance_after_pass_one_update :
    ∃ afterAdd final : SchMoment 1 Unit,
      (schAddTask (some ()) 0 5).run ⟨[], .initial⟩ = some ((0 : Fin 1).val, afterAdd) ∧
      dueCount 0 final.history = 1 ∧ callCount 0 final.history = 1 ∧
      callCount 0 final.history + (final.state.tasks 0).runMe.toNat = dueCount 0 final.history := by
  have run (afterAdd : SchMoment 1 Unit) :=
    follow_done_reaches schUpdate (.interrupt :: List.replicate 5 .statement)
      ((dispatchPasses 1 : SchProgram 1 Unit Unit), ⟨[], afterAdd.state⟩) ()
  refine ⟨_, _, rfl, ?_, ?_, (activations_balance_after_pass .initial () 0 5 (by decide) 0 _ rfl 1
    _ (run _ rfl)).2.2.mpr ?_⟩ <;> decide

theorem dispatch_idle_run (body : Fin maxTasks → Task → SchProgram maxTasks Task Unit)
    (moment : SchMoment maxTasks Task)
    (nothingDue : ∀ index, (moment.state.tasks index).runMe = 0) :
    (schDispatchTasks body).run moment = some ((), moment) := by
  have idle (indices : List (Fin maxTasks)) :
      (Program.forEach indices (dispatchTask body)).run moment = some ((), moment) := by
    induction indices with
    | nil => rfl
    | cons index indices ih =>
        have skipped : (dispatchTask body index).run moment = some ((), moment) := by
          simp [dispatchTask, Program.read, Program.run, nothingDue index]
        rw [Program.forEach, Program.run_bind, skipped]
        exact ih
  exact idle _

theorem call_count_interrupted (index : Fin maxTasks) {start finish : SchMoment maxTasks Task}
    (path : Interrupted timer start finish) :
    callCount index finish.history = callCount index start.history := by
  induction path with
  | refl => rfl
  | tail _ last ih =>
      obtain ⟨next, _, rfl⟩ := last
      rw [Moment.interrupted_history, call_count_append, call_count_interrupt, ih, Nat.add_zero]

theorem due_count_period_one {index : Fin maxTasks} {start : STask Task}
    {moment : SchMoment maxTasks Task} (timing : KeepsTiming index start moment)
    (occupied : start.pTask ≠ none) (delay : start.delay = 0) (period : start.period = 1) :
    dueCount index moment.history =
      ((List.range (interruptCount moment.history)).map
        fun updates => decide (updates % 2 = 0)).count true := by
  have periodic : start.period ≠ 0 := by omega
  rw [dueCount, timing.found_delay_zero]
  apply congrArg (List.count true)
  apply List.map_congr_left
  intro updates _
  apply decide_eq_decide.mpr
  rw [delay_after_eq_zero start occupied periodic, delay, period]
  constructor
  · intro ⟨cycle, same⟩
    omega
  · intro even
    exact ⟨updates / 2, by omega⟩

/-- 511 updates of a task with `PERIOD` 1 before the first pass: the 256 activations
have wrapped `RunMe` to zero and the pass runs nothing. -/
theorem activations_lost_at_backlog_256 :
    ¬∀ afterAdd final : SchMoment 1 Unit,
      (schAddTask (some ()) 0 1).run ⟨[], .initial⟩ = some ((0 : Fin 1).val, afterAdd) →
      Reaches timer (dispatchPasses 1, ⟨[], afterAdd.state⟩) (.done (), final) →
        callCount 0 final.history + (final.state.tasks 0).runMe.toNat =
          dueCount 0 final.history := by
  intro always
  obtain ⟨afterAdd, added⟩ : ∃ afterAdd : SchMoment 1 Unit,
      (schAddTask (some ()) 0 1).run ⟨[], .initial⟩ = some ((0 : Fin 1).val, afterAdd) :=
    ⟨_, rfl⟩
  let start : SchMoment 1 Unit := ⟨[], afterAdd.state⟩
  obtain ⟨flooded, waiting, updates⟩ : ∃ flooded,
      Interrupted timer start flooded ∧ interruptCount flooded.history = 511 :=
    ⟨_, interrupted_after_interrupts schUpdate start 511,
      interrupt_count_after_interrupts schUpdate start 511⟩
  have content : afterAdd.state.tasks 0 = ⟨some (), 0, 1, 0⟩ := by
    obtain ⟨slot, _, _, _, final⟩ := add_task_run _ _ _ _ _ _ added
    obtain rfl : slot = 0 := Subsingleton.elim _ _
    rw [final, SchState.set_task_same]
  have timing : KeepsTiming 0 ⟨some (), 0, 1, 0⟩ flooded := by
    have initially := keeps_timing_start 0 afterAdd.state
    rw [content] at initially
    exact (timingAssertion 0 _).interrupted initially waiting
  have dues : dueCount 0 flooded.history = 256 := by
    rw [due_count_period_one timing (by simp) rfl rfl, updates]
    decide +kernel
  have calls : callCount 0 flooded.history = 0 := call_count_interrupted 0 waiting
  have wrapped : (flooded.state.tasks 0).runMe = 0 := by
    have balance := ((balanceAssertion 0 0 0).interrupted
      (balance_after_add (by decide) added) waiting).1.balance
    have small := (flooded.state.tasks 0).runMe.toNat_lt
    apply UInt8.toNat_inj.mp
    change (flooded.state.tasks 0).runMe.toNat = 0
    rw [calls, dues] at balance
    omega
  have pass : (dispatchPasses 1 : SchProgram 1 Unit Unit).run flooded = some ((), flooded) := by
    change ((schDispatchTasks fun _ _ => .done ()) >>= fun _ => .done ()).run flooded = _
    rw [Program.run_bind, dispatch_idle_run _ _ fun index => by
      rw [Subsingleton.elim index 0]
      exact wrapped]
    rfl
  have equal := always afterAdd flooded added
    ((interrupted_reaches _ waiting).trans (Program.run_reaches timer pass))
  rw [calls, dues, wrapped] at equal
  exact absurd equal (by decide)

end Schedulers.TimeTriggered
