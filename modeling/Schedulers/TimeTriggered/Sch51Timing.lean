import Schedulers.TimeTriggered.Sch51Specifications
import Mathlib.Logic.Function.Iterate
import Mathlib.Tactic.Ring

/-!
# When slots become due

A periodic slot is a countdown that `SCH_Update` alone moves. Its `Delay` after
any number of updates is a function of its content at the start, whatever the
dispatcher does in between. From that function come the instants at which a
periodic task becomes due and their independence of the dispatch passes.
-/

namespace Schedulers.TimeTriggered

open Schedulers.InterruptibleProgram

set_option autoImplicit false

variable {maxTasks : Nat} {Task : Type}

/-- The slot is one whose `RunMe` the next `SCH_Update` increments. -/
def STask.BecomesDue (task : STask Task) : Prop := task.pTask ≠ none ∧ task.delay = 0

instance (task : STask Task) : Decidable task.BecomesDue :=
  decidable_of_iff (task.pTask.isSome = true ∧ task.delay = 0) (by
    simp [STask.BecomesDue, Option.isSome_iff_ne_none])

theorem update_task_run_me (task : STask Task) :
    (updateTask task).runMe = if task.BecomesDue then task.runMe + 1 else task.runMe := by
  obtain ⟨pTask, delay, period, runMe⟩ := task
  cases pTask <;> by_cases zero : delay = 0 <;> by_cases none : period = 0 <;>
    simp [updateTask, STask.BecomesDue, zero, none]

/-- Update number `number`, counted from one, makes slot `index` due. -/
def ReleasedAt (index : Fin maxTasks) (history : SchHistory maxTasks Task) (number : Nat) : Prop :=
  ∃ earlier, number = earlier + 1 ∧ ∃ before, (interruptStates history)[earlier]? = some before ∧
    (before.tasks index).BecomesDue

def delayAfter (start : STask Task) (updates : Nat) : Nat := (updateTask^[updates] start).delay

theorem iterate_update_p_task (start : STask Task) (updates : Nat) :
    (updateTask^[updates] start).pTask = start.pTask := by
  induction updates with
  | zero => rfl
  | succ updates ih => rw [Function.iterate_succ_apply', update_task_p_task, ih]

theorem iterate_update_period (start : STask Task) (updates : Nat) :
    (updateTask^[updates] start).period = start.period := by
  induction updates with
  | zero => rfl
  | succ updates ih => rw [Function.iterate_succ_apply', update_task_period, ih]

theorem update_task_delay_eq {left right : STask Task} (pTask : left.pTask = right.pTask)
    (delay : left.delay = right.delay) (period : left.period = right.period) :
    (updateTask left).delay = (updateTask right).delay := by
  unfold updateTask
  rw [pTask, delay]
  dsimp only
  rw [period]
  split_ifs <;> simp_all

theorem delay_after_succ (start : STask Task) (updates : Nat) :
    delayAfter start (updates + 1) =
      if start.pTask = none then delayAfter start updates
      else if delayAfter start updates = 0 then
        if start.period = 0 then 0 else start.period
      else delayAfter start updates - 1 := by
  have pTask := iterate_update_p_task start updates
  have period := iterate_update_period start updates
  rw [delayAfter, Function.iterate_succ_apply', delayAfter]
  generalize updateTask^[updates] start = task at *
  obtain ⟨taskPointer, delay, interval, runMe⟩ := task
  rw [← pTask, ← period]
  cases taskPointer <;> by_cases zero : delay = 0 <;> by_cases none : interval = 0 <;>
    simp [updateTask, zero, none]

theorem delay_before_first_release (start : STask Task) (occupied : start.pTask ≠ none)
    (updates : Nat) (early : updates ≤ start.delay) :
    delayAfter start updates = start.delay - updates := by
  induction updates with
  | zero => rfl
  | succ updates ih =>
      have previous := ih (by omega)
      have counting : start.delay - updates ≠ 0 := by omega
      rw [delay_after_succ, previous, if_neg occupied, if_neg counting]
      omega

/-- The reload takes one update of its own: after it the countdown needs `Period`
further updates to reach zero, and the one after those reloads again. -/
theorem delay_in_cycle (start : STask Task) (occupied : start.pTask ≠ none)
    (periodic : start.period ≠ 0) (cycle phase : Nat) (within : phase ≤ start.period) :
    delayAfter start (start.delay + 1 + cycle * (start.period + 1) + phase) =
      start.period - phase := by
  have advance (updates phase : Nat) (reloaded : delayAfter start updates = start.period)
      (within : phase ≤ start.period) :
      delayAfter start (updates + phase) = start.period - phase := by
    induction phase with
    | zero => exact reloaded
    | succ phase ih =>
        have previous := ih (by omega)
        have counting : start.period - phase ≠ 0 := by omega
        rw [← Nat.add_assoc, delay_after_succ, previous, if_neg occupied, if_neg counting]
        omega
  refine advance _ phase ?_ within
  induction cycle with
  | zero =>
      have arrived := delay_before_first_release start occupied start.delay le_rfl
      rw [Nat.zero_mul, Nat.add_zero, delay_after_succ, arrived, if_neg occupied]
      simp [periodic]
  | succ cycle ih =>
      have emptied := advance _ start.period ih le_rfl
      rw [Nat.sub_self] at emptied
      have next : start.delay + 1 + (cycle + 1) * (start.period + 1) =
          start.delay + 1 + cycle * (start.period + 1) + start.period + 1 := by ring
      rw [next, delay_after_succ, emptied, if_neg occupied]
      simp [periodic]

theorem delay_after_eq_zero (start : STask Task) (occupied : start.pTask ≠ none)
    (periodic : start.period ≠ 0) (updates : Nat) :
    delayAfter start updates = 0 ↔
      ∃ cycle, updates = start.delay + cycle * (start.period + 1) := by
  by_cases early : updates ≤ start.delay
  · rw [delay_before_first_release start occupied updates early]
    constructor
    · intro arrived
      exact ⟨0, by omega⟩
    · rintro ⟨cycle, rfl⟩
      omega
  · let since := updates - (start.delay + 1)
    let phase := since % (start.period + 1)
    have within : phase ≤ start.period := Nat.lt_succ_iff.mp (Nat.mod_lt _ (Nat.succ_pos _))
    have split : updates =
        start.delay + 1 + since / (start.period + 1) * (start.period + 1) + phase := by
      have division := Nat.div_add_mod' since (start.period + 1)
      omega
    constructor
    · intro arrived
      rw [split, delay_in_cycle start occupied periodic _ phase within] at arrived
      refine ⟨since / (start.period + 1) + 1, ?_⟩
      rw [Nat.add_mul]
      omega
    · rintro ⟨cycle, rfl⟩
      cases cycle with
      | zero => omega
      | succ cycle =>
          have last : start.delay + (cycle + 1) * (start.period + 1) =
              start.delay + 1 + cycle * (start.period + 1) + start.period := by ring
          rw [last, delay_in_cycle start occupied periodic cycle start.period le_rfl]
          omega

/-- Slot `index` and every update so far agree with the undisturbed countdown. -/
structure KeepsTiming (index : Fin maxTasks) (start : STask Task)
    (moment : SchMoment maxTasks Task) : Prop where
  pTask : (moment.state.tasks index).pTask = start.pTask
  period : (moment.state.tasks index).period = start.period
  delay : (moment.state.tasks index).delay = delayAfter start (interruptCount moment.history)
  found : ∀ before ∈ interruptStates moment.history,
    (before.tasks index).pTask = start.pTask ∧ (before.tasks index).period = start.period
  foundDelay : (interruptStates moment.history).map (fun before => (before.tasks index).delay) =
    (List.range (interruptCount moment.history)).map (delayAfter start)

theorem keeps_timing_start (index : Fin maxTasks) (state : SchState maxTasks Task) :
    KeepsTiming index (state.tasks index) ⟨[], state⟩ where
  pTask := rfl
  period := rfl
  delay := rfl
  found := by simp
  foundDelay := by simp [interruptCount]

theorem KeepsTiming.of_same {index : Fin maxTasks} {start : STask Task}
    {before after : SchMoment maxTasks Task} (given : KeepsTiming index start before)
    (pTask : (after.state.tasks index).pTask = (before.state.tasks index).pTask)
    (period : (after.state.tasks index).period = (before.state.tasks index).period)
    (delay : (after.state.tasks index).delay = (before.state.tasks index).delay)
    (interrupts : interruptStates after.history = interruptStates before.history) :
    KeepsTiming index start after where
  pTask := pTask.trans given.pTask
  period := period.trans given.period
  delay := by rw [delay, interruptCount, interrupts]; exact given.delay
  found := by rw [interrupts]; exact given.found
  foundDelay := by rw [interruptCount, interrupts]; exact given.foundDelay

theorem keeps_timing_update {index : Fin maxTasks} {start : STask Task}
    {moment : SchMoment maxTasks Task} (given : KeepsTiming index start moment) :
    KeepsTiming index start (moment.interrupted (schUpdate moment.state)) where
  pTask := by simpa using given.pTask
  period := by simpa using given.period
  delay := by
    have next := Function.iterate_succ_apply' updateTask (interruptCount moment.history) start
    simp only [Moment.interrupted_state, sch_update_tasks, Moment.interrupted_history,
      interruptCount, interrupt_states_append, interrupt_states_interrupt, List.length_append,
      List.length_singleton, delayAfter]
    rw [interruptCount] at next
    rw [next]
    exact update_task_delay_eq (given.pTask.trans (iterate_update_p_task _ _).symm) given.delay
      (given.period.trans (iterate_update_period _ _).symm)
  found := by
    intro before member
    simp only [Moment.interrupted_history, interrupt_states_append, interrupt_states_interrupt,
      List.mem_append, List.mem_singleton] at member
    rcases member with member | rfl
    · exact given.found before member
    · exact ⟨given.pTask, given.period⟩
  foundDelay := by
    have found := given.foundDelay
    have delay := given.delay
    simp only [interruptCount] at found delay
    simp only [Moment.interrupted_history, interrupt_states_append, interrupt_states_interrupt,
      interruptCount, List.map_append, List.length_append, List.length_singleton, List.range_succ,
      found, List.map_cons, List.map_nil, delay]

theorem keeps_timing_ignores (index other : Fin maxTasks) (start : STask Task)
    (different : index ≠ other) :
    IgnoresSlot (dispatchEvent other) other (KeepsTiming index start) := by
  intro before after change given
  have same := change.others index different
  obtain ⟨events, history, _⟩ := change.observed
  exact given.of_same (by rw [same]) (by rw [same]) (by rw [same]) (by simp [history])

def timingAssertion (index : Fin maxTasks) (start : STask Task) :
    Assertion (timer : Handler (SchState maxTasks Task)) (KeepsTiming index start) where
  holds := KeepsTiming index start
  sound _ given := given
  stable _ next given fires := by
    obtain rfl : next = schUpdate _ := fires
    exact keeps_timing_update given

/-- A dispatch pass never moves the countdown of a periodic slot. -/
theorem dispatch_keeps_timing (index : Fin maxTasks) (start : STask Task)
    (periodic : start.period ≠ 0) (passes : Nat) :
    Triple timer (KeepsTiming index start) (KeepsTiming index start) (dispatchPasses passes)
      fun _ => KeepsTiming index start := by
  let timing := timingAssertion index start
  let never : Assertion (timer : Handler (SchState maxTasks Task)) (KeepsTiming index start) :=
    { holds := fun _ => False, sound := fun _ given => given.elim
      stable := fun _ _ given _ => given.elim }
  refine triple_for_each timing fun _ _ => triple_for_each timing fun other _ => ?_
  by_cases same : index = other
  · subst same
    refine dispatch_task_spec index _ timing timing timing timing timing never
      (fun _ given _ => given) ?_ ?_ ?_ ?_ (fun _ given _ => given) ?_ fun _ given => given.elim
    · exact fun _ given => given.of_same rfl rfl rfl (by simp)
    · exact fun _ => triple_consequence (triple_done timing ()) (fun _ given => given)
        fun _ _ given => given.2
    · exact fun _ given => given.of_same rfl rfl rfl (by simp)
    · exact fun _ given => given.of_same (by simp) (by simp) (by simp) (by simp)
    · exact fun _ given none => periodic (given.period.symm.trans none)
  · exact frame_triple (dispatch_task_stays_in other) timing
      (keeps_timing_ignores index other start same)

theorem run_keeps_timing (index : Fin maxTasks) (start : SchState maxTasks Task)
    (periodic : (start.tasks index).period ≠ 0) {passes : Nat}
    {rest : SchProgram maxTasks Task Unit} {final : SchMoment maxTasks Task}
    (run : Reaches timer (dispatchPasses passes, ⟨[], start⟩) (rest, final)) :
    KeepsTiming index (start.tasks index) final :=
  (dispatch_keeps_timing index (start.tasks index) periodic passes).always_safe
    (keeps_timing_start index start) run

theorem KeepsTiming.released_iff {index : Fin maxTasks} {start : STask Task}
    {moment : SchMoment maxTasks Task} (given : KeepsTiming index start moment)
    (occupied : start.pTask ≠ none) (periodic : start.period ≠ 0) (number : Nat)
    (counted : number ≤ interruptCount moment.history) :
    ReleasedAt index moment.history number ↔
      ∃ cycle, number = start.delay + 1 + cycle * (start.period + 1) := by
  have found (earlier : Nat) : (interruptStates moment.history)[earlier]?.map
      (fun before => (before.tasks index).delay) =
      (List.range (interruptCount moment.history))[earlier]?.map (delayAfter start) := by
    rw [← List.getElem?_map, given.foundDelay, List.getElem?_map]
  constructor
  · rintro ⟨earlier, rfl, before, at_earlier, _, arrived⟩
    have value := found earlier
    rw [at_earlier, List.getElem?_range (by omega), Option.map_some, Option.map_some,
      Option.some.injEq, arrived] at value
    obtain ⟨cycle, same⟩ := (delay_after_eq_zero start occupied periodic earlier).mp value.symm
    exact ⟨cycle, by omega⟩
  · rintro ⟨cycle, same⟩
    let earlier := start.delay + cycle * (start.period + 1)
    have inside : earlier < (interruptStates moment.history).length := by
      rw [interruptCount] at counted
      omega
    refine ⟨earlier, by omega, (interruptStates moment.history)[earlier],
      List.getElem?_eq_getElem inside, ?_, ?_⟩
    · rw [(given.found _ (List.getElem_mem inside)).1]
      exact occupied
    · have value := found earlier
      rw [List.getElem?_eq_getElem inside, interruptCount, List.getElem?_range inside,
        Option.map_some, Option.map_some, Option.some.injEq] at value
      rw [value]
      exact (delay_after_eq_zero start occupied periodic earlier).mpr ⟨cycle, rfl⟩

/-- The updates that make slot `index` due are number `delay + 1` and then every
`interval`-th one. -/
def PeriodLaw (interval delay : Nat) (index : Fin maxTasks)
    (history : SchHistory maxTasks Task) : Prop :=
  ∀ number, number ≤ interruptCount history →
    (ReleasedAt index history number ↔ ∃ cycle, number = delay + 1 + cycle * interval)

theorem before_second_release {number delay period interval : Nat} (early : number ≤ delay + period)
    (long : period ≤ interval) :
    (∃ cycle, number = delay + 1 + cycle * interval) ↔ number = delay + 1 := by
  constructor
  · rintro ⟨cycle, rfl⟩
    cases cycle with
    | zero => omega
    | succ cycle =>
        rw [Nat.add_mul] at early
        omega
  · intro first
    exact ⟨0, by omega⟩

/-- A periodic task is released every `PERIOD + 1` ticks, not every `PERIOD`: the
update that finds `Delay` at zero reloads it without counting itself. The two
laws agree as long as no second release has come up. -/
theorem added_task_period_law (before : SchState maxTasks Task) (pFunction : Task)
    (delay period : Nat) (periodic : 1 ≤ period) (index : Fin maxTasks)
    (afterAdd : SchMoment maxTasks Task)
    (added : (schAddTask (some pFunction) delay period).run ⟨[], before⟩ =
      some (index.val, afterAdd))
    (passes : Nat) (rest : SchProgram maxTasks Task Unit) (final : SchMoment maxTasks Task)
    (run : Reaches timer (dispatchPasses passes, ⟨[], afterAdd.state⟩) (rest, final)) :
    PeriodLaw (period + 1) delay index final.history ∧
      (PeriodLaw period delay index final.history ↔
        interruptCount final.history ≤ delay + period) := by
  obtain ⟨slot, same, _, _, rfl⟩ := add_task_run _ _ _ _ _ _ added
  obtain rfl : index = slot := Fin.ext same
  have content : (SchState.setTask before index ⟨some pFunction, delay, period, 0⟩).tasks index =
      ⟨some pFunction, delay, period, 0⟩ := SchState.set_task_same _ _ _
  have nonzero : period ≠ 0 := by omega
  have timing := run_keeps_timing index _ (by rw [content]; exact nonzero) run
  rw [content] at timing
  have actual : PeriodLaw (period + 1) delay index final.history := by
    intro number counted
    exact timing.released_iff (by simp) nonzero number counted
  refine ⟨actual, ?_, ?_⟩
  · intro always
    by_contra second
    -- A second release after `PERIOD` ticks would be one update too early.
    have counted : delay + 1 + period ≤ interruptCount final.history := by omega
    have released := (always _ counted).mpr ⟨1, by omega⟩
    obtain ⟨cycle, late⟩ := (actual _ counted).mp released
    cases cycle with
    | zero => omega
    | succ cycle =>
        rw [Nat.add_mul] at late
        omega
  · intro short number counted
    have early := Nat.le_trans counted short
    rw [actual number counted, before_second_release early (Nat.le_succ period),
      before_second_release early (Nat.le_refl period)]

/-- A task added with `DELAY` 0 and `PERIOD` 1, watched for three updates. -/
theorem added_task_period_law_three_updates :
    ∃ (afterAdd final : SchMoment 4 Unit) (rest : SchProgram 4 Unit Unit),
      (schAddTask (some ()) 0 1).run ⟨[], .initial⟩ = some ((0 : Fin 4).val, afterAdd) ∧
      Reaches timer (dispatchPasses 1, ⟨[], afterAdd.state⟩) (rest, final) ∧
      interruptCount final.history = 3 ∧ PeriodLaw 2 0 0 final.history := by
  have watched (afterAdd : SchMoment 4 Unit) :=
    follow_reaches schUpdate (List.replicate 3 .interrupt)
      ((dispatchPasses 1 : SchProgram 4 Unit Unit), ⟨[], afterAdd.state⟩)
  refine ⟨_, _, _, rfl, watched _, by decide, ?_⟩
  exact (added_task_period_law .initial () 0 1 (by decide) 0 _ rfl 1 _ _ (watched _)).1

theorem period_law_fails_at_second_update :
    ¬∀ (afterAdd final : SchMoment 4 Unit) (rest : SchProgram 4 Unit Unit),
      (schAddTask (some ()) 0 1).run ⟨[], .initial⟩ = some ((0 : Fin 4).val, afterAdd) →
      Reaches timer (dispatchPasses 1, ⟨[], afterAdd.state⟩) (rest, final) →
        PeriodLaw 1 0 0 final.history := by
  intro always
  have law := always _ _ _ rfl (follow_reaches schUpdate [.interrupt, .interrupt] _)
  obtain ⟨earlier, second, before, found, due⟩ := (law 2 (by decide)).mpr ⟨1, rfl⟩
  obtain rfl : earlier = 1 := by omega
  obtain rfl := Option.some.inj found
  revert due
  decide

def delaysAfterUpdates (index : Fin maxTasks) (history : SchHistory maxTasks Task) : List Nat :=
  (interruptStates history).map fun before => ((schUpdate before).tasks index).delay

def foundDelayZero (index : Fin maxTasks) (history : SchHistory maxTasks Task) : List Bool :=
  (interruptStates history).map fun before => decide ((before.tasks index).delay = 0)

theorem KeepsTiming.found_delay_zero {index : Fin maxTasks} {start : STask Task}
    {moment : SchMoment maxTasks Task} (given : KeepsTiming index start moment) :
    foundDelayZero index moment.history =
      (List.range (interruptCount moment.history)).map
        fun updates => decide (delayAfter start updates = 0) := by
  have found := congrArg (List.map fun delay => decide (delay = 0)) given.foundDelay
  simp only [List.map_map, Function.comp_def] at found
  exact found

theorem KeepsTiming.delays_after_updates {index : Fin maxTasks} {start : STask Task}
    {moment : SchMoment maxTasks Task} (given : KeepsTiming index start moment) :
    delaysAfterUpdates index moment.history =
      (List.range (interruptCount moment.history)).map
        fun updates => (updateTask { start with delay := delayAfter start updates }).delay := by
  have found := congrArg (List.map fun delay => (updateTask { start with delay := delay }).delay)
    given.foundDelay
  simp only [List.map_map, Function.comp_def] at found
  rw [← found, delaysAfterUpdates]
  apply List.map_congr_left
  intro before member
  rw [sch_update_tasks]
  exact update_task_delay_eq (given.found before member).1 rfl (given.found before member).2

/-- Two runs with equally many updates agree on every release of a periodic slot,
wherever their dispatch passes and the statements of these stand. -/
theorem release_instants_independent_of_dispatch (start : SchState maxTasks Task)
    (index : Fin maxTasks) (periodic : 0 < (start.tasks index).period)
    (firstPasses secondPasses : Nat) (firstRest secondRest : SchProgram maxTasks Task Unit)
    (first second : SchMoment maxTasks Task)
    (firstRun : Reaches timer (dispatchPasses firstPasses, ⟨[], start⟩) (firstRest, first))
    (secondRun : Reaches timer (dispatchPasses secondPasses, ⟨[], start⟩) (secondRest, second))
    (sameUpdates : interruptCount first.history = interruptCount second.history) :
    delaysAfterUpdates index first.history = delaysAfterUpdates index second.history ∧
      foundDelayZero index first.history = foundDelayZero index second.history := by
  have nonzero : (start.tasks index).period ≠ 0 := by omega
  have left := run_keeps_timing index start nonzero firstRun
  have right := run_keeps_timing index start nonzero secondRun
  constructor
  · rw [left.delays_after_updates, right.delays_after_updates, sameUpdates]
  · rw [left.found_delay_zero, right.found_delay_zero, sameUpdates]

/-- A periodic and a due one-shot slot; one run dispatches between its updates,
the other takes both updates before its pass. -/
theorem release_instants_independent_of_dispatch_two_updates :
    let start : SchState 2 Unit :=
      (SchState.initial.setTask 0 ⟨some (), 1, 2, 0⟩).setTask 1 ⟨some (), 0, 0, 1⟩
    let dispatched :=
      follow schUpdate ([.interrupt] ++ List.replicate 12 .statement ++ [.interrupt])
      ((dispatchPasses 1 : SchProgram 2 Unit Unit), ⟨[], start⟩)
    let delayed := follow schUpdate [.interrupt, .interrupt]
      ((dispatchPasses 3 : SchProgram 2 Unit Unit), ⟨[], start⟩)
    delaysAfterUpdates 0 dispatched.2.history = delaysAfterUpdates 0 delayed.2.history ∧
      foundDelayZero 0 dispatched.2.history = foundDelayZero 0 delayed.2.history :=
  release_instants_independent_of_dispatch _ 0 (by decide) 1 3 _ _ _ _
    (follow_reaches schUpdate _ _) (follow_reaches schUpdate _ _) (by decide)

end Schedulers.TimeTriggered
