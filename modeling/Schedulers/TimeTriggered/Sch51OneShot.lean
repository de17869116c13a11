import Schedulers.TimeTriggered.Sch51Activations

/-!
# One-shot tasks

A due one-shot keeps `Delay` at zero, so every further update counts its `RunMe` up
again, past 255 to zero if need be. It runs only once all the same, because the
dispatcher deletes the slot in the round that runs it; and since nobody else
empties a slot in these runs, that deletion never meets a free slot and leaves
`Error_code_G` alone.
-/

namespace Schedulers.TimeTriggered

open Schedulers.InterruptibleProgram

set_option autoImplicit false

variable {maxTasks : Nat} {Task : Type}

def NoErrorSet (history : SchHistory maxTasks Task) : Prop :=
  ∀ code, .event (.errorSet code) ∉ history

/-- The error code changes only in statements that show it. -/
def ErrorCodeShown (code : TByte) (moment : SchMoment maxTasks Task) : Prop :=
  NoErrorSet moment.history → moment.state.errorCode = code

theorem no_error_set_observe {history : SchHistory maxTasks Task} (given : NoErrorSet history)
    {events : List (SchEvent maxTasks Task)} (quiet : ∀ code, .errorSet code ∉ events) :
    NoErrorSet (history ++ events.map .event) := by
  intro code member
  rcases List.mem_append.mp member with before | after
  · exact given code before
  · obtain ⟨event, inside, same⟩ := List.mem_map.mp after
    cases same
    exact quiet code inside

theorem no_error_set_interrupt {history : SchHistory maxTasks Task} (given : NoErrorSet history)
    (before : SchState maxTasks Task) : NoErrorSet (history ++ [.interrupt before]) := by
  intro code member
  apply given code
  simpa using member

def noErrorSet :
    Assertion (timer : Handler (SchState maxTasks Task))
      (fun moment => NoErrorSet moment.history) where
  holds moment := NoErrorSet moment.history
  sound _ given := given
  stable moment _ given _ := no_error_set_interrupt given moment.state

theorem no_error_set_ignores (index : Fin maxTasks) :
    IgnoresSlot (errorEvent false) index
      (noErrorSet : Assertion (timer : Handler (SchState maxTasks Task)) _).holds := by
  intro before after change given
  obtain ⟨events, history, about⟩ := change.observed
  change NoErrorSet after.history
  rw [history]
  apply no_error_set_observe given
  intro code member
  exact Bool.false_ne_true (about _ member)

/-- No round sets an error code: a call through a null pointer does not return, so the
deletion after a call finds a task in the slot. -/
theorem dispatch_task_no_error_set (index : Fin maxTasks) :
    Triple (timer : Handler (SchState maxTasks Task)) (fun moment => NoErrorSet moment.history)
      noErrorSet.holds (dispatchTask (fun _ _ => .done ()) index) fun _ => noErrorSet.holds := by
  let occupied : SlotFact (timer : Handler (SchState maxTasks Task)) index :=
    .occupied timer_only_updates index
  apply dispatch_task_call_spec index _ noErrorSet noErrorSet noErrorSet
    (withSlot noErrorSet occupied) (withSlot noErrorSet occupied) (withSlot noErrorSet occupied)
    (withSlot noErrorSet occupied)
  · exact fun _ given _ => given
  · exact fun moment given _ => no_error_set_observe given (by simp)
  · exact fun moment given present => ⟨no_error_set_observe given (by simp), present⟩
  · intro _
    exact triple_consequence (triple_done (withSlot noErrorSet occupied) ())
      (fun _ given => given) fun _ _ given => given.2
  · exact fun moment given => ⟨no_error_set_observe given.1 (by simp), given.2⟩
  · intro moment given
    refine ⟨no_error_set_observe given.1 (by simp), ?_⟩
    rw [Moment.executed_state, SchState.set_task_same]
    exact given.2
  · exact fun _ given _ => given.1
  · exact fun _ given _ => given
  · exact triple_consequence
      (delete_task_spec timer_only_updates noErrorSet (no_error_set_ignores index) occupied
        fun _ _ given => given)
      (fun _ given => given) fun _ _ given => given.1

def errorCodeShown (code : TByte) :
    Assertion (timer : Handler (SchState maxTasks Task)) (ErrorCodeShown code) where
  holds := ErrorCodeShown code
  sound _ given := given
  stable moment next given fires := by
    obtain rfl : next = schUpdate moment.state := fires
    intro quiet
    rw [Moment.interrupted_state, sch_update_error_code]
    apply given
    intro shown member
    exact quiet shown (by simp [member])

def ShowsErrors (effect : SchState maxTasks Task → SchState maxTasks Task)
    (events : SchState maxTasks Task → List (SchEvent maxTasks Task)) : Prop :=
  ∀ state, (∃ code, .errorSet code ∈ events state) ∨
    (effect state).errorCode = state.errorCode

theorem shows_errors_quiet {Value : Type}
    {effect : SchState maxTasks Task → SchState maxTasks Task}
    {events : SchState maxTasks Task → List (SchEvent maxTasks Task)}
    (same : ∀ state, (effect state).errorCode = state.errorCode)
    {next : SchState maxTasks Task → SchProgram maxTasks Task Value}
    (rest : ∀ state, (next state).EveryStep ShowsErrors) :
    (.step effect events next : SchProgram maxTasks Task Value).EveryStep ShowsErrors :=
  ⟨fun state => .inr (same state), rest⟩

theorem read_shows_errors {Value : Type} (field : SchState maxTasks Task → Value) :
    (.read field : SchProgram maxTasks Task Value).EveryStep ShowsErrors :=
  shows_errors_quiet (fun _ => rfl) fun _ => trivial

theorem set_task_shows_errors (index : Fin maxTasks)
    (assign : SchState maxTasks Task → STask Task) :
    (.write (fun state => state.setTask index (assign state)) [] :
      SchProgram maxTasks Task Unit).EveryStep ShowsErrors :=
  shows_errors_quiet (fun _ => rfl) fun _ => trivial

theorem delete_task_shows_errors (index : Fin maxTasks) :
    (schDeleteTask index.val : SchProgram maxTasks Task TByte).EveryStep ShowsErrors := by
  simp only [schDeleteTask, read_task_fin, write_task_fin]
  apply Program.every_step_bind (read_shows_errors _)
  intro pTask
  apply Program.every_step_bind
  · split_ifs
    · exact ⟨fun _ => .inl ⟨_, List.mem_singleton_self _⟩, fun _ => trivial⟩
    · trivial
  · intro returnCode
    exact Program.every_step_bind (set_task_shows_errors index _) fun _ =>
      Program.every_step_bind (set_task_shows_errors index _) fun _ =>
        Program.every_step_bind (set_task_shows_errors index _) fun _ =>
          Program.every_step_bind (set_task_shows_errors index _) fun _ => trivial

theorem dispatch_task_shows_errors (index : Fin maxTasks) :
    (dispatchTask (fun _ _ => .done ()) index : SchProgram maxTasks Task Unit).EveryStep
      ShowsErrors := by
  simp only [dispatchTask, read_task_fin, write_task_fin]
  apply Program.every_step_bind (read_shows_errors _)
  intro runMe
  split_ifs
  · apply Program.every_step_bind
    · apply shows_errors_quiet (fun _ => rfl)
      intro state
      split
      · trivial
      · exact shows_errors_quiet (fun _ => rfl) fun _ => trivial
    · intro _
      apply Program.every_step_bind (set_task_shows_errors index _)
      intro _
      apply Program.every_step_bind (read_shows_errors _)
      intro period
      split_ifs
      · exact Program.every_step_bind (delete_task_shows_errors index) fun _ => trivial
      · trivial
  · trivial

theorem dispatch_task_error_code_shown (code : TByte) (index : Fin maxTasks) :
    Triple (timer : Handler (SchState maxTasks Task)) (ErrorCodeShown code)
      (errorCodeShown code).holds (dispatchTask (fun _ _ => .done ()) index)
      fun _ => (errorCodeShown code).holds := by
  apply triple_every_step
  have shows := @dispatch_task_shows_errors maxTasks Task index
  generalize dispatchTask (fun _ _ => .done ()) index = program at shows
  induction program with
  | done value => trivial
  | fault => trivial
  | step effect events next ih =>
      refine ⟨fun moment given quiet => ?_, fun state => ih state (shows.2 state)⟩
      rcases shows.1 moment.state with ⟨shown, member⟩ | same
      · exact absurd (by simp [member]) (quiet shown)
      · rw [Moment.executed_state, same]
        apply given
        intro shown member
        exact quiet shown (by simp [member])

theorem error_code_kept {program rest : SchProgram maxTasks Task Unit}
    {start : SchState maxTasks Task} {final : SchMoment maxTasks Task}
    (quiet : Triple timer (fun moment => NoErrorSet moment.history) noErrorSet.holds program
      fun _ => noErrorSet.holds)
    (shown : Triple timer (ErrorCodeShown start.errorCode) (errorCodeShown start.errorCode).holds
      program fun _ => (errorCodeShown start.errorCode).holds)
    (run : Reaches timer (program, ⟨[], start⟩) (rest, final)) :
    final.state.errorCode = start.errorCode := by
  have silent : NoErrorSet final.history :=
    quiet.always_safe (fun _ member => absurd member List.not_mem_nil) run
  exact shown.always_safe (fun _ => rfl) run silent

/-- Every call of the body in slot `index` comes after more than `delay` updates. -/
def CallsAfter (index : Fin maxTasks) (delay : Nat) (history : SchHistory maxTasks Task) : Prop :=
  EveryObservation (fun earlier observation => ∀ pTask,
    observation = .event (.called index pTask) → delay + 1 ≤ interruptCount earlier) history

theorem calls_after_interrupt {index : Fin maxTasks} {delay : Nat}
    {history : SchHistory maxTasks Task} (given : CallsAfter index delay history)
    (before : SchState maxTasks Task) :
    CallsAfter index delay (history ++ [.interrupt before]) :=
  every_observation_append_singleton.mpr ⟨given, fun _ same => nomatch same⟩

theorem calls_after_events {index : Fin maxTasks} {delay : Nat}
    {history : SchHistory maxTasks Task} {events : List (SchEvent maxTasks Task)}
    (about : ∀ event ∈ events, ∀ pTask, event ≠ .called index pTask)
    (given : CallsAfter index delay history) :
    CallsAfter index delay (history ++ events.map .event) := by
  refine append_events (fun history event other given => ?_) about given
  refine every_observation_append_singleton.mpr ⟨given, fun pTask same => ?_⟩
  cases same
  exact absurd rfl (other pTask)

/-- Not yet called: the countdown runs, and `RunMe` counts only after it has ended. -/
structure OneShotWaiting (index : Fin maxTasks) (delay : Nat)
    (moment : SchMoment maxTasks Task) : Prop where
  uncalled : callCount index moment.history = 0
  occupied : (moment.state.tasks index).pTask ≠ none
  single : (moment.state.tasks index).period = 0
  countdown : (moment.state.tasks index).delay = delay - interruptCount moment.history
  ripe : (moment.state.tasks index).runMe ≠ 0 → delay + 1 ≤ interruptCount moment.history

structure OneShotStarted (index : Fin maxTasks) (moment : SchMoment maxTasks Task) : Prop where
  called : callCount index moment.history = 1
  occupied : (moment.state.tasks index).pTask ≠ none
  single : (moment.state.tasks index).period = 0

structure OneShotGone (index : Fin maxTasks) (moment : SchMoment maxTasks Task) : Prop where
  called : callCount index moment.history = 1
  empty : moment.state.tasks index = .zero

theorem interrupt_count_interrupted (moment : SchMoment maxTasks Task)
    (next : SchState maxTasks Task) :
    interruptCount (moment.interrupted next).history = interruptCount moment.history + 1 := by
  simp [interruptCount]

theorem OneShotWaiting.update {index : Fin maxTasks} {delay : Nat}
    {moment : SchMoment maxTasks Task} (given : OneShotWaiting index delay moment) :
    OneShotWaiting index delay (moment.interrupted (schUpdate moment.state)) := by
  have single := given.single
  have occupied := given.occupied
  have countdown := given.countdown
  have ripe := given.ripe
  have present : (moment.state.tasks index).pTask.isSome = true := by
    rwa [Option.isSome_iff_ne_none]
  have counted := interrupt_count_interrupted moment (schUpdate moment.state)
  constructor
  · rw [Moment.interrupted_history, call_count_append, call_count_interrupt, given.uncalled]
  · simpa using occupied
  · simpa using single
  · rw [counted, Moment.interrupted_state, sch_update_tasks, updateTask, if_pos present]
    by_cases zero : (moment.state.tasks index).delay = 0
    · simp only [if_pos zero, single, ne_eq, not_true_eq_false, if_false]
      omega
    · rw [if_neg zero]
      dsimp only
      omega
  · rw [counted, Moment.interrupted_state, sch_update_tasks, update_task_run_me]
    intro nonzero
    by_cases due : (moment.state.tasks index).BecomesDue
    · have zero : (moment.state.tasks index).delay = 0 := due.2
      omega
    · rw [if_neg due] at nonzero
      have before := ripe nonzero
      omega

theorem OneShotStarted.update {index : Fin maxTasks} {moment : SchMoment maxTasks Task}
    (given : OneShotStarted index moment) :
    OneShotStarted index (moment.interrupted (schUpdate moment.state)) where
  called := by
    rw [Moment.interrupted_history, call_count_append, call_count_interrupt, given.called]
  occupied := by simpa using given.occupied
  single := by simpa using given.single

theorem OneShotGone.update {index : Fin maxTasks} {moment : SchMoment maxTasks Task}
    (given : OneShotGone index moment) :
    OneShotGone index (moment.interrupted (schUpdate moment.state)) where
  called := by
    rw [Moment.interrupted_history, call_count_append, call_count_interrupt, given.called]
  empty := by
    rw [Moment.interrupted_state, sch_update_tasks, given.empty]
    exact update_task_free rfl

def OneShotSafe (index : Fin maxTasks) (delay : Nat) (moment : SchMoment maxTasks Task) : Prop :=
  callCount index moment.history ≤ 1 ∧ CallsAfter index delay moment.history

def oneShotIdle (index : Fin maxTasks) (delay : Nat) :
    Assertion (timer : Handler (SchState maxTasks Task)) (OneShotSafe index delay) where
  holds moment := (OneShotWaiting index delay moment ∨ OneShotGone index moment) ∧
    CallsAfter index delay moment.history
  sound moment given := by
    refine ⟨?_, given.2⟩
    rcases given.1 with waiting | gone
    · rw [waiting.uncalled]
      omega
    · rw [gone.called]
  stable moment next given fires := by
    obtain rfl : next = schUpdate moment.state := fires
    refine ⟨?_, calls_after_interrupt given.2 moment.state⟩
    rcases given.1 with waiting | gone
    · exact .inl waiting.update
    · exact .inr gone.update

def oneShotReady (index : Fin maxTasks) (delay : Nat) :
    Assertion (timer : Handler (SchState maxTasks Task)) (OneShotSafe index delay) where
  holds moment := OneShotWaiting index delay moment ∧
    delay + 1 ≤ interruptCount moment.history ∧ CallsAfter index delay moment.history
  sound moment given := by
    refine ⟨?_, given.2.2⟩
    rw [given.1.uncalled]
    omega
  stable moment next given fires := by
    obtain rfl : next = schUpdate moment.state := fires
    refine ⟨given.1.update, ?_, calls_after_interrupt given.2.2 moment.state⟩
    rw [interrupt_count_interrupted]
    omega

def oneShotStarted (index : Fin maxTasks) (delay : Nat) :
    Assertion (timer : Handler (SchState maxTasks Task)) (OneShotSafe index delay) where
  holds moment := OneShotStarted index moment ∧ CallsAfter index delay moment.history
  sound _ given := ⟨given.1.called.le, given.2⟩
  stable moment next given fires := by
    obtain rfl : next = schUpdate moment.state := fires
    exact ⟨given.1.update, calls_after_interrupt given.2 moment.state⟩

def oneShotCalled (index : Fin maxTasks) (delay : Nat) :
    Assertion (timer : Handler (SchState maxTasks Task)) (OneShotSafe index delay) where
  holds moment := callCount index moment.history = 1 ∧ CallsAfter index delay moment.history
  sound _ given := ⟨given.1.le, given.2⟩
  stable moment next given _ := by
    refine ⟨?_, calls_after_interrupt given.2 moment.state⟩
    rw [Moment.interrupted_history, call_count_append, call_count_interrupt, given.1]

theorem one_shot_called_ignores (index : Fin maxTasks) (delay : Nat) :
    IgnoresSlot (errorEvent true) index (@oneShotCalled maxTasks Task index delay).holds := by
  intro before after change given
  obtain ⟨events, history, about⟩ := change.observed
  have noCall (event : SchEvent maxTasks Task) (member : event ∈ events) (pTask : Option Task) :
      event ≠ .called index pTask := by
    rintro rfl
    exact about _ member
  constructor
  · have silent : callCount index (events.map .event : SchHistory maxTasks Task) = 0 := by
      rw [callCount, List.countP_eq_zero]
      intro observation member
      obtain ⟨event, inside, rfl⟩ := List.mem_map.mp member
      cases event with
      | called slot pTask => exact (about _ inside).elim
      | _ => simp [isCallOf]
    rw [history, call_count_append, silent, given.1]
  · rw [history]
    exact calls_after_events noCall given.2

/-- The deletion after the call empties the slot, whatever `RunMe` has become. -/
theorem one_shot_removed (index : Fin maxTasks) (delay : Nat) :
    Triple (timer : Handler (SchState maxTasks Task)) (OneShotSafe index delay)
      (oneShotStarted index delay).holds (schDeleteTask index.val)
      fun _ => (oneShotIdle index delay).holds := by
  apply triple_consequence (delete_any_task_spec timer_only_updates (oneShotCalled index delay)
    (one_shot_called_ignores index delay))
  · exact fun _ given => ⟨given.1.called, given.2⟩
  · exact fun _ _ given => ⟨.inr ⟨given.1.1, given.2⟩, given.1.2⟩

theorem one_shot_called {index : Fin maxTasks} {delay : Nat} {moment : SchMoment maxTasks Task}
    (given : (oneShotReady index delay).holds moment) :
    (oneShotStarted index delay).holds
      (moment.executed id fun state => [.called index (state.tasks index).pTask]) := by
  obtain ⟨waiting, ripe, punctual⟩ := given
  refine ⟨⟨?_, waiting.occupied, waiting.single⟩, ?_⟩
  · rw [Moment.executed_history, call_count_append, waiting.uncalled]
    simp [callCount, isCallOf]
  · exact every_observation_append_singleton.mpr ⟨punctual, fun _ _ => ripe⟩

theorem one_shot_round (index : Fin maxTasks) (delay : Nat) :
    Triple (timer : Handler (SchState maxTasks Task)) (OneShotSafe index delay)
      (oneShotIdle index delay).holds (dispatchTask (fun _ _ => .done ()) index)
      fun _ => (oneShotIdle index delay).holds := by
  let started := @oneShotStarted maxTasks Task index delay
  apply dispatch_task_spec index _ (oneShotIdle index delay) (oneShotReady index delay)
    started started started started
  · intro moment given nonzero
    rcases given.1 with waiting | gone
    · exact ⟨waiting, waiting.ripe nonzero, given.2⟩
    · rw [gone.empty] at nonzero
      exact absurd rfl nonzero
  · exact fun _ given => one_shot_called given
  · intro _
    exact triple_consequence (triple_done started ()) (fun _ given => given) fun _ _ given =>
      given.2
  · intro moment given
    refine ⟨⟨?_, given.1.occupied, given.1.single⟩, ?_⟩
    · rw [Moment.executed_history, call_count_append, given.1.called]
      simp [callCount, isCallOf]
    · exact calls_after_events (by simp) given.2
  · intro moment given
    refine ⟨⟨?_, ?_, ?_⟩, ?_⟩
    · simpa using given.1.called
    · rw [Moment.executed_state, SchState.set_task_same]
      exact given.1.occupied
    · rw [Moment.executed_state, SchState.set_task_same]
      exact given.1.single
    · simpa using given.2
  · exact fun _ given periodic => absurd given.1.single periodic
  · exact fun _ given _ => given
  · exact one_shot_removed index delay

theorem one_shot_idle_ignores {index other : Fin maxTasks} (different : index ≠ other)
    (delay : Nat) :
    IgnoresSlot (dispatchEvent other) other (@oneShotIdle maxTasks Task index delay).holds := by
  intro before after change given
  have same := change.others index different
  obtain ⟨events, history, about⟩ := change.observed
  have calls := call_count_elsewhere different change
  have interrupts : interruptCount after.history = interruptCount before.history := by
    rw [history, interruptCount, interrupt_states_append, interrupt_states_events,
      List.append_nil, interruptCount]
  constructor
  · rcases given.1 with waiting | gone
    · left
      constructor
      · rw [calls]; exact waiting.uncalled
      · rw [same]; exact waiting.occupied
      · rw [same]; exact waiting.single
      · rw [same, interrupts]; exact waiting.countdown
      · rw [same, interrupts]; exact waiting.ripe
    · right
      constructor
      · rw [calls]; exact gone.called
      · rw [same]; exact gone.empty
  · rw [history]
    apply calls_after_events _ given.2
    rintro event member pTask rfl
    exact different (about _ member)

theorem one_shot_any_round (index other : Fin maxTasks) (delay : Nat) :
    Triple (timer : Handler (SchState maxTasks Task)) (OneShotSafe index delay)
      (oneShotIdle index delay).holds (dispatchTask (fun _ _ => .done ()) other)
      fun _ => (oneShotIdle index delay).holds := by
  by_cases same : index = other
  · rw [← same]
    exact one_shot_round index delay
  · exact frame_triple (dispatch_task_stays_in other) _ (one_shot_idle_ignores same delay)

/-- Whole passes, and one more as far as the end of the round of slot `index`. -/
def dispatchUpTo (passes : Nat) (index : Fin maxTasks) : SchProgram maxTasks Task Unit := do
  dispatchPasses passes
  .forEach ((List.finRange maxTasks).take (index.val + 1)) (dispatchTask fun _ _ => .done ())

theorem dispatch_up_to_continues (passes : Nat) (index : Fin maxTasks) :
    (dispatchPasses (passes + 1) : SchProgram maxTasks Task Unit) =
      dispatchUpTo passes index >>= fun _ =>
        .forEach ((List.finRange maxTasks).drop (index.val + 1))
          (dispatchTask fun _ _ => .done ()) := by
  have lastPass : (Program.forEach [passes] fun _ => schDispatchTasks fun _ _ => .done () :
      SchProgram maxTasks Task Unit) = schDispatchTasks fun _ _ => .done () :=
    Program.bind_done _
  rw [dispatchPasses, List.range_succ, Program.for_each_append, lastPass, dispatchUpTo,
    Program.bind_assoc]
  congr 1
  funext _
  rw [← Program.for_each_append, List.take_append_drop, schDispatchTasks]

section Passes

variable {safe : SchMoment maxTasks Task → Prop}

theorem passes_keep (idle : Assertion (timer : Handler (SchState maxTasks Task)) safe)
    (round : ∀ slot, Triple timer safe idle.holds (dispatchTask (fun _ _ => .done ()) slot)
      fun _ => idle.holds) (passes : Nat) :
    Triple timer safe idle.holds (dispatchPasses passes) fun _ => idle.holds := by
  apply triple_for_each idle
  intro _ _
  exact triple_for_each idle fun slot _ => round slot

theorem up_to_keeps (idle : Assertion (timer : Handler (SchState maxTasks Task)) safe)
    (round : ∀ slot, Triple timer safe idle.holds (dispatchTask (fun _ _ => .done ()) slot)
      fun _ => idle.holds) (passes : Nat) (index : Fin maxTasks) :
    Triple timer safe idle.holds (dispatchUpTo passes index) fun _ => idle.holds :=
  triple_bind _ (passes_keep idle round passes) fun _ =>
    triple_for_each idle fun slot _ => round slot

end Passes

theorem one_shot_after_add {pFunction : Task} {delay : Nat} {index : Fin maxTasks}
    {before : SchState maxTasks Task} {afterAdd : SchMoment maxTasks Task}
    (added : (schAddTask (some pFunction) delay 0).run ⟨[], before⟩ =
      some (index.val, afterAdd)) :
    (oneShotIdle index delay).holds ⟨[], afterAdd.state⟩ ∧
      afterAdd.state.errorCode = before.errorCode := by
  obtain ⟨slot, same, _, _, rfl⟩ := add_task_run _ _ _ _ _ _ added
  obtain rfl : index = slot := Fin.ext same
  refine ⟨⟨.inl ⟨rfl, ?_, ?_, ?_, ?_⟩, every_observation_nil _⟩, rfl⟩ <;> simp [interruptCount]

/-- A task added with `PERIOD` 0 runs at most once and only after more than `DELAY`
updates, and when the round that ran it is over its slot is empty. The error code
stays what it was before the Add. -/
theorem one_shot_runs_once (before : SchState maxTasks Task) (pFunction : Task) (delay : Nat)
    (index : Fin maxTasks) (afterAdd : SchMoment maxTasks Task)
    (added : (schAddTask (some pFunction) delay 0).run ⟨[], before⟩ =
      some (index.val, afterAdd)) :
    (∀ passes (rest : SchProgram maxTasks Task Unit) (final : SchMoment maxTasks Task),
      Reaches timer (dispatchPasses passes, ⟨[], afterAdd.state⟩) (rest, final) →
      callCount index final.history ≤ 1 ∧ CallsAfter index delay final.history ∧
        final.state.errorCode = before.errorCode) ∧
    (∀ passes (final : SchMoment maxTasks Task),
      Reaches timer (dispatchUpTo passes index, ⟨[], afterAdd.state⟩) (.done (), final) →
      callCount index final.history = 1 →
      final.state.tasks index = .zero ∧ final.state.errorCode = before.errorCode) := by
  obtain ⟨start, code⟩ := one_shot_after_add added
  rw [← code]
  constructor
  · intro passes rest final run
    have safe := (passes_keep _ (one_shot_any_round index · delay) passes).always_safe start run
    exact ⟨safe.1, safe.2, error_code_kept
      (passes_keep _ dispatch_task_no_error_set passes)
      (passes_keep _ (dispatch_task_error_code_shown _) passes) run⟩
  · intro passes final run called
    have idle := (up_to_keeps _ (one_shot_any_round index · delay) passes index).finally start run
    constructor
    · rcases idle.1 with waiting | gone
      · rw [waiting.uncalled] at called
        exact absurd called (by decide)
      · exact gone.empty
    · exact error_code_kept
        (up_to_keeps _ dispatch_task_no_error_set passes index)
        (up_to_keeps _ (dispatch_task_error_code_shown _) passes index) run

/-- `DELAY` 1: after two updates the task is called; a third comes while its body runs,
and the deletion empties the slot all the same. -/
theorem one_shot_runs_once_update_in_body :
    ∃ afterAdd final : SchMoment 1 Unit,
      (schAddTask (some ()) 1 0).run ⟨[], .initial⟩ = some ((0 : Fin 1).val, afterAdd) ∧
      interruptCount final.history = 3 ∧ callCount 0 final.history = 1 ∧
      final.state.tasks 0 = .zero ∧ final.state.errorCode = 0 := by
  obtain ⟨afterAdd, added⟩ : ∃ afterAdd : SchMoment 1 Unit,
      (schAddTask (some ()) 1 0).run ⟨[], .initial⟩ = some ((0 : Fin 1).val, afterAdd) := ⟨_, rfl⟩
  have runs := (one_shot_runs_once .initial () 1 0 afterAdd added).2 0
  obtain ⟨slot, here, _, _, rfl⟩ := add_task_run _ _ _ _ _ _ added
  obtain rfl : 0 = slot := Fin.ext here
  have run := follow_done_reaches schUpdate
    ([.interrupt, .interrupt, .statement, .statement, .interrupt] ++ List.replicate 10 .statement)
    ((dispatchUpTo 0 0 : SchProgram 1 Unit Unit),
      ⟨[], SchState.initial.setTask 0 ⟨some (), 1, 0, 0⟩⟩) () rfl
  refine ⟨_, _, added, ?_, ?_, runs _ run ?_⟩
  · decide
  · decide
  · decide

end Schedulers.TimeTriggered
