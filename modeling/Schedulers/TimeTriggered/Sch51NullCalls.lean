import Schedulers.TimeTriggered.Sch51Specifications

/-!
# The dispatcher never calls through a null pointer

`SCH_Dispatch_Tasks` tests `RunMe` and not `pTask`. It is safe because a free
slot is all zero. That invariant is broken while `SCH_Delete_Task` is under way,
and again when a body has deleted its own slot and `RunMe -= 1` leaves 255 in an
empty slot; there `Period` is zero, so the dispatcher deletes the slot once more.
-/

namespace Schedulers.TimeTriggered

open Schedulers.InterruptibleProgram

set_option autoImplicit false

variable {maxTasks : Nat} {Task : Type}

def CallsNonNull (moment : SchMoment maxTasks Task) : Prop :=
  ∀ index pTask, .event (.called index pTask) ∈ moment.history → pTask ≠ none

def STask.Settled (task : STask Task) : Prop := task.pTask = none → task = .zero

theorem update_task_settled {task : STask Task} (settled : task.Settled) :
    (updateTask task).Settled := by
  intro free
  rw [update_task_p_task] at free
  rw [update_task_free free]
  exact settled free

theorem calls_non_null_interrupted {moment : SchMoment maxTasks Task}
    (given : CallsNonNull moment) (next : SchState maxTasks Task) :
    CallsNonNull (moment.interrupted next) := by
  intro index pTask member
  apply given index pTask
  simpa using member

def settledExcept (opened : Fin maxTasks → Prop) :
    Assertion (timer : Handler (SchState maxTasks Task)) CallsNonNull where
  holds moment := CallsNonNull moment ∧
    ∀ index, ¬opened index → (moment.state.tasks index).Settled
  sound _ given := given.1
  stable moment next given fires := by
    obtain rfl : next = schUpdate moment.state := fires
    refine ⟨calls_non_null_interrupted given.1 _, ?_⟩
    intro index closed
    rw [Moment.interrupted_state, sch_update_tasks]
    exact update_task_settled (given.2 index closed)

def allSettled : Assertion (timer : Handler (SchState maxTasks Task)) CallsNonNull :=
  settledExcept fun _ => False

theorem settled_except_ignores (errors : Bool) (index : Fin maxTasks) :
    IgnoresSlot (errorEvent errors) index
      (settledExcept (· = index) :
        Assertion (timer : Handler (SchState maxTasks Task)) _).holds := by
  intro before after change given
  obtain ⟨events, history, about⟩ := change.observed
  constructor
  · intro slot pTask member
    rw [history, List.mem_append] at member
    rcases member with member | member
    · exact given.1 slot pTask member
    · obtain ⟨event, inside, same⟩ := List.mem_map.mp member
      cases same
      exact (about _ inside).elim
  · intro slot other
    rw [change.others slot other]
    exact given.2 slot other

theorem all_settled_of_except {index : Fin maxTasks} {moment : SchMoment maxTasks Task}
    (others : (settledExcept (· = index)).holds moment)
    (own : (moment.state.tasks index).Settled) : allSettled.holds moment := by
  refine ⟨others.1, fun slot _ => ?_⟩
  by_cases same : slot = index
  · rw [same]
    exact own
  · exact others.2 slot same

theorem settled_except_of_all {moment : SchMoment maxTasks Task} (index : Fin maxTasks)
    (given : allSettled.holds moment) : (settledExcept (· = index)).holds moment :=
  ⟨given.1, fun slot _ => given.2 slot id⟩

theorem CallsNonNull.observe {moment : SchMoment maxTasks Task} (given : CallsNonNull moment)
    (effect : SchState maxTasks Task → SchState maxTasks Task)
    (events : SchState maxTasks Task → List (SchEvent maxTasks Task))
    (sound : ∀ index pTask, .called index pTask ∈ events moment.state → pTask ≠ none) :
    CallsNonNull (moment.executed effect events) := by
  intro index pTask member
  rw [Moment.executed_history, List.mem_append] at member
  rcases member with member | member
  · exact given index pTask member
  · obtain ⟨event, inside, same⟩ := List.mem_map.mp member
    cases same
    exact sound index pTask inside

theorem delete_task_settles (index : Fin maxTasks) :
    Triple (timer : Handler (SchState maxTasks Task)) CallsNonNull
      (settledExcept (· = index)).holds (schDeleteTask index.val)
      fun _ => allSettled.holds := by
  apply triple_consequence (delete_any_task_spec timer_only_updates (settledExcept (· = index))
    (settled_except_ignores true index))
  · exact fun _ given => given
  · intro _ moment given
    exact all_settled_of_except given.1 fun _ => given.2

theorem add_task_settles (pFunction : Task) (delay period : Nat) :
    Triple (timer : Handler (SchState maxTasks Task)) CallsNonNull
      allSettled.holds (schAddTask (some pFunction) delay period)
      fun _ => allSettled.holds := by
  have adds : Triple (timer : Handler (SchState maxTasks Task)) CallsNonNull
      allSettled.holds (schAddTask (some pFunction) delay period)
      fun found moment => ∃ slot : Fin maxTasks, found = slot.val ∧ allSettled.holds moment := by
    apply add_task_spec timer_only_updates (some pFunction) delay period allSettled
      (fun slot => settledExcept (· = slot)) (fun _ => allSettled)
      (settled_except_ignores false) (fun slot _ given _ => settled_except_of_all slot given)
      (fun _ => True) trivial (fun _ _ _ _ _ => trivial)
    intro slot moment given named _ _
    apply @all_settled_of_except _ _ slot
    · refine ⟨given.1.observe _ _ (by simp), fun other different => ?_⟩
      rw [Moment.executed_state, SchState.set_task_other _ _ different]
      exact given.2 other different
    · intro free
      simp [named] at free
  apply triple_consequence adds
  · exact fun _ given => given
  · intro _ _ ⟨_, _, given⟩
    exact given

theorem request_settles (request : Request maxTasks Task) :
    Triple timer CallsNonNull allSettled.holds request.perform fun _ => allSettled.holds := by
  have finish : Triple (timer : Handler (SchState maxTasks Task)) CallsNonNull
      allSettled.holds (.done ()) fun _ => allSettled.holds :=
    triple_consequence (triple_done allSettled ()) (fun _ given => given) fun _ _ given => given.2
  cases request with
  | add pFunction delay period =>
      exact triple_bind _ (add_task_settles pFunction delay period) fun _ => finish
  | delete index =>
      apply triple_step allSettled
      intro moment given
      apply triple_bind _ (delete_task_settles index) (fun _ => finish)
      apply settled_except_of_all index
      exact ⟨given.1.observe _ _ (by simp), given.2⟩

theorem dispatch_task_settles (bodies : Bodies maxTasks Task) (index : Fin maxTasks) :
    Triple timer CallsNonNull allSettled.holds (dispatchTask (runBody bodies) index)
      fun _ => allSettled.holds := by
  let occupied : SlotFact (timer : Handler (SchState maxTasks Task)) index :=
    .occupied timer_only_updates index
  -- After `RunMe -= 1` the slot may be free with `RunMe` 255, but then `Period` is zero.
  let freeIsOneShot : SlotFact (timer : Handler (SchState maxTasks Task)) index :=
    { holds := fun task => task.pTask = none → task.period = 0
      kept := fun before after fires given => by
        rw [timer_only_updates before after fires, sch_update_tasks, update_task_p_task,
          update_task_period]
        exact given }
  apply dispatch_task_spec index _ allSettled (withSlot allSettled occupied) allSettled allSettled
    (withSlot (settledExcept (· = index)) freeIsOneShot) (settledExcept (· = index))
  · intro moment given nonzero
    refine ⟨given, fun free => nonzero ?_⟩
    rw [given.2 index id free]
    rfl
  · intro moment given
    refine ⟨given.1.1.observe _ _ ?_, given.1.2⟩
    intro slot pTask member
    simp only [List.mem_singleton, SchEvent.called.injEq] at member
    rw [member.2]
    exact given.2
  · intro task
    exact triple_for_each allSettled fun request _ => request_settles request
  · exact fun moment given => ⟨given.1.observe _ _ (by simp), given.2⟩
  · intro moment given
    refine ⟨⟨given.1.observe _ _ (by simp), fun other different => ?_⟩, fun free => ?_⟩
    · rw [Moment.executed_state, SchState.set_task_other _ _ different]
      exact given.2 other id
    · rw [Moment.executed_state, SchState.set_task_same] at free ⊢
      change (moment.state.tasks index).period = 0
      rw [given.2 index id free]
      rfl
  · intro moment given nonzero
    exact all_settled_of_except given.1 fun free => absurd (given.2 free) nonzero
  · exact fun moment given _ => given.1
  · exact delete_task_settles index

theorem dispatch_settles (bodies : Bodies maxTasks Task) :
    Triple timer CallsNonNull allSettled.holds (schDispatchTasks (runBody bodies))
      fun _ => allSettled.holds :=
  triple_for_each allSettled fun index _ => dispatch_task_settles bodies index

theorem main_program_settles (operations : List (Operation maxTasks Task)) :
    Triple timer CallsNonNull allSettled.holds (mainProgram operations)
      fun _ => allSettled.holds := by
  apply triple_for_each allSettled
  intro operation _
  cases operation with
  | request call => exact request_settles call
  | dispatch bodies => exact dispatch_settles bodies

theorem all_settled_initial :
    allSettled.holds (⟨[], .initial⟩ : SchMoment maxTasks Task) :=
  ⟨fun _ _ member => absurd member List.not_mem_nil, fun _ _ _ => rfl⟩

/-- From `SCH_Init_T2` on, through any calls of the main program and of the task
bodies and any timer interrupts, every call through `pTask` has a target. -/
theorem dispatcher_never_calls_null (boot afterInit : SchMoment maxTasks Task)
    (booted : schInitT2.run boot = some ((), afterInit))
    (operations : List (Operation maxTasks Task)) (rest : SchProgram maxTasks Task Unit)
    (final : SchMoment maxTasks Task)
    (run : Reaches timer (mainProgram operations, ⟨[], afterInit.state⟩) (rest, final)) :
    CallsNonNull final := by
  rw [sch_init_t2_run boot afterInit booted] at run
  exact (main_program_settles operations).always_safe all_settled_initial run

/-- A due periodic task that deletes its own slot when it runs; `RunMe` is 255 in
the empty slot before the dispatcher clears it again. -/
theorem dispatcher_never_calls_null_self_deleting :
    ∃ final : SchMoment 1 Unit, .event (.called 0 (some ())) ∈ final.history ∧
      .event (.errorSet errorSchCannotDeleteTask) ∈ final.history ∧ CallsNonNull final := by
  let operations : List (Operation 1 Unit) :=
    [.request (.add () 0 3), .dispatch fun index => [.delete index]]
  obtain ⟨afterInit, booted⟩ : ∃ afterInit : SchMoment 1 Unit,
      schInitT2.run ⟨[], .initial⟩ = some ((), afterInit) := ⟨_, rfl⟩
  have run := follow_done_reaches schUpdate
    (List.replicate 5 .statement ++ [.interrupt] ++ List.replicate 20 .statement)
    ((mainProgram operations : SchProgram 1 Unit Unit), ⟨[], .initial⟩) () rfl
  rw [← sch_init_t2_run _ _ booted] at run
  have safe := dispatcher_never_calls_null _ afterInit booted operations _ _ run
  rw [sch_init_t2_run _ _ booted] at safe
  refine ⟨_, mem_observed_events.mp ?_, mem_observed_events.mp ?_, safe⟩
  · decide
  · decide

end Schedulers.TimeTriggered
