import Schedulers.TimeTriggered.Sch51Ledger
import Schedulers.TimeTriggered.Sch51NullCalls

/-!
# Task bodies that use the table

The dispatcher resumes its bookkeeping after a body that may have added and
deleted tasks. It reads the slot again, so it books what it finds there: the
table stays consistent as long as no body deletes the slot it runs in, and a body
that does makes `RunMe -= 1` and the one-shot deletion hit an empty slot or a
newcomer.
-/

namespace Schedulers.TimeTriggered

open Schedulers.InterruptibleProgram

set_option autoImplicit false

variable {maxTasks : Nat} {Task : Type}

theorem request_add_run {pFunction : Task} {delay period : Nat}
    {start final : SchMoment maxTasks Task}
    (finished : (Request.add pFunction delay period).perform.run start = some ((), final)) :
    ∃ slot : Fin maxTasks, (start.state.tasks slot).pTask = none ∧
      final = ⟨start.history ++ [.event (.added slot (some pFunction) delay period)],
        start.state.setTask slot ⟨some pFunction, delay, period, 0⟩⟩ := by
  rw [Request.perform, Program.run_bind, Option.bind_eq_some_iff] at finished
  obtain ⟨⟨found, after⟩, added, finished⟩ := finished
  obtain ⟨slot, _, free, _, same⟩ := add_task_run _ _ _ _ _ _ added
  cases finished
  exact ⟨slot, free, same⟩

theorem request_delete_run {index : Fin maxTasks} {start final : SchMoment maxTasks Task}
    (finished : (Request.delete index : Request maxTasks Task).perform.run start =
      some ((), final)) :
    ((start.state.tasks index).pTask ≠ none ∧
      final = ⟨start.history ++
          [.event (.deleting none index (start.state.tasks index).pTask)],
        start.state.setTask index .zero⟩) ∨
    ((start.state.tasks index).pTask = none ∧
      final = ⟨start.history ++ [.event (.deleting none index none)] ++
          [.event (.errorSet errorSchCannotDeleteTask)],
        { start.state.setTask index .zero with errorCode := errorSchCannotDeleteTask }⟩) := by
  simp only [Request.perform, Program.step_bind, Program.done_bind, Program.run,
    Program.run_bind] at finished
  by_cases free : (start.state.tasks index).pTask = none
  · rw [delete_task_run_free index
      (start.executed id fun state => [.deleting none index (state.tasks index).pTask])
      free] at finished
    cases finished
    exact .inr ⟨free, by simp [free]⟩
  · rw [delete_task_run_occupied index
      (start.executed id fun state => [.deleting none index (state.tasks index).pTask])
      free] at finished
    cases finished
    exact .inl ⟨free, rfl⟩

theorem dispatch_task_run {body : Fin maxTasks → Task → SchProgram maxTasks Task Unit}
    {index : Fin maxTasks} {start final : SchMoment maxTasks Task}
    (finished : (dispatchTask body index).run start = some ((), final)) :
    ((start.state.tasks index).runMe = 0 ∧ final = start) ∨
    ∃ (task : Task) (after counted : SchMoment maxTasks Task),
      (start.state.tasks index).runMe ≠ 0 ∧ (start.state.tasks index).pTask = some task ∧
      (body index task).run
        ⟨start.history ++ [.event (.called index (some task))], start.state⟩ =
          some ((), after) ∧
      counted = ⟨after.history ++ [.event (.returned index)], after.state.setTask index
        { after.state.tasks index with runMe := (after.state.tasks index).runMe - 1 }⟩ ∧
      (((after.state.tasks index).period ≠ 0 ∧ final = counted) ∨
        ((after.state.tasks index).period = 0 ∧
          ∃ code, (schDeleteTask index.val).run counted = some (code, final))) := by
  simp only [dispatchTask, read_task_fin, write_task_fin, Program.read, Program.step_bind,
    Program.done_bind, Program.run, Moment.executed_unread] at finished
  by_cases idle : (start.state.tasks index).runMe = 0
  · have notDue : ¬(start.state.tasks index).runMe > 0 := by
      rw [idle]
      decide
    rw [if_neg notDue] at finished
    cases finished
    exact .inl ⟨idle, rfl⟩
  · rw [if_pos (UInt8.pos_iff_ne_zero.mpr idle), Program.run_bind,
      Option.bind_eq_some_iff] at finished
    obtain ⟨⟨_, returned⟩, calls, books⟩ := finished
    simp only [callTask, Program.run] at calls
    cases pointer : (start.state.tasks index).pTask with
    | none => simp [pointer, Program.run] at calls
    | some task =>
        simp only [pointer, Program.run_bind, Option.bind_eq_some_iff] at calls
        obtain ⟨⟨_, after⟩, runs, back⟩ := calls
        cases back
        refine .inr ⟨task, after, _, idle, rfl, ?_, rfl, ?_⟩
        · simpa [Moment.executed, pointer] using runs
        · simp only [Program.write, Program.step_bind, Program.done_bind, Program.run,
            Moment.executed_unread] at books
          by_cases single : (after.state.tasks index).period = 0
          · right
            simp only [Moment.executed_state, id_eq, SchState.set_task_same, single, if_true,
              Program.run_bind, Option.bind_eq_some_iff] at books
            obtain ⟨⟨code, deleted⟩, deletes, same⟩ := books
            cases same
            refine ⟨single, code, ?_⟩
            simpa [Moment.executed] using deletes
          · left
            simp only [Moment.executed_state, id_eq, SchState.set_task_same, single, if_false,
              Program.pure_eq_done, Program.run, Option.some.injEq, Prod.mk.injEq,
              true_and] at books
            refine ⟨single, ?_⟩
            rw [← books]
            simp [Moment.executed]

/-- A slot that was filled twice was deleted by a body in between. -/
def DeletedBeforeRefill (earlier : SchHistory maxTasks Task) : SchObservation maxTasks Task → Prop
  | .event (.added index _ _ _) =>
      ∀ before pFunction delay period after,
        earlier = before ++ .event (.added index pFunction delay period) :: after →
        ∃ handle pTask, .event (.deleting handle index pTask) ∈ after
  | _ => True

/-- What `segment`, the part of a dispatch pass so far, means for the table. -/
structure PassSoFar (segment : SchHistory maxTasks Task) (state : SchState maxTasks Task) :
    Prop where
  settled : ∀ index, (state.tasks index).Settled
  added : ∀ earlier later index pFunction delay period,
    segment = earlier ++ .event (.added index pFunction delay period) :: later →
    (∀ handle pTask, .event (.deleting handle index pTask) ∉ later) →
      state.tasks index = ⟨pFunction, delay, period, 0⟩ ∧ pFunction ≠ none
  refilled : EveryObservation DeletedBeforeRefill segment
  errors : ∀ code, .event (.errorSet code) ∈ segment →
    ∃ handle index, .event (.deleting handle index none) ∈ segment

theorem pass_so_far_start {state : SchState maxTasks Task}
    (settled : ∀ index, (state.tasks index).Settled) : PassSoFar [] state where
  settled := settled
  added earlier later index pFunction delay period split := by
    cases earlier <;> cases split
  refilled := every_observation_nil _
  errors code member := absurd member List.not_mem_nil

theorem PassSoFar.observe {segment : SchHistory maxTasks Task} {state : SchState maxTasks Task}
    (given : PassSoFar segment state) {event : SchEvent maxTasks Task}
    (notAdded : ∀ index pFunction delay period, event ≠ .added index pFunction delay period)
    (explained : ∀ code, event = .errorSet code →
      ∃ handle index, .event (.deleting handle index none) ∈ segment) :
    PassSoFar (segment ++ [.event event]) state where
  settled := given.settled
  added earlier later index pFunction delay period split notDeleted := by
    rcases append_singleton_split split with ⟨_, _, same⟩ | ⟨initial, rfl, same⟩
    · exact absurd (Observation.event.inj same) (notAdded index pFunction delay period)
    · exact given.added earlier initial index pFunction delay period same
        fun handle pTask member => notDeleted handle pTask (List.mem_append_left _ member)
  refilled := by
    apply every_observation_append_singleton.mpr ⟨given.refilled, _⟩
    cases event with
    | added index pFunction delay period => exact absurd rfl (notAdded index pFunction delay period)
    | _ => trivial
  errors code member := by
    have known : ∃ handle index, .event (.deleting handle index none) ∈ segment := by
      rcases List.mem_append.mp member with old | new
      · exact given.errors code old
      · simp only [List.mem_singleton, Observation.event.injEq] at new
        exact explained code new.symm
    obtain ⟨handle, index, before⟩ := known
    exact ⟨handle, index, List.mem_append_left _ before⟩

theorem PassSoFar.add {segment : SchHistory maxTasks Task} {state : SchState maxTasks Task}
    (given : PassSoFar segment state) {slot : Fin maxTasks}
    (free : (state.tasks slot).pTask = none) (pFunction : Task) (delay period : Nat) :
    PassSoFar (segment ++ [.event (.added slot (some pFunction) delay period)])
      (state.setTask slot ⟨some pFunction, delay, period, 0⟩) where
  settled := SchState.set_task_all given.settled slot fun missing => nomatch missing
  added earlier later index task since interval split notDeleted := by
    rcases append_singleton_split split with ⟨_, _, same⟩ | ⟨initial, rfl, same⟩
    · simp only [Observation.event.injEq, SchEvent.added.injEq] at same
      obtain ⟨rfl, rfl, rfl, rfl⟩ := same
      simp
    · have kept := given.added earlier initial index task since interval same
        fun handle pTask member => notDeleted handle pTask (List.mem_append_left _ member)
      have different : index ≠ slot := by
        intro same
        subst same
        rw [kept.1] at free
        exact kept.2 free
      rw [SchState.set_task_other _ _ different]
      exact kept
  refilled := by
    apply every_observation_append_singleton.mpr ⟨given.refilled, _⟩
    intro before task since interval after split
    by_contra untouched
    have kept := given.added before after slot task since interval split
      fun handle pTask member => untouched ⟨handle, pTask, member⟩
    rw [kept.1] at free
    exact kept.2 free
  errors code member := by
    have old : .event (.errorSet code) ∈ segment := by simpa using member
    obtain ⟨handle, index, before⟩ := given.errors code old
    exact ⟨handle, index, List.mem_append_left _ before⟩

theorem PassSoFar.reassign {segment : SchHistory maxTasks Task} {state : SchState maxTasks Task}
    (given : PassSoFar segment state) {index : Fin maxTasks}
    (due : (state.tasks index).runMe ≠ 0) (task : STask Task) (settled : task.Settled) :
    PassSoFar segment (state.setTask index task) where
  settled := SchState.set_task_all given.settled index settled
  added earlier later slot pFunction delay period split notDeleted := by
    have kept := given.added earlier later slot pFunction delay period split notDeleted
    have different : slot ≠ index := by
      intro same
      subst same
      rw [kept.1] at due
      exact due rfl
    rw [SchState.set_task_other _ _ different]
    exact kept
  refilled := given.refilled
  errors := given.errors

theorem PassSoFar.delete {segment : SchHistory maxTasks Task} {state : SchState maxTasks Task}
    (given : PassSoFar segment state) (handle : Option Nat) (index : Fin maxTasks)
    (pTask : Option Task) :
    PassSoFar (segment ++ [.event (.deleting handle index pTask)])
      (state.setTask index .zero) where
  settled := SchState.set_task_all given.settled index fun _ => rfl
  added earlier later slot pFunction delay period split notDeleted := by
    rcases append_singleton_split split with ⟨_, _, same⟩ | ⟨initial, rfl, same⟩
    · cases same
    · have different : slot ≠ index := by
        intro same
        subst same
        exact notDeleted handle pTask (by simp)
      rw [SchState.set_task_other _ _ different]
      exact given.added earlier initial slot pFunction delay period same
        fun other task member => notDeleted other task (List.mem_append_left _ member)
  refilled := every_observation_append_singleton.mpr ⟨given.refilled, trivial⟩
  errors code member := by
    have old : .event (.errorSet code) ∈ segment := by simpa using member
    obtain ⟨handle, slot, before⟩ := given.errors code old
    exact ⟨handle, slot, List.mem_append_left _ before⟩

def Passing (before : SchHistory maxTasks Task) (moment : SchMoment maxTasks Task) : Prop :=
  ∃ segment, moment.history = before ++ segment ∧ PassSoFar segment moment.state

theorem request_passes {before : SchHistory maxTasks Task} {index : Fin maxTasks}
    {task : STask Task} (occupied : task.pTask ≠ none) {request : Request maxTasks Task}
    (foreign : request ≠ .delete index) {start final : SchMoment maxTasks Task}
    (given : Passing before start ∧ start.state.tasks index = task)
    (finished : request.perform.run start = some ((), final)) :
    Passing before final ∧ final.state.tasks index = task := by
  obtain ⟨⟨segment, history, pass⟩, own⟩ := given
  cases request with
  | add pFunction delay period =>
      obtain ⟨slot, free, rfl⟩ := request_add_run finished
      have different : index ≠ slot := by
        intro same
        subst same
        rw [own] at free
        exact occupied free
      refine ⟨⟨_, by rw [history, List.append_assoc], pass.add free pFunction delay period⟩, ?_⟩
      rw [SchState.set_task_other _ _ different]
      exact own
  | delete other =>
      have different : index ≠ other := by
        intro same
        subst same
        exact foreign rfl
      rcases request_delete_run finished with ⟨_, rfl⟩ | ⟨_, rfl⟩
      · refine ⟨⟨_, by rw [history, List.append_assoc], pass.delete none other _⟩, ?_⟩
        rw [SchState.set_task_other _ _ different]
        exact own
      · have deleted := pass.delete none other none
        have reported : PassSoFar (segment ++ [.event (.deleting none other none)] ++
            [.event (.errorSet errorSchCannotDeleteTask)]) (start.state.setTask other .zero) :=
          deleted.observe (by simp) fun _ _ => ⟨none, other, by simp⟩
        refine ⟨⟨_, by rw [history, List.append_assoc, List.append_assoc,
          ← List.append_assoc segment], ?_⟩, ?_⟩
        · exact ⟨reported.settled, reported.added, reported.refilled, reported.errors⟩
        · change (start.state.setTask other .zero).tasks index = task
          rw [SchState.set_task_other _ _ different]
          exact own

theorem dispatch_task_passes {before : SchHistory maxTasks Task} {bodies : Bodies maxTasks Task}
    {index : Fin maxTasks} (keepsOwn : .delete index ∉ bodies index)
    {start final : SchMoment maxTasks Task} (given : Passing before start)
    (finished : (dispatchTask (runBody bodies) index).run start = some ((), final)) :
    Passing before final := by
  rcases dispatch_task_run finished with ⟨_, rfl⟩ | ⟨task, after, counted, due, pointer, runs,
    booked, books⟩
  · exact given
  · obtain ⟨segment, history, pass⟩ := given
    have occupied : (start.state.tasks index).pTask ≠ none := by simp [pointer]
    have called : Passing before
        ⟨start.history ++ [.event (.called index (some task))], start.state⟩ :=
      ⟨_, by rw [history, List.append_assoc], pass.observe (by simp) (by simp)⟩
    obtain ⟨⟨passed, shown, kept⟩, own⟩ := Program.run_for_each
      (fun request member _ _ => request_passes occupied (fun same => keepsOwn (same ▸ member)))
      ⟨called, rfl⟩ runs
    have returned : PassSoFar (passed ++ [.event (.returned index)]) after.state :=
      kept.observe (by simp) (by simp)
    rw [← own] at due occupied
    rcases books with ⟨_, rfl⟩ | ⟨_, code, deletes⟩
    · rw [booked]
      refine ⟨_, by rw [shown, List.append_assoc], returned.reassign due _ ?_⟩
      exact fun missing => absurd missing occupied
    · rw [delete_task_run_occupied index counted (by rw [booked]; simpa using occupied)] at deletes
      cases deletes
      refine ⟨_, by rw [booked, shown, List.append_assoc], ?_⟩
      rw [booked, SchState.set_task_twice]
      exact returned.reassign due .zero fun _ => rfl

/-- What the users of the table may expect when a dispatch pass returns: a task that
a body added and nobody deleted is in its slot as it was given and has not been run,
no slot was filled over, no body was run without a release, no error was reported. -/
structure PassKeepsTable (segment : SchHistory maxTasks Task) (final : SchMoment maxTasks Task) :
    Prop where
  added : ∀ earlier later index pFunction delay period,
    segment = earlier ++ .event (.added index pFunction delay period) :: later →
    (∀ handle pTask, .event (.deleting handle index pTask) ∉ later) →
      final.state.tasks index = ⟨pFunction, delay, period, 0⟩
  refilled : EveryObservation DeletedBeforeRefill segment
  released : ∀ earlier later index pTask,
    final.history = earlier ++ .event (.called index pTask) :: later →
      releasedSinceAdd index earlier = true
  noError : ∀ code, .event (.errorSet code) ∉ segment

/-- `segment` is an undivided dispatch pass made in `before`, in which bodies call
`SCH_Delete_Task` on occupied slots only. -/
structure UndividedPass (bodies : Bodies maxTasks Task) (before : SchMoment maxTasks Task)
    (segment : SchHistory maxTasks Task) (final : SchMoment maxTasks Task) : Prop where
  finished : (schDispatchTasks (runBody bodies)).run before = some ((), final)
  history : final.history = before.history ++ segment
  occupied : ∀ handle index pTask,
    .event (.deleting handle index pTask) ∈ segment → pTask ≠ none

theorem undivided_pass_shown {bodies : Bodies maxTasks Task}
    {before final : SchMoment maxTasks Task}
    {segment : SchHistory maxTasks Task} {events : List (SchEvent maxTasks Task)}
    (finished : (schDispatchTasks (runBody bodies)).run before = some ((), final))
    (history : final.history = before.history ++ segment) (shown : observedEvents segment = events)
    (occupied : ∀ handle index, .deleting handle index none ∉ events) :
    UndividedPass bodies before segment final where
  finished := finished
  history := history
  occupied handle index pTask member := by
    intro free
    apply occupied handle index
    rw [← shown, ← free]
    exact mem_observed_events.mpr member

/-- After any run from `SCH_Init_T2`, a dispatch pass whose bodies add and delete
tasks keeps the table consistent, if no body deletes the slot it runs in. -/
theorem pass_keeps_table_without_self_deletion (boot afterInit : SchMoment maxTasks Task)
    (booted : schInitT2.run boot = some ((), afterInit))
    (operations : List (Operation maxTasks Task))
    (keepsOwnBefore : ∀ operation ∈ operations, operation.KeepsOwnSlots)
    (before : SchMoment maxTasks Task)
    (run : Reaches timer (mainProgram operations, ⟨[], afterInit.state⟩) (.done (), before))
    (bodies : Bodies maxTasks Task) (keepsOwn : ∀ index, .delete index ∉ bodies index)
    (segment : SchHistory maxTasks Task) (final : SchMoment maxTasks Task)
    (pass : UndividedPass bodies before segment final) : PassKeepsTable segment final := by
  rw [sch_init_t2_run boot afterInit booted] at run
  have follows := (main_program_follows True operations
    fun operation member => (keepsOwnBefore operation member).allowed).finally
      (following_initial True) run
  have after := (dispatch_follows True bodies
    (show (Operation.dispatch bodies).KeepsOwnSlots from keepsOwn).allowed).after_run
      follows pass.finished
  have settled := ((main_program_settles operations).finally all_settled_initial run).2
  have start : Passing before.history before :=
    ⟨[], by simp, pass_so_far_start fun index => settled index id⟩
  obtain ⟨shown, history, kept⟩ := Program.run_for_each
    (fun index _ _ _ => dispatch_task_passes (keepsOwn index)) start pass.finished
  rw [pass.history, List.append_cancel_left_eq] at history
  subst history
  constructor
  · intro earlier later index pFunction delay period split notDeleted
    exact (kept.added earlier later index pFunction delay period split notDeleted).1
  · exact kept.refilled
  · intro earlier later index pTask split
    exact after.follows.justified earlier _ later split
  · intro code member
    obtain ⟨handle, index, deleted⟩ := kept.errors code member
    exact pass.occupied handle index none deleted rfl

theorem observed_events_of_pass {bodies : Bodies maxTasks Task}
    {before final : SchMoment maxTasks Task} {segment : SchHistory maxTasks Task}
    {earlier shown : List (SchEvent maxTasks Task)}
    (finished : (schDispatchTasks (runBody bodies)).run before = some ((), final))
    (history : final.history = before.history ++ segment)
    (start : observedEvents before.history = earlier)
    (total : ((schDispatchTasks (runBody bodies)).run before).map
      (fun result => observedEvents result.2.history) = some (earlier ++ shown)) :
    observedEvents segment = shown := by
  rw [finished, Option.map_some, Option.some.injEq, history, observed_events_append, start] at total
  exact List.append_cancel_left total

/-- A one-shot body deletes its neighbour and adds a task in its place. -/
theorem pass_keeps_table_neighbour_replaced :
    ∃ (segment : SchHistory 2 Unit) (final : SchMoment 2 Unit),
      .event (.deleting none 1 (some ())) ∈ segment ∧
      .event (.added 1 (some ()) 2 4) ∈ segment ∧ PassKeepsTable segment final := by
  let operations : List (Operation 2 Unit) := [.request (.add () 0 0), .request (.add () 9 9)]
  let bodies : Bodies 2 Unit := fun index => if index = 0 then [.delete 1, .add () 2 4] else []
  let turns : List Turn := List.replicate 11 .statement ++ [.interrupt]
  let start : SchProgram 2 Unit Unit × SchMoment 2 Unit := (mainProgram operations, ⟨[], .initial⟩)
  obtain ⟨afterInit, booted⟩ : ∃ afterInit : SchMoment 2 Unit,
      schInitT2.run ⟨[], .initial⟩ = some ((), afterInit) := ⟨_, rfl⟩
  have run : Reaches timer ((mainProgram operations : SchProgram 2 Unit Unit),
      ⟨[], afterInit.state⟩) (.done (), (follow schUpdate turns start).2) := by
    rw [sch_init_t2_run _ _ booted]
    exact follow_done_reaches schUpdate turns start () rfl
  have ends : ((schDispatchTasks (runBody bodies)).run
      (follow schUpdate turns start).2).isSome = true := by decide
  obtain ⟨⟨_, final⟩, finished⟩ := Option.isSome_iff_exists.mp ends
  obtain ⟨segment, history⟩ := Program.run_history finished
  have events : observedEvents segment = [.called 0 (some ()), .deleting none 1 (some ()),
      .added 1 (some ()) 2 4, .returned 0] := by
    have earlier : observedEvents (follow schUpdate turns start).2.history =
        [.added 0 (some ()) 0 0, .added 1 (some ()) 9 9] := by decide
    exact observed_events_of_pass finished history earlier (by decide)
  have keeps := pass_keeps_table_without_self_deletion _ afterInit booted operations
    (by simp [operations, Operation.KeepsOwnSlots]) _ run bodies (by decide) segment final
    (undivided_pass_shown finished history events (by simp))
  refine ⟨segment, final, mem_observed_events.mp ?_, mem_observed_events.mp ?_, keeps⟩ <;>
    simp [events]

/-- A body that deletes the slot it runs in: `RunMe -= 1` leaves 255 in the empty
slot and the dispatcher deletes it again, which is reported as an error. -/
theorem self_deletion_sets_error_code :
    ¬∀ (operations : List (Operation 1 Unit)) (before : SchMoment 1 Unit)
        (bodies : Bodies 1 Unit) (segment : SchHistory 1 Unit) (final : SchMoment 1 Unit),
      Reaches timer (mainProgram operations, ⟨[], .initial⟩) (.done (), before) →
      UndividedPass bodies before segment final → PassKeepsTable segment final := by
  intro always
  let operations : List (Operation 1 Unit) := [.request (.add () 0 3)]
  let bodies : Bodies 1 Unit := fun index => [.delete index]
  let turns : List Turn := List.replicate 5 .statement ++ [.interrupt]
  let start : SchProgram 1 Unit Unit × SchMoment 1 Unit := (mainProgram operations, ⟨[], .initial⟩)
  have run := follow_done_reaches schUpdate turns start () rfl
  have ends : ((schDispatchTasks (runBody bodies)).run
      (follow schUpdate turns start).2).isSome = true := by decide
  obtain ⟨⟨_, final⟩, finished⟩ := Option.isSome_iff_exists.mp ends
  obtain ⟨segment, history⟩ := Program.run_history finished
  have events : observedEvents segment = [.called 0 (some ()), .deleting none 0 (some ()),
      .returned 0, .errorSet errorSchCannotDeleteTask] := by
    have earlier : observedEvents (follow schUpdate turns start).2.history =
        [.added 0 (some ()) 0 3] := by decide
    exact observed_events_of_pass finished history earlier (by decide)
  have keeps := always operations _ bodies segment final run
    (undivided_pass_shown finished history events (by simp))
  apply keeps.noError errorSchCannotDeleteTask
  apply mem_observed_events.mp
  simp [events]

end Schedulers.TimeTriggered
