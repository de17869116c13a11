import Schedulers.TimeTriggered.Sch51CallTables

/-!
# An update inside `SCH_Add_Task`

The four fields of a new task are published one by one, the pointer first, so an
update between them acts on a slot that is half written. It is as if the update
had come before or after the whole Add, with one exception: the last assignment
sets `RunMe` to zero, and an update that has just made the task due is undone.
-/

namespace Schedulers.TimeTriggered

open Schedulers.InterruptibleProgram

set_option autoImplicit false

variable {maxTasks : Nat} {Task : Type}

def addAlone (pFunction : Task) (delay period : Nat) (table : SchState maxTasks Task) :
    Option (SchState maxTasks Task) :=
  ((schAddTask (some pFunction) delay period).run ⟨[], table⟩).map fun result => result.2.state

/-- The table after an Add that one update interrupts when `statements` of its
statements are done. -/
def interruptedAdd (pFunction : Task) (delay period statements : Nat)
    (table : SchState maxTasks Task) : Option (SchState maxTasks Task) :=
  let divided := follow schUpdate (List.replicate statements .statement ++ [.interrupt])
    (schAddTask (some pFunction) delay period, ⟨[], table⟩)
  (divided.1.run divided.2).map fun result => result.2.state

/-- The interrupted Add has the effect of one of the two serial orders. -/
def ActsAtomically (pFunction : Task) (delay period statements : Nat)
    (table : SchState maxTasks Task) : Prop :=
  interruptedAdd pFunction delay period statements table =
      addAlone pFunction delay period (schUpdate table) ∨
    interruptedAdd pFunction delay period statements table =
      (addAlone pFunction delay period table).map schUpdate

theorem sch_update_set_task (state : SchState maxTasks Task) (slot : Fin maxTasks)
    (task : STask Task) :
    schUpdate (state.setTask slot task) = (schUpdate state).setTask slot (updateTask task) := by
  have tasks : (schUpdate (state.setTask slot task)).tasks =
      ((schUpdate state).setTask slot (updateTask task)).tasks := by
    funext index
    by_cases same : index = slot
    · subst same
      simp
    · rw [sch_update_tasks, SchState.set_task_other _ _ same, SchState.set_task_other _ _ same,
        sch_update_tasks]
  have code : (schUpdate (state.setTask slot task)).errorCode =
      ((schUpdate state).setTask slot (updateTask task)).errorCode := by
    simp
  generalize schUpdate (state.setTask slot task) = left at tasks code
  obtain ⟨leftTasks, leftCode⟩ := left
  exact congrArg₂ SchState.mk tasks code

theorem lowest_free_update {table : SchState maxTasks Task} {slot : Fin maxTasks}
    (lowest : LowestFree table slot) : LowestFree (schUpdate table) slot where
  free := by simpa using lowest.free
  below other less := by simpa using lowest.below other less

theorem update_then_add {table : SchState maxTasks Task} {slot : Fin maxTasks}
    (lowest : LowestFree table slot) (pFunction : Task) (delay period : Nat) :
    addAlone pFunction delay period (schUpdate table) =
      some ((schUpdate table).setTask slot ⟨some pFunction, delay, period, 0⟩) := by
  have here : LowestFree (⟨[], schUpdate table⟩ : SchMoment maxTasks Task).state slot :=
    lowest_free_update lowest
  rw [addAlone, add_task_installs here]
  rfl

theorem add_then_update {table : SchState maxTasks Task} {slot : Fin maxTasks}
    (lowest : LowestFree table slot) (pFunction : Task) (delay period : Nat) :
    (addAlone pFunction delay period table).map schUpdate =
      some ((schUpdate table).setTask slot (updateTask ⟨some pFunction, delay, period, 0⟩)) := by
  have here : LowestFree (⟨[], table⟩ : SchMoment maxTasks Task).state slot := lowest
  rw [addAlone, add_task_installs here, Option.map_some, Option.map_some, sch_update_set_task]

theorem follow_search {slot : Fin maxTasks} {moment : SchMoment maxTasks Task}
    (lowest : LowestFree moment.state slot) {Value : Type}
    (rest : Nat → SchProgram maxTasks Task Value) (count remaining index : Nat)
    (inside : index + remaining = maxTasks) (ahead : index + count ≤ slot.val) :
    follow schUpdate (List.replicate count .statement)
        (findGap remaining index >>= rest, moment) =
      (findGap (remaining - count) (index + count) >>= rest, moment) := by
  induction count generalizing remaining index with
  | zero => rfl
  | succ count ih =>
      have outside := slot.isLt
      obtain ⟨left, rfl⟩ : ∃ left, remaining = left + 1 := ⟨remaining - 1, by omega⟩
      have bound : index < maxTasks := by omega
      have less : (⟨index, bound⟩ : Fin maxTasks) < slot := by
        rw [Fin.lt_def]
        dsimp only
        omega
      have occupied := Option.isSome_iff_ne_none.mpr (lowest.below _ less)
      have step : takeTurn schUpdate (findGap (left + 1) index >>= rest, moment) .statement =
          (findGap left (index + 1) >>= rest, moment) := by
        simp only [findGap, readTask, bound, dif_pos, Program.read, Program.step_bind,
          Program.done_bind, takeTurn, occupied, decide_true, Bool.and_self, if_true,
          Moment.executed_unread]
      have next := ih left (index + 1) (by omega) (by omega)
      rw [List.replicate_succ, follow, List.foldl_cons, step]
      rw [follow] at next
      rw [next]
      congr 3 <;> omega

theorem follow_found {slot : Fin maxTasks} {moment : SchMoment maxTasks Task}
    (lowest : LowestFree moment.state slot) {Value : Type}
    (rest : Nat → SchProgram maxTasks Task Value) :
    follow schUpdate (List.replicate (slot.val + 1) .statement)
        (findGap maxTasks 0 >>= rest, moment) = (rest slot.val, moment) := by
  have bound := slot.isLt
  obtain ⟨left, same⟩ : ∃ left, maxTasks - slot.val = left + 1 :=
    ⟨maxTasks - slot.val - 1, by omega⟩
  rw [List.replicate_succ', follow_append,
    follow_search lowest rest slot.val maxTasks 0 (by omega) (by omega), Nat.zero_add, same]
  simp only [follow, List.foldl_cons, List.foldl_nil, findGap, read_task_fin, Program.read,
    Program.step_bind, Program.done_bind, takeTurn, lowest.free, Option.isSome_none,
    Bool.false_and, Bool.false_eq_true, if_false, Program.pure_eq_done, Moment.executed_unread]

/-- What the slot, empty before, holds after an Add that was interrupted when `written`
of its four assignments were done. -/
def publishedTask (pFunction : Task) (delay period : Nat) : Nat → STask Task
  | 0 => ⟨some pFunction, delay, period, 0⟩
  | 1 => ⟨some pFunction, delay, period, 0⟩
  | 2 => { updateTask ⟨some pFunction, delay, 0, 0⟩ with period := period, runMe := 0 }
  | 3 => { updateTask ⟨some pFunction, delay, period, 0⟩ with runMe := 0 }
  | _ + 4 => updateTask ⟨some pFunction, delay, period, 0⟩

theorem fill_slot_eq (slot : Fin maxTasks) (pFunction : Option Task) (delay period : Nat) :
    (fillSlot slot.val pFunction delay period : SchProgram maxTasks Task Nat) =
      .step (fun state => state.setTask slot { state.tasks slot with pTask := pFunction })
        (fun _ => []) fun _ =>
      .step (fun state => state.setTask slot { state.tasks slot with delay := delay })
        (fun _ => []) fun _ =>
      .step (fun state => state.setTask slot { state.tasks slot with period := period })
        (fun _ => []) fun _ =>
      .step (fun state => state.setTask slot { state.tasks slot with runMe := 0 })
        (fun _ => [.added slot pFunction delay period]) fun _ => .done slot.val := by
  simp [fillSlot, finishAdd, Program.write]

theorem follow_fill (slot : Fin maxTasks) (pFunction : Option Task) (delay period : Nat)
    (moment : SchMoment maxTasks Task) :
    follow schUpdate (List.replicate 4 .statement)
        (fillSlot slot.val pFunction delay period, moment) =
      (.done slot.val, ⟨moment.history ++ [.event (.added slot pFunction delay period)],
        moment.state.setTask slot ⟨pFunction, delay, period, 0⟩⟩) := by
  rw [fill_slot_eq]
  simp [follow, List.replicate, takeTurn, Moment.executed]

theorem interrupted_fill {table : SchState maxTasks Task} {slot : Fin maxTasks}
    (empty : table.tasks slot = .zero) (pFunction : Task) (delay period written : Nat) :
    let divided := follow schUpdate (List.replicate written .statement ++ [.interrupt])
      (fillSlot slot.val (some pFunction) delay period, (⟨[], table⟩ : SchMoment maxTasks Task))
    (divided.1.run divided.2).map (fun result => result.2.state) =
      some ((schUpdate table).setTask slot (publishedTask pFunction delay period written)) := by
  dsimp only
  rw [follow_append]
  match written with
  | 0 =>
      simp [fill_slot_eq, follow, takeTurn, Program.run, Moment.executed, publishedTask]
  | 1 =>
      simp [fill_slot_eq, follow, takeTurn, Program.run, Moment.executed, publishedTask,
        sch_update_set_task]
  | 2 =>
      simp [fill_slot_eq, follow, takeTurn, Program.run, Moment.executed, publishedTask,
        sch_update_set_task, List.replicate, empty, STask.zero]
  | 3 =>
      simp [fill_slot_eq, follow, takeTurn, Program.run, Moment.executed, publishedTask,
        sch_update_set_task, List.replicate, empty, STask.zero]
  | rest + 4 =>
      have split : List.replicate (rest + 4) Turn.statement =
          List.replicate 4 .statement ++ List.replicate rest .statement := by
        rw [Nat.add_comm, List.replicate_add]
      rw [split, follow_append, follow_fill, follow_done_statements]
      simp [follow, takeTurn, Program.run, publishedTask, sch_update_set_task]

theorem interrupted_add_writing {table : SchState maxTasks Task} {slot : Fin maxTasks}
    (lowest : LowestFree table slot) (empty : table.tasks slot = .zero) (pFunction : Task)
    (delay period written : Nat) :
    interruptedAdd pFunction delay period (slot.val + 1 + written) table =
      some ((schUpdate table).setTask slot (publishedTask pFunction delay period written)) := by
  have here : LowestFree (⟨[], table⟩ : SchMoment maxTasks Task).state slot := lowest
  rw [interruptedAdd, List.replicate_add, List.append_assoc, follow_append, sch_add_task_eq,
    follow_found here, if_neg slot.isLt.ne]
  exact interrupted_fill empty pFunction delay period written

theorem interrupted_add_searching {table : SchState maxTasks Task} {slot : Fin maxTasks}
    (lowest : LowestFree table slot) (pFunction : Task) (delay period statements : Nat)
    (searching : statements ≤ slot.val) :
    interruptedAdd pFunction delay period statements table =
      some ((schUpdate table).setTask slot ⟨some pFunction, delay, period, 0⟩) := by
  have bound := slot.isLt
  have here : LowestFree (⟨[], table⟩ : SchMoment maxTasks Task).state slot := lowest
  let updated : SchMoment maxTasks Task := ⟨[.interrupt table], schUpdate table⟩
  have after : LowestFree updated.state slot := lowest_free_update lowest
  have resumed (program : SchProgram maxTasks Task Nat) :
      follow schUpdate [.interrupt] (program, ⟨[], table⟩) = (program, updated) := rfl
  rw [interruptedAdd, follow_append, sch_add_task_eq,
    follow_search here _ statements maxTasks 0 (by omega) (by omega), Nat.zero_add, resumed]
  dsimp only
  rw [Program.run_bind, find_gap_finds after (maxTasks - statements) statements (by omega)
    searching, Option.bind_some, if_neg slot.isLt.ne]
  dsimp only
  rw [fill_slot_run]
  rfl

theorem set_task_inj {state : SchState maxTasks Task} {slot : Fin maxTasks}
    {first second : STask Task} :
    some (state.setTask slot first) = some (state.setTask slot second) ↔ first = second := by
  constructor
  · intro same
    have content := congrArg (fun state => state.tasks slot) (Option.some.inj same)
    simpa using content
  · rintro rfl
    rfl

/-- Apart from the point between the last two assignments of an Add with `DELAY` 0 and
a period, what ends up in the slot is the entry of one of the serial orders. -/
theorem published_task_serial (pFunction : Task) (delay period written : Nat) :
    (publishedTask pFunction delay period written = ⟨some pFunction, delay, period, 0⟩ ∨
      publishedTask pFunction delay period written =
        updateTask ⟨some pFunction, delay, period, 0⟩) ↔
      ¬(written = 3 ∧ delay = 0 ∧ 0 < period) := by
  match written with
  | 0 => simp [publishedTask]
  | 1 => simp [publishedTask]
  | 2 =>
      by_cases now : delay = 0
      · simp [publishedTask, updateTask, now]
      · simp [publishedTask, updateTask, now]
  | 3 =>
      by_cases now : delay = 0
      · by_cases single : period = 0
        · simp [publishedTask, updateTask, now, single]
        · simp [publishedTask, updateTask, now, single]
      · simp [publishedTask, updateTask, now]
  | rest + 4 => simp [publishedTask]

theorem acts_atomically_iff {table : SchState maxTasks Task} {slot : Fin maxTasks}
    (lowest : LowestFree table slot) (empty : table.tasks slot = .zero) (pFunction : Task)
    (delay period statements : Nat) :
    ActsAtomically pFunction delay period statements table ↔
      ¬(statements = slot.val + 4 ∧ delay = 0 ∧ 0 < period) := by
  rw [ActsAtomically, update_then_add lowest, add_then_update lowest]
  by_cases searching : statements ≤ slot.val
  · rw [interrupted_add_searching lowest pFunction delay period statements searching]
    refine iff_of_true (.inl rfl) ?_
    omega
  · obtain ⟨written, rfl⟩ : ∃ written, statements = slot.val + 1 + written :=
      ⟨statements - (slot.val + 1), by omega⟩
    have place : slot.val + 1 + written = slot.val + 4 ↔ written = 3 := by omega
    rw [interrupted_add_writing lowest empty, set_task_inj, set_task_inj, published_task_serial,
      place]

/-- One update may come at any point of `SCH_Add_Task` but one: right before the last
assignment, when the new task has `DELAY` 0 and a period. `slot` + 1 statements search
for the slot and four fill it. -/
theorem add_atomic_iff {table : SchState maxTasks Task} (reachable : CallTable table)
    {slot : Fin maxTasks} (lowest : LowestFree table slot) (pFunction : Task)
    (delay period statements : Nat) :
    ActsAtomically pFunction delay period statements table ↔
      ¬(statements = slot.val + 4 ∧ delay = 0 ∧ 0 < period) :=
  acts_atomically_iff lowest (call_table_settled reachable slot lowest.free) pFunction delay
    period statements

theorem lowest_free_initial : LowestFree (SchState.initial : SchState 1 Unit) 0 where
  free := rfl
  below _ less := absurd less (Nat.not_lt_zero _)

/-- The empty table, and a task with a delay of 5. -/
theorem add_atomic_iff_delayed :
    ActsAtomically () 5 2 4 (SchState.initial : SchState 1 Unit) :=
  (add_atomic_iff .booted lowest_free_initial () 5 2 4).mpr (by decide)

/-- The empty table, `DELAY` 0 and `PERIOD` 2, the update after four statements: the task
waits another period for a first run that it has missed. -/
theorem update_before_run_me_is_lost :
    ¬∀ (maxTasks : Nat) (table : SchState maxTasks Unit) (slot : Fin maxTasks)
      (pFunction : Unit) (delay period statements : Nat), CallTable table →
      LowestFree table slot → ActsAtomically pFunction delay period statements table := by
  intro always
  have atomic := always 1 .initial 0 () 0 2 4 .booted lowest_free_initial
  exact (acts_atomically_iff lowest_free_initial rfl () 0 2 4).mp atomic (by decide)

end Schedulers.TimeTriggered
