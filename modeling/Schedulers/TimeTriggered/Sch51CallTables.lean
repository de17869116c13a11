import Schedulers.TimeTriggered.Sch51NullCalls

/-!
# The tables at which the operations are called

`SCH_Add_Task` on a full table reads one slot past the array before it compares
`Index`. `schAddTask` takes that as a fault; `schAddTaskPast` goes on with whatever
value the stray read yields, and shows what the compiled function returns. The
tables at which a caller can make its next call include those after such an Add.
-/

namespace Schedulers.TimeTriggered

open Schedulers.InterruptibleProgram

set_option autoImplicit false

variable {maxTasks : Nat} {Task : Type}

structure LowestFree (state : SchState maxTasks Task) (slot : Fin maxTasks) : Prop where
  free : (state.tasks slot).pTask = none
  below : ∀ other < slot, (state.tasks other).pTask ≠ none

theorem exists_lowest_free {state : SchState maxTasks Task}
    (free : ∃ index, (state.tasks index).pTask = none) : ∃ slot, LowestFree state slot := by
  obtain ⟨index, empty⟩ := free
  induction index using WellFoundedLT.induction with
  | ind index ih =>
      by_cases lower : ∃ other < index, (state.tasks other).pTask = none
      · obtain ⟨other, less, emptyToo⟩ := lower
        exact ih other less emptyToo
      · exact ⟨index, empty, fun other less full => lower ⟨other, less, full⟩⟩

theorem find_gap_finds {slot : Fin maxTasks} {start : SchMoment maxTasks Task}
    (lowest : LowestFree start.state slot) (remaining index : Nat)
    (inside : index + remaining = maxTasks) (ahead : index ≤ slot.val) :
    (findGap remaining index).run start = some (slot.val, start) := by
  induction remaining generalizing index with
  | zero =>
      have bound := slot.isLt
      omega
  | succ remaining ih =>
      have bound : index < maxTasks := by omega
      simp only [findGap, readTask, bound, dif_pos, Program.read, Program.step_bind,
        Program.done_bind, Program.run, Moment.executed_unread, decide_true, Bool.and_true]
      by_cases here : index = slot.val
      · have same : (⟨index, bound⟩ : Fin maxTasks) = slot := Fin.ext here
        rw [same, lowest.free, here]
        rfl
      · have less : (⟨index, bound⟩ : Fin maxTasks) < slot := by
          rw [Fin.lt_def]
          dsimp only
          omega
        rw [if_pos (Option.isSome_iff_ne_none.mpr (lowest.below _ less))]
        exact ih (index + 1) (by omega) (by omega)

def fillSlot (index : Nat) (pFunction : Option Task) (delay period : Nat) :
    SchProgram maxTasks Task Nat := do
  writeTask index fun task => { task with pTask := pFunction }
  writeTask index fun task => { task with delay := delay }
  writeTask index fun task => { task with period := period }
  finishAdd index pFunction delay period
  return index

theorem sch_add_task_eq (pFunction : Option Task) (delay period : Nat) :
    (schAddTask pFunction delay period : SchProgram maxTasks Task Nat) =
      findGap maxTasks 0 >>= fun index =>
        if index = maxTasks then do
          setErrorCode errorSchTooManyTasks
          return maxTasks
        else fillSlot index pFunction delay period := rfl

theorem fill_slot_run (slot : Fin maxTasks) (pFunction : Option Task) (delay period : Nat)
    (start : SchMoment maxTasks Task) :
    (fillSlot slot.val pFunction delay period).run start =
      some (slot.val, ⟨start.history ++ [.event (.added slot pFunction delay period)],
        start.state.setTask slot ⟨pFunction, delay, period, 0⟩⟩) := by
  simp only [fillSlot, write_task_fin, finishAdd, slot.isLt, dif_pos, Program.write,
    Program.step_bind, Program.done_bind, Program.pure_eq_done, Program.run]
  simp [Moment.executed]

theorem add_task_installs {slot : Fin maxTasks} {start : SchMoment maxTasks Task}
    (lowest : LowestFree start.state slot) (pFunction : Option Task) (delay period : Nat) :
    (schAddTask pFunction delay period).run start =
      some (slot.val, ⟨start.history ++ [.event (.added slot pFunction delay period)],
        start.state.setTask slot ⟨pFunction, delay, period, 0⟩⟩) := by
  rw [sch_add_task_eq, Program.run_bind, find_gap_finds lowest maxTasks 0 (by omega) (by omega),
    Option.bind_some, if_neg slot.isLt.ne]
  exact fill_slot_run slot pFunction delay period start

/-- On a full table the loop test reads a slot that does not exist. -/
theorem find_gap_full {start : SchMoment maxTasks Task}
    (full : ∀ index, (start.state.tasks index).pTask ≠ none) (remaining index : Nat)
    (inside : index + remaining = maxTasks) : (findGap remaining index).run start = none := by
  induction remaining generalizing index with
  | zero =>
      have outside : ¬index < maxTasks := by omega
      simp [findGap, readTask, outside, Program.run]
  | succ remaining ih =>
      have bound : index < maxTasks := by omega
      simp only [findGap, readTask, bound, dif_pos, Program.read, Program.step_bind,
        Program.done_bind, Program.run, Moment.executed_unread, decide_true, Bool.and_true,
        Option.isSome_iff_ne_none.mpr (full ⟨index, bound⟩), if_true]
      exact ih (index + 1) (by omega)

theorem add_task_full {start : SchMoment maxTasks Task}
    (full : ∀ index, (start.state.tasks index).pTask ≠ none) (pFunction : Option Task)
    (delay period : Nat) : (schAddTask pFunction delay period).run start = none := by
  rw [sch_add_task_eq, Program.run_bind, find_gap_full full maxTasks 0 (by omega),
    Option.bind_none]

/-- `SCH_tasks_G[Index].pTask`, where `past` is what the read one past the array yields. -/
def readPointer (past : Option Task) (taskIndex : Nat) :
    SchProgram maxTasks Task (Option Task) :=
  if bound : taskIndex < maxTasks then
    .read fun state => (state.tasks ⟨taskIndex, bound⟩).pTask
  else .read fun _ => past

def findGapPast (past : Option Task) : Nat → Nat → SchProgram maxTasks Task Nat
  | 0, index => do
      let _ ← readPointer past index
      return index
  | remaining + 1, index => do
      let pTask ← readPointer past index
      if pTask.isSome && index < maxTasks then findGapPast past remaining (index + 1)
      else return index

def schAddTaskPast (past pFunction : Option Task) (delay period : Nat) :
    SchProgram maxTasks Task Nat := do
  let index ← findGapPast past maxTasks 0
  if index = maxTasks then do
    setErrorCode errorSchTooManyTasks
    return maxTasks
  else fillSlot index pFunction delay period

theorem find_gap_past_agrees (past : Option Task) (remaining index : Nat)
    (inside : index + remaining = maxTasks) {start : SchMoment maxTasks Task}
    {result : Nat × SchMoment maxTasks Task}
    (finished : (findGap remaining index).run start = some result) :
    (findGapPast past remaining index).run start = some result := by
  induction remaining generalizing index with
  | zero =>
      have outside : ¬index < maxTasks := by omega
      simp [findGap, readTask, outside, Program.run] at finished
  | succ remaining ih =>
      have bound : index < maxTasks := by omega
      simp only [findGap, readTask, bound, dif_pos, Program.read, Program.step_bind,
        Program.done_bind, Program.run, Moment.executed_unread] at finished
      simp only [findGapPast, readPointer, bound, dif_pos, Program.read, Program.step_bind,
        Program.done_bind, Program.run, Moment.executed_unread]
      split_ifs at finished ⊢
      · exact ih (index + 1) (by omega) finished
      · exact finished

theorem add_task_past_agrees (past pFunction : Option Task) (delay period : Nat)
    {start : SchMoment maxTasks Task} {result : Nat × SchMoment maxTasks Task}
    (finished : (schAddTask pFunction delay period).run start = some result) :
    (schAddTaskPast past pFunction delay period).run start = some result := by
  rw [sch_add_task_eq, Program.run_bind, Option.bind_eq_some_iff] at finished
  obtain ⟨found, search, finished⟩ := finished
  rw [schAddTaskPast, Program.run_bind,
    find_gap_past_agrees past maxTasks 0 (by omega) search]
  exact finished

theorem find_gap_past_full (past : Option Task) {start : SchMoment maxTasks Task}
    (full : ∀ index, (start.state.tasks index).pTask ≠ none) (remaining index : Nat)
    (inside : index + remaining = maxTasks) :
    (findGapPast past remaining index).run start = some (maxTasks, start) := by
  induction remaining generalizing index with
  | zero =>
      obtain rfl : index = maxTasks := inside
      simp only [findGapPast, readPointer, Nat.lt_irrefl, dif_neg, not_false_eq_true, Program.read,
        Program.step_bind, Program.done_bind, Program.pure_eq_done, Program.run,
        Moment.executed_unread]
  | succ remaining ih =>
      have bound : index < maxTasks := by omega
      simp only [findGapPast, readPointer, bound, dif_pos, Program.read, Program.step_bind,
        Program.done_bind, Program.run, Moment.executed_unread, decide_true, Bool.and_true,
        Option.isSome_iff_ne_none.mpr (full ⟨index, bound⟩), if_true]
      exact ih (index + 1) (by omega)

theorem add_task_past_full (past pFunction : Option Task) (delay period : Nat)
    {start : SchMoment maxTasks Task}
    (full : ∀ index, (start.state.tasks index).pTask ≠ none) :
    (schAddTaskPast past pFunction delay period).run start =
      some (maxTasks, ⟨start.history ++ [.event (.errorSet errorSchTooManyTasks)],
        { start.state with errorCode := errorSchTooManyTasks }⟩) := by
  rw [schAddTaskPast, Program.run_bind, find_gap_past_full past full maxTasks 0 (by omega),
    Option.bind_some, if_pos rfl]
  rfl

theorem add_task_past_returns (past pFunction : Option Task) (delay period : Nat) :
    (schAddTaskPast past pFunction delay period : SchProgram maxTasks Task Nat).EveryValue
      (· ≤ maxTasks) := by
  have reads (index : Nat) (bound : index ≤ maxTasks) :
      (readPointer past index : SchProgram maxTasks Task (Option Task)).EveryValue
        fun _ => index ≤ maxTasks := by
    rw [readPointer]
    split_ifs <;> exact fun _ => bound
  have search (remaining index : Nat) (inside : index + remaining = maxTasks) :
      (findGapPast past remaining index : SchProgram maxTasks Task Nat).EveryValue
        (· ≤ maxTasks) := by
    induction remaining generalizing index with
    | zero => exact Program.every_value_bind (reads index (by omega)) fun _ bound => bound
    | succ remaining ih =>
        apply Program.every_value_bind (reads index (by omega))
        intro pTask bound
        split_ifs
        · exact ih (index + 1) (by omega)
        · exact bound
  apply Program.every_value_bind (search maxTasks 0 (by omega))
  intro index bound
  have writes (assign : STask Task → STask Task) :
      (writeTask index assign : SchProgram maxTasks Task Unit).EveryValue fun _ => True := by
    rw [writeTask]
    split_ifs
    · exact fun _ => trivial
    · trivial
  split_ifs
  · exact fun _ => le_rfl
  · apply Program.every_value_bind (writes _)
    intro _ _
    apply Program.every_value_bind (writes _)
    intro _ _
    apply Program.every_value_bind (writes _)
    intro _ _
    rw [finishAdd]
    split_ifs
    · exact fun _ => bound
    · trivial

/-- The tables at which the main program or a task body can make its next call: after
`SCH_Init_T2`, after timer interrupts, after calls that other interrupts may have
divided, after an Add that was refused, and after the rounds of a dispatch pass
that precede the one whose body makes the call. -/
inductive CallTable : SchState maxTasks Task → Prop where
  | booted : CallTable .initial
  | updated {table : SchState maxTasks Task} (before : CallTable table) :
      CallTable (schUpdate table)
  | requested {table : SchState maxTasks Task} (request : Request maxTasks Task)
      {final : SchMoment maxTasks Task} (before : CallTable table)
      (performed : Reaches timer (request.perform, ⟨[], table⟩) (.done (), final)) :
      CallTable final.state
  | refused {table : SchState maxTasks Task} (past : Option Task) (pFunction : Task)
      (delay period : Nat) {final : SchMoment maxTasks Task} (before : CallTable table)
      (full : ∀ index, (table.tasks index).pTask ≠ none)
      (returned : (schAddTaskPast past (some pFunction) delay period).run ⟨[], table⟩ =
        some (maxTasks, final)) : CallTable final.state
  | dispatched {table : SchState maxTasks Task} (bodies : Bodies maxTasks Task)
      (slots : List (Fin maxTasks)) (inOrder : slots <+: List.finRange maxTasks)
      {final : SchMoment maxTasks Task} (before : CallTable table)
      (rounds : Reaches timer (.forEach slots (dispatchTask (runBody bodies)), ⟨[], table⟩)
        (.done (), final)) : CallTable final.state

/-- A free slot is entirely zero wherever an operation can be called. -/
theorem call_table_settled {table : SchState maxTasks Task} (reachable : CallTable table)
    (index : Fin maxTasks) : (table.tasks index).Settled := by
  have fresh (table : SchState maxTasks Task) (settled : ∀ index, (table.tasks index).Settled) :
      allSettled.holds ⟨[], table⟩ :=
    ⟨fun _ _ member => absurd member List.not_mem_nil, fun index _ => settled index⟩
  induction reachable generalizing index with
  | booted => exact fun _ => rfl
  | updated _ ih =>
      rw [sch_update_tasks]
      exact update_task_settled (ih index)
  | requested request _ performed ih =>
      exact ((request_settles request).finally (fresh _ ih) performed).2 index id
  | refused past pFunction delay period _ full returned ih =>
      rw [add_task_past_full past (some pFunction) delay period full] at returned
      cases returned
      exact ih index
  | dispatched bodies slots _ _ rounds ih =>
      have keeps : Triple timer CallsNonNull allSettled.holds
          (.forEach slots (dispatchTask (runBody bodies))) fun _ => allSettled.holds :=
        triple_for_each allSettled fun slot _ => dispatch_task_settles bodies slot
      exact (keeps.finally (fresh _ ih) rounds).2 index id

end Schedulers.TimeTriggered
