import Schedulers.TimeTriggered.Sch51CallTables

/-!
# Accesses at the end of the table

Two places step over the end of `SCH_tasks_G`. The loop of `SCH_Add_Task` reads
slot `SCH_MAX_TASKS` of a full table before it compares `Index`, and
`SCH_Delete_Task` uses the index it is given as it is, also when that is the value
a refused Add returned.
-/

namespace Schedulers.TimeTriggered

open Schedulers.InterruptibleProgram

set_option autoImplicit false

variable {maxTasks : Nat} {Task : Type}

/-- The call returns, which it does only without an access outside the table; it
fills the lowest free slot and no other, or refuses the task. -/
structure AddStaysInside (pFunction : Option Task) (delay period : Nat)
    (before : SchMoment maxTasks Task) : Prop where
  inside : ∃ result, (schAddTask pFunction delay period).run before = some result
  installs : ∀ slot, LowestFree before.state slot → ∃ final : SchMoment maxTasks Task,
    (schAddTask pFunction delay period).run before = some (slot.val, final) ∧
      final.state = before.state.setTask slot ⟨pFunction, delay, period, 0⟩
  refuses : (∀ index, (before.state.tasks index).pTask ≠ none) →
    ∃ final : SchMoment maxTasks Task,
      (schAddTask pFunction delay period).run before = some (maxTasks, final) ∧
        final.state = { before.state with errorCode := errorSchTooManyTasks }

/-- Exactly the calls that find a free slot stay inside the table. -/
theorem add_stays_inside_iff_free (pFunction : Option Task) (delay period : Nat)
    (before : SchMoment maxTasks Task) :
    AddStaysInside pFunction delay period before ↔
      ∃ index, (before.state.tasks index).pTask = none := by
  constructor
  · intro stays
    by_contra none
    push Not at none
    obtain ⟨result, returned⟩ := stays.inside
    rw [add_task_full none] at returned
    cases returned
  · intro free
    obtain ⟨lowest, found⟩ := exists_lowest_free free
    constructor
    · exact ⟨_, add_task_installs found pFunction delay period⟩
    · exact fun slot here => ⟨_, add_task_installs here pFunction delay period, rfl⟩
    · intro full
      exact absurd found.free (full lowest)

/-- A table of one slot, occupied: the second loop test reads slot 1. -/
theorem add_reads_past_full_table :
    ¬∀ (maxTasks : Nat) (pFunction : Option Unit) (delay period : Nat)
      (before : SchMoment maxTasks Unit), 1 ≤ maxTasks → maxTasks ≤ 254 →
      AddStaysInside pFunction delay period before := by
  intro always
  let full : SchMoment 1 Unit := ⟨[], { tasks := fun _ => ⟨some (), 0, 1, 0⟩, errorCode := 0 }⟩
  obtain ⟨result, returned⟩ := (always 1 (some ()) 0 1 full (by decide) (by decide)).inside
  rw [add_task_full fun _ => Option.some_ne_none ()] at returned
  cases returned

/-- `SCH_Delete_Task(r)` returns, which it does only without an access outside the
table; it changes no slot other than `r`, and where `r` is no occupied slot it
reports the error and changes none at all. -/
def DeleteIsSafe (r : Nat) (table : SchState maxTasks Task) : Prop :=
  ∃ (code : TByte) (final : SchMoment maxTasks Task),
    (schDeleteTask r).run ⟨[], table⟩ = some (code, final) ∧
    (∀ index : Fin maxTasks, index.val ≠ r → final.state.tasks index = table.tasks index) ∧
    ((∀ index : Fin maxTasks, index.val = r → (table.tasks index).pTask = none) →
      code = returnError ∧ final.state.tasks = table.tasks)

theorem delete_outside_faults {r : Nat} (outside : maxTasks ≤ r)
    (start : SchMoment maxTasks Task) : (schDeleteTask r).run start = none := by
  have notInside : ¬r < maxTasks := by omega
  simp [schDeleteTask, readTask, notInside, Program.run]

theorem delete_inside_safe {index : Fin maxTasks} {table : SchState maxTasks Task}
    (settled : (table.tasks index).Settled) : DeleteIsSafe index.val table := by
  by_cases free : (table.tasks index).pTask = none
  · refine ⟨_, _, delete_task_run_free index ⟨[], table⟩ free, ?_, ?_⟩
    · intro other different
      exact SchState.set_task_other _ _ fun same => different (congrArg Fin.val same)
    · intro _
      refine ⟨rfl, ?_⟩
      funext other
      by_cases same : other = index
      · rw [same, settled free]
        exact SchState.set_task_same _ _ _
      · exact SchState.set_task_other _ _ same
  · refine ⟨_, _, delete_task_run_occupied index ⟨[], table⟩ free, ?_, ?_⟩
    · intro other different
      exact SchState.set_task_other _ _ fun same => different (congrArg Fin.val same)
    · intro unoccupied
      exact absurd (unoccupied index rfl) free

/-- Of the values an Add returns, from whatever table, exactly the indices of slots are
safe to delete; the value of a refused Add is not. -/
theorem delete_returned_safe_iff {before table : SchState maxTasks Task}
    (past : Option Task) (pFunction : Task) (delay period : Nat)
    {r : Nat} {after : SchMoment maxTasks Task}
    (returned : Reaches timer (schAddTaskPast past (some pFunction) delay period, ⟨[], before⟩)
      (.done r, after)) (reachable : CallTable table) :
    DeleteIsSafe r table ↔ r ≠ maxTasks := by
  have atMost : r ≤ maxTasks :=
    (add_task_past_returns past (some pFunction) delay period).reached returned
  constructor
  · rintro ⟨code, final, finished, _⟩ rfl
    rw [delete_outside_faults le_rfl] at finished
    cases finished
  · intro slot
    have bound : r < maxTasks := by omega
    exact delete_inside_safe (call_table_settled reachable ⟨r, bound⟩)

theorem filled_call_table : ∃ table : SchState 1 Unit, CallTable table ∧
    (table.tasks 0).pTask = some () := by
  have added : (Request.add () 0 1).perform.run (⟨[], .initial⟩ : SchMoment 1 Unit) =
      some ((), _) := rfl
  exact ⟨_, .requested _ .booted (Program.run_reaches timer added), rfl⟩

theorem delete_returned_safe_first_slot :
    ∃ table : SchState 1 Unit, (table.tasks 0).pTask = some () ∧ DeleteIsSafe 0 table := by
  obtain ⟨table, reachable, occupied⟩ := filled_call_table
  have added : (schAddTaskPast none (some ()) 0 1).run (⟨[], .initial⟩ : SchMoment 1 Unit) =
      some (0, _) := rfl
  have returned := Program.run_reaches timer added
  exact ⟨table, occupied,
    (delete_returned_safe_iff none () 0 1 returned reachable).mpr (by decide)⟩

/-- The second Add to a table of one slot is refused with 1, and `SCH_Delete_Task(1)`
leaves the table. -/
theorem refused_handle_deletes_past_table :
    ¬∀ (maxTasks : Nat) (before table : SchState maxTasks Unit) (past : Option Unit)
      (pFunction : Unit) (delay period r : Nat) (after : SchMoment maxTasks Unit),
      CallTable before →
      Reaches timer (schAddTaskPast past (some pFunction) delay period, ⟨[], before⟩)
        (.done r, after) →
      CallTable table → DeleteIsSafe r table := by
  intro always
  obtain ⟨table, reachable, occupied⟩ := filled_call_table
  have full (index : Fin 1) : (table.tasks index).pTask ≠ none := by
    rw [Subsingleton.elim index 0, occupied]
    exact Option.some_ne_none ()
  have refused := @add_task_past_full 1 Unit none (some ()) 0 1 ⟨[], table⟩ full
  have returned := Program.run_reaches timer refused
  obtain ⟨code, final, finished, _⟩ := always 1 table _ none () 0 1 1 _ reachable returned
    (.refused none () 0 1 reachable full refused)
  rw [delete_outside_faults le_rfl] at finished
  cases finished

end Schedulers.TimeTriggered
