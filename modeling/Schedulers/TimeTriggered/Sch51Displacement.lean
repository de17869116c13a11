import Schedulers.TimeTriggered.Sch51Ledger

/-!
# Added tasks are never displaced

`SCH_Add_Task` also runs inside task bodies, while the dispatcher is in the middle
of its bookkeeping and one-shot tasks are leaving the table. It only ever takes
slots that nobody's task holds.
-/

namespace Schedulers.TimeTriggered

open Schedulers.InterruptibleProgram

set_option autoImplicit false

variable {maxTasks : Nat} {Task : Type}

/-- In a run where nobody calls `SCH_Delete_Task`, an added task keeps its slot, its
function and its period, for ever if periodic and until its body has run if not,
and no later Add takes that slot. -/
theorem added_task_never_displaced (boot afterInit : SchMoment maxTasks Task)
    (booted : schInitT2.run boot = some ((), afterInit))
    (operations : List (Operation maxTasks Task))
    (onlyAdds : ∀ operation ∈ operations, operation.OnlyAdds)
    (rest : SchProgram maxTasks Task Unit) (final : SchMoment maxTasks Task)
    (run : Reaches timer (mainProgram operations, ⟨[], afterInit.state⟩) (rest, final))
    (earlier later : SchHistory maxTasks Task) (index : Fin maxTasks) (pFunction : Option Task)
    (delay period : Nat)
    (added : final.history = earlier ++ .event (.added index pFunction delay period) :: later)
    (alive : 0 < period ∨ .event (.returned index) ∉ later) :
    (final.state.tasks index).pTask = pFunction ∧ pFunction ≠ none ∧
      (final.state.tasks index).period = period ∧
      ∀ other task since interval, .event (.added other task since interval) ∈ later →
        other ≠ index := by
  rw [sch_init_t2_run boot afterInit booted] at run
  have follows := (main_program_follows False operations
    fun operation member => (onlyAdds operation member).allowed).always_safe
      (following_initial False) run
  have undisplaced := follows.undisplaced
  rw [added] at undisplaced
  have notDeleted (between : SchHistory maxTasks Task) (handle : Option Nat)
      (pTask : Option Task) (rest : SchHistory maxTasks Task)
      (split : later = between ++ .event (.deleting handle index pTask) :: rest) : False :=
    follows.deletions handle index pTask (by simp [added, split])
  have persists := entry_persists undisplaced
    (fun between handle pTask rest split => (notDeleted between handle pTask rest split).elim)
    alive
  rw [← added] at persists
  have listed := follows.listed index _ persists.1
  refine ⟨listed.1, listed.2.1, listed.2.2, ?_⟩
  intro other task since interval member same
  subst same
  exact persists.2 task since interval member

/-- A one-shot body adds a periodic task while it runs, and is then removed. -/
theorem added_task_never_displaced_from_body :
    ∃ final : SchMoment 2 Unit, .event (.added 1 (some ()) 3 7) ∈ final.history ∧
      .event (.returned 0) ∈ final.history ∧
      (final.state.tasks 1).pTask = some () ∧ (final.state.tasks 1).period = 7 := by
  let operations : List (Operation 2 Unit) :=
    [.request (.add () 0 0), .dispatch fun index => if index = 0 then [.add () 3 7] else []]
  have onlyAdds : ∀ operation ∈ operations, operation.OnlyAdds := by
    simp [operations, Operation.OnlyAdds]
  obtain ⟨afterInit, booted⟩ : ∃ afterInit : SchMoment 2 Unit,
      schInitT2.run ⟨[], .initial⟩ = some ((), afterInit) := ⟨_, rfl⟩
  have run := follow_done_reaches schUpdate
    (List.replicate 5 .statement ++ [.interrupt] ++ List.replicate 30 .statement)
    ((mainProgram operations : SchProgram 2 Unit Unit), ⟨[], .initial⟩) () rfl
  have added : .event (.added 1 (some ()) 3 7) ∈ (follow schUpdate
      (List.replicate 5 .statement ++ [.interrupt] ++ List.replicate 30 .statement)
      ((mainProgram operations : SchProgram 2 Unit Unit), ⟨[], .initial⟩)).2.history := by
    apply mem_observed_events.mp
    decide
  obtain ⟨earlier, later, split⟩ := List.append_of_mem added
  rw [← sch_init_t2_run _ _ booted] at run split
  have kept := added_task_never_displaced _ afterInit booted operations onlyAdds _ _ run earlier
    later 1 (some ()) 3 7 split (.inl (by decide))
  rw [sch_init_t2_run _ _ booted] at kept
  refine ⟨_, added, mem_observed_events.mp ?_, kept.1, kept.2.2.1⟩
  decide

end Schedulers.TimeTriggered
