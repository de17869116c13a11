import Schedulers.TimeTriggered.Sch51Specifications
import Mathlib.Data.List.Sort
import Mathlib.Data.Fin.VecNotation

/-!
# The effect of one undivided dispatch pass

With no interrupt between its statements a pass is a function of the table it
starts from. Each round reads and writes its own slot only, so the rounds of
different slots do not meet and the pass is the slot function applied everywhere.
-/

namespace Schedulers.TimeTriggered

open Schedulers.InterruptibleProgram

set_option autoImplicit false

variable {maxTasks : Nat} {Task : Type}

/-- The bodies come back and have neither changed the table nor called the scheduler. -/
def LeavesTable (body : Fin maxTasks → Task → SchProgram maxTasks Task Unit) : Prop :=
  ∀ index task (moment : SchMoment maxTasks Task),
    (body index task).run moment = some ((), moment)

def DueOccupied (state : SchState maxTasks Task) : Prop :=
  ∀ index, (state.tasks index).runMe > 0 → (state.tasks index).pTask ≠ none

def dueSlots (state : SchState maxTasks Task) : List (Fin maxTasks) :=
  (List.finRange maxTasks).filter fun index => (state.tasks index).runMe > 0

def dispatchedTask (task : STask Task) : STask Task :=
  if task.runMe > 0 then
    if task.period = 0 then .zero else { task with runMe := task.runMe - 1 }
  else task

def roundEvents (state : SchState maxTasks Task) (index : Fin maxTasks) :
    List (SchEvent maxTasks Task) :=
  [.called index (state.tasks index).pTask, .returned index]

theorem dispatch_task_idle {body : Fin maxTasks → Task → SchProgram maxTasks Task Unit}
    {index : Fin maxTasks} {start : SchMoment maxTasks Task}
    (idle : ¬(start.state.tasks index).runMe > 0) :
    (dispatchTask body index).run start = some ((), start) := by
  simp only [dispatchTask, read_task_fin, Program.read, Program.step_bind, Program.done_bind,
    Program.run, Moment.executed_unread, if_neg idle, Program.pure_eq_done]

theorem call_task_run {body : Fin maxTasks → Task → SchProgram maxTasks Task Unit}
    (leaves : LeavesTable body) {index : Fin maxTasks} {start : SchMoment maxTasks Task}
    (occupied : (start.state.tasks index).pTask ≠ none) :
    (callTask index body).run start =
      some ((), ⟨start.history ++ (roundEvents start.state index).map .event, start.state⟩) := by
  obtain ⟨task, pointer⟩ := Option.ne_none_iff_exists'.mp occupied
  simp only [callTask, Program.run, pointer, Program.run_bind, leaves index task,
    Option.bind_some, Program.write, roundEvents]
  simp [Moment.executed, pointer]

/-- `RunMe` is decremented before `Period` is tested, and the deletion of a one-shot
finds its own task in the slot, so it reports no error. -/
theorem dispatch_task_due {body : Fin maxTasks → Task → SchProgram maxTasks Task Unit}
    (leaves : LeavesTable body) {index : Fin maxTasks} {start : SchMoment maxTasks Task}
    (due : (start.state.tasks index).runMe > 0)
    (occupied : (start.state.tasks index).pTask ≠ none) :
    (dispatchTask body index).run start =
      some ((), ⟨start.history ++ (roundEvents start.state index).map .event,
        start.state.setTask index (dispatchedTask (start.state.tasks index))⟩) := by
  let returned : SchMoment maxTasks Task :=
    ⟨start.history ++ (roundEvents start.state index).map .event, start.state⟩
  let counted : SchMoment maxTasks Task := returned.executed (fun state => state.setTask index
    { state.tasks index with runMe := (state.tasks index).runMe - 1 }) fun _ => []
  have calls : (callTask index body).run start = some ((), returned) :=
    call_task_run leaves occupied
  have books : counted = ⟨returned.history, start.state.setTask index
      { start.state.tasks index with runMe := (start.state.tasks index).runMe - 1 }⟩ := by
    simp [counted, returned, Moment.executed]
  simp only [dispatchTask, read_task_fin, write_task_fin, Program.read, Program.write,
    Program.step_bind, Program.done_bind, Program.run, Moment.executed_unread, if_pos due,
    Program.run_bind, calls, Option.bind_some]
  change (if (counted.state.tasks index).period = 0 then _ else _ :
    SchProgram maxTasks Task Unit).run counted = _
  by_cases single : (start.state.tasks index).period = 0
  · have oneShot : (counted.state.tasks index).period = 0 := by
      rw [books, SchState.set_task_same]
      exact single
    have present : (counted.state.tasks index).pTask ≠ none := by
      rw [books, SchState.set_task_same]
      exact occupied
    rw [if_pos oneShot, Program.run_bind, delete_task_run_occupied index counted present, books]
    simp [dispatchedTask, due, single, Program.run, returned]
  · have periodic : ¬(counted.state.tasks index).period = 0 := by
      rw [books, SchState.set_task_same]
      exact single
    rw [if_neg periodic, books]
    simp [dispatchedTask, due, single, Program.run, returned]

theorem round_events_congr {state next : SchState maxTasks Task} {slots : List (Fin maxTasks)}
    (same : ∀ index ∈ slots, next.tasks index = state.tasks index) :
    (slots.filter fun index => (next.tasks index).runMe > 0).flatMap (roundEvents next) =
      (slots.filter fun index => (state.tasks index).runMe > 0).flatMap (roundEvents state) := by
  have due : slots.filter (fun index => (next.tasks index).runMe > 0) =
      slots.filter fun index => (state.tasks index).runMe > 0 :=
    List.filter_congr fun index member => by rw [same index member]
  rw [due]
  apply List.flatMap_congr
  intro index member
  rw [roundEvents, roundEvents, same index (List.mem_filter.mp member).1]

theorem dispatch_slots_run {body : Fin maxTasks → Task → SchProgram maxTasks Task Unit}
    (leaves : LeavesTable body) (slots : List (Fin maxTasks)) (distinct : slots.Nodup)
    (start : SchMoment maxTasks Task)
    (occupied : ∀ index ∈ slots, (start.state.tasks index).runMe > 0 →
      (start.state.tasks index).pTask ≠ none) :
    ∃ final : SchMoment maxTasks Task,
      (Program.forEach slots (dispatchTask body)).run start = some ((), final) ∧
      final.history = start.history ++
        ((slots.filter fun index => (start.state.tasks index).runMe > 0).flatMap
          (roundEvents start.state)).map .event ∧
      (∀ index, final.state.tasks index =
        if index ∈ slots then dispatchedTask (start.state.tasks index)
        else start.state.tasks index) ∧
      final.state.errorCode = start.state.errorCode := by
  induction slots generalizing start with
  | nil => exact ⟨start, rfl, by simp, by simp, rfl⟩
  | cons head slots ih =>
      obtain ⟨headOutside, distinctRest⟩ := List.nodup_cons.mp distinct
      have apart (index : Fin maxTasks) (member : index ∈ slots) : index ≠ head := by
        rintro rfl
        exact headOutside member
      by_cases due : (start.state.tasks head).runMe > 0
      · let next : SchMoment maxTasks Task :=
          ⟨start.history ++ (roundEvents start.state head).map .event,
            start.state.setTask head (dispatchedTask (start.state.tasks head))⟩
        have round : (dispatchTask body head).run start = some ((), next) :=
          dispatch_task_due leaves due (occupied head (by simp) due)
        have same (index : Fin maxTasks) (member : index ∈ slots) :
            next.state.tasks index = start.state.tasks index :=
          SchState.set_task_other _ _ (apart index member)
        obtain ⟨final, rest, history, tasks, code⟩ := ih distinctRest next (by
          intro index member
          rw [same index member]
          exact occupied index (by simp [member]))
        refine ⟨final, ?_, ?_, ?_, code⟩
        · rw [Program.forEach, Program.run_bind, round]
          exact rest
        · rw [history, round_events_congr same, List.filter_cons_of_pos (by simpa using due),
            List.flatMap_cons, List.map_append, ← List.append_assoc]
        · intro index
          rw [tasks index]
          by_cases own : index = head
          · subst own
            simp [headOutside, next]
          · simp [own, next, SchState.set_task_other _ _ own]
      · obtain ⟨final, rest, history, tasks, code⟩ := ih distinctRest start
          fun index member => occupied index (by simp [member])
        refine ⟨final, ?_, ?_, ?_, code⟩
        · rw [Program.forEach, Program.run_bind, dispatch_task_idle due]
          exact rest
        · rw [history, List.filter_cons_of_neg (by simpa using due)]
        · intro index
          rw [tasks index]
          by_cases own : index = head
          · subst own
            simp [headOutside, dispatchedTask, due]
          · simp [own]

theorem due_slots_ascending (state : SchState maxTasks Task) :
    (dueSlots state).Pairwise (· < ·) :=
  (List.sortedLT_finRange maxTasks).pairwise.filter _

theorem mem_due_slots {state : SchState maxTasks Task} {index : Fin maxTasks} :
    index ∈ dueSlots state ↔ (state.tasks index).runMe > 0 := by
  simp [dueSlots]

end Schedulers.TimeTriggered
