import Schedulers.Support.InterruptibleProgram
import Mathlib.Data.List.FinRange
import Mathlib.Logic.Function.Basic

/-!
# The time-triggered scheduler of `scheduler_raw/sch51.c`

The task table, the timer interrupt and the four operations on the table, one
assignment or test of the source to a statement. `SCH_MAX_TASKS` is a parameter;
it is at most 255, so a `tByte Index` counts through the table without wrapping
and is a natural number here. A table access outside the array is a fault.
-/

namespace Schedulers.TimeTriggered

open Schedulers.InterruptibleProgram

set_option autoImplicit false

abbrev TByte := UInt8

def returnNormal : TByte := 0
def returnError : TByte := 1
def errorSchTooManyTasks : TByte := 1
def errorSchCannotDeleteTask : TByte := 2

/-- `pTask` is `none` for the null pointer. `Delay` and `Period` are `tWord`s; they
are only copied, compared with zero and decremented when not zero, so no width
of `unsigned int` can show and they are natural numbers here. -/
structure STask (Task : Type) where
  pTask : Option Task
  delay : Nat
  period : Nat
  runMe : TByte
  deriving DecidableEq, Repr

def STask.zero {Task : Type} : STask Task where
  pTask := none
  delay := 0
  period := 0
  runMe := 0

structure SchState (maxTasks : Nat) (Task : Type) where
  tasks : Fin maxTasks → STask Task
  errorCode : TByte

/-- What an observer of the scheduler sees. `called` is the call through `pTask`
with the pointer it goes through and `returned` the return of that call; `added`
is the end of a successful `SCH_Add_Task` and `deleting` the start of a
`SCH_Delete_Task` that a task body or the main program makes, with the pointer
found in the slot and, where the index is one that an Add returned, the number of
that Add. -/
inductive SchEvent (maxTasks : Nat) (Task : Type) where
  | called (index : Fin maxTasks) (pTask : Option Task)
  | returned (index : Fin maxTasks)
  | errorSet (code : TByte)
  | added (index : Fin maxTasks) (pFunction : Option Task) (delay period : Nat)
  | deleting (handle : Option Nat) (index : Fin maxTasks) (pTask : Option Task)
  deriving DecidableEq, Repr

abbrev SchProgram (maxTasks : Nat) (Task Value : Type) :=
  Program (SchState maxTasks Task) (SchEvent maxTasks Task) Value

abbrev SchMoment (maxTasks : Nat) (Task : Type) :=
  Moment (SchState maxTasks Task) (SchEvent maxTasks Task)

abbrev SchHistory (maxTasks : Nat) (Task : Type) :=
  List (Observation (SchState maxTasks Task) (SchEvent maxTasks Task))

variable {maxTasks : Nat} {Task Value : Type}

namespace SchState

def setTask (state : SchState maxTasks Task) (index : Fin maxTasks) (task : STask Task) :
    SchState maxTasks Task :=
  { state with tasks := Function.update state.tasks index task }

@[simp] theorem set_task_same (state : SchState maxTasks Task) (index : Fin maxTasks)
    (task : STask Task) : (state.setTask index task).tasks index = task := by
  simp [setTask]

theorem set_task_other (state : SchState maxTasks Task) {index other : Fin maxTasks}
    (task : STask Task) (different : other ≠ index) :
    (state.setTask index task).tasks other = state.tasks other := by
  simp [setTask, different]

theorem set_task_all {property : STask Task → Prop} {state : SchState maxTasks Task}
    (given : ∀ index, property (state.tasks index)) (slot : Fin maxTasks) {task : STask Task}
    (new : property task) (index : Fin maxTasks) :
    property ((state.setTask slot task).tasks index) := by
  by_cases same : index = slot
  · rw [same, set_task_same]
    exact new
  · rw [set_task_other state task same]
    exact given index

@[simp] theorem set_task_twice (state : SchState maxTasks Task) (index : Fin maxTasks)
    (first second : STask Task) :
    (state.setTask index first).setTask index second = state.setTask index second := by
  simp [setTask]

@[simp] theorem set_task_error_code (state : SchState maxTasks Task) (index : Fin maxTasks)
    (task : STask Task) : (state.setTask index task).errorCode = state.errorCode := rfl

def initial : SchState maxTasks Task where
  tasks := fun _ => .zero
  errorCode := 0

end SchState

/-- The loop body of `SCH_Update` on one slot. -/
def updateTask (task : STask Task) : STask Task :=
  if task.pTask.isSome then
    if task.delay = 0 then
      let due := { task with runMe := task.runMe + 1 }
      if due.period ≠ 0 then { due with delay := due.period } else due
    else { task with delay := task.delay - 1 }
  else task

/-- `SCH_Update`, taken as one atomic step. -/
def schUpdate (state : SchState maxTasks Task) : SchState maxTasks Task :=
  (List.finRange maxTasks).foldl
    (fun state index => state.setTask index (updateTask (state.tasks index))) state

def timer : Handler (SchState maxTasks Task) := interruptBy schUpdate

private theorem update_slots_tasks (indices : List (Fin maxTasks)) (distinct : indices.Nodup)
    (state : SchState maxTasks Task) (index : Fin maxTasks) :
    (indices.foldl (fun state index =>
      state.setTask index (updateTask (state.tasks index))) state).tasks index =
      if index ∈ indices then updateTask (state.tasks index) else state.tasks index := by
  induction indices generalizing state with
  | nil => simp
  | cons head indices ih =>
      have rest := List.nodup_cons.mp distinct
      rw [List.foldl_cons, ih rest.2]
      by_cases same : index = head
      · subst same
        simp [rest.1]
      · simp [same, SchState.set_task_other _ _ same]

@[simp] theorem sch_update_tasks (state : SchState maxTasks Task) (index : Fin maxTasks) :
    (schUpdate state).tasks index = updateTask (state.tasks index) := by
  rw [schUpdate, update_slots_tasks _ (List.nodup_finRange maxTasks)]
  simp

@[simp] theorem sch_update_error_code (state : SchState maxTasks Task) :
    (schUpdate state).errorCode = state.errorCode := by
  have each (indices : List (Fin maxTasks)) (state : SchState maxTasks Task) :
      (indices.foldl (fun state index =>
        state.setTask index (updateTask (state.tasks index))) state).errorCode =
        state.errorCode := by
    induction indices generalizing state with
    | nil => rfl
    | cons head indices ih => rw [List.foldl_cons, ih, SchState.set_task_error_code]
  exact each _ state

@[simp] theorem update_task_p_task (task : STask Task) : (updateTask task).pTask = task.pTask := by
  unfold updateTask
  dsimp only
  split_ifs <;> rfl

@[simp] theorem update_task_period (task : STask Task) :
    (updateTask task).period = task.period := by
  unfold updateTask
  dsimp only
  split_ifs <;> rfl

theorem update_task_free {task : STask Task} (free : task.pTask = none) :
    updateTask task = task := by
  simp [updateTask, free]

def readTask (taskIndex : Nat) (field : STask Task → Value) : SchProgram maxTasks Task Value :=
  if bound : taskIndex < maxTasks then
    .read fun state => field (state.tasks ⟨taskIndex, bound⟩)
  else .fault

def writeTask (taskIndex : Nat) (assign : STask Task → STask Task) :
    SchProgram maxTasks Task Unit :=
  if bound : taskIndex < maxTasks then
    .write (fun state => state.setTask ⟨taskIndex, bound⟩
      (assign (state.tasks ⟨taskIndex, bound⟩))) []
  else .fault

def setErrorCode (code : TByte) : SchProgram maxTasks Task Unit :=
  .write (fun state => { state with errorCode := code }) [.errorSet code]

def schDeleteTask (taskIndex : Nat) : SchProgram maxTasks Task TByte := do
  let pTask ← readTask taskIndex STask.pTask
  let returnCode ←
    (if pTask.isNone then do
      setErrorCode errorSchCannotDeleteTask
      return returnError
    else return returnNormal)
  writeTask taskIndex fun task => { task with pTask := none }
  writeTask taskIndex fun task => { task with delay := 0 }
  writeTask taskIndex fun task => { task with period := 0 }
  writeTask taskIndex fun task => { task with runMe := 0 }
  return returnCode

/-- The search loop of `SCH_Add_Task`, with `remaining` = `SCH_MAX_TASKS - Index`.
The slot is read before `Index` is compared, so the last test of a full table
reads one slot past the array. -/
def findGap : Nat → Nat → SchProgram maxTasks Task Nat
  | 0, index => do
      let _ ← readTask index STask.pTask
      return index
  | remaining + 1, index => do
      let pTask ← readTask index STask.pTask
      if pTask.isSome && index < maxTasks then findGap remaining (index + 1)
      else return index

/-- The last assignment of `SCH_Add_Task`. The end of a successful call is
observed with it. -/
def finishAdd (index : Nat) (pFunction : Option Task) (delay period : Nat) :
    SchProgram maxTasks Task Unit :=
  if bound : index < maxTasks then
    .write (fun state => state.setTask ⟨index, bound⟩
      { state.tasks ⟨index, bound⟩ with runMe := 0 })
      [.added ⟨index, bound⟩ pFunction delay period]
  else .fault

def schAddTask (pFunction : Option Task) (delay period : Nat) :
    SchProgram maxTasks Task Nat := do
  let index ← findGap maxTasks 0
  if index = maxTasks then do
    setErrorCode errorSchTooManyTasks
    return maxTasks
  else do
    writeTask index fun task => { task with pTask := pFunction }
    writeTask index fun task => { task with delay := delay }
    writeTask index fun task => { task with period := period }
    finishAdd index pFunction delay period
    return index

/-- `(*SCH_tasks_G[Index].pTask)()`; `body` is what the function called does. -/
def callTask (index : Fin maxTasks) (body : Fin maxTasks → Task → SchProgram maxTasks Task Unit) :
    SchProgram maxTasks Task Unit :=
  .step id (fun state => [.called index (state.tasks index).pTask]) fun state =>
    match (state.tasks index).pTask with
    | none => .fault
    | some task => do
        body index task
        .write id [.returned index]

def dispatchTask (body : Fin maxTasks → Task → SchProgram maxTasks Task Unit)
    (index : Fin maxTasks) : SchProgram maxTasks Task Unit := do
  let runMe ← readTask index STask.runMe
  if runMe > 0 then do
    callTask index body
    writeTask index fun task => { task with runMe := task.runMe - 1 }
    let period ← readTask index STask.period
    if period = 0 then do
      let _ ← schDeleteTask index
      return ()
    else return ()
  else return ()

/-- `SCH_Go_To_Sleep` is empty in this port. -/
def schDispatchTasks (body : Fin maxTasks → Task → SchProgram maxTasks Task Unit) :
    SchProgram maxTasks Task Unit :=
  .forEach (List.finRange maxTasks) (dispatchTask body)

def schInitT2 : SchProgram maxTasks Task Unit := do
  .forEach (List.finRange maxTasks) fun index => do
    let _ ← schDeleteTask index
    return ()
  setErrorCode 0

inductive Request (maxTasks : Nat) (Task : Type) where
  | add (pFunction : Task) (delay period : Nat)
  | delete (index : Fin maxTasks)
  deriving DecidableEq, Repr

def Request.perform : Request maxTasks Task → SchProgram maxTasks Task Unit
  | .add pFunction delay period => do
      let _ ← schAddTask (some pFunction) delay period
      return ()
  | .delete index => do
      .step id (fun state => [.deleting none index (state.tasks index).pTask]) fun _ => .done ()
      let _ ← schDeleteTask index
      return ()

/-- `bodies index` is what the body called for slot `index` in this pass does to
the table. A pass runs at most one body for a slot, so this covers bodies that
keep state or look at what the calls return. -/
abbrev Bodies (maxTasks : Nat) (Task : Type) := Fin maxTasks → List (Request maxTasks Task)

def runBody (bodies : Bodies maxTasks Task) (index : Fin maxTasks) (_ : Task) :
    SchProgram maxTasks Task Unit :=
  .forEach (bodies index) Request.perform

inductive Operation (maxTasks : Nat) (Task : Type) where
  | request (call : Request maxTasks Task)
  | dispatch (bodies : Bodies maxTasks Task)

def Operation.perform : Operation maxTasks Task → SchProgram maxTasks Task Unit
  | .request call => call.perform
  | .dispatch bodies => schDispatchTasks (runBody bodies)

def mainProgram (operations : List (Operation maxTasks Task)) : SchProgram maxTasks Task Unit :=
  .forEach operations Operation.perform

def dispatchPasses (passes : Nat) : SchProgram maxTasks Task Unit :=
  .forEach (List.range passes) fun _ => schDispatchTasks fun _ _ => .done ()

end Schedulers.TimeTriggered
