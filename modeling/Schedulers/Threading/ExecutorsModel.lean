import Schedulers.Support.TransitionSystem
import Mathlib.Logic.Function.Basic

/-!
# `executors` and `asio_executor` of `threading.h`

`executors::post` makes a packaged task, hands a closure that shares its ownership
to the executor registered under an id and waits for the future. `terminate_all`
stops the registered executors one by one under `mtx_` and clears the registry;
once it has returned an executor may be released, whose destructor joins the thread
and destroys the `io_service`.

Of boost: a future becomes ready when its task is invoked or when the last owner of
the task is gone; a stopped `io_service` starts no further handler; the handlers
that are left are destroyed with it. Callers are not executor threads, so a caller
has one packaged task at a time and a job is named by its caller.
-/

namespace Schedulers.Threading

open Schedulers.TransitionSystem

set_option autoImplicit false

/-- The future of the packaged task in the frame of `executors::post`. -/
inductive FutureState where
  | pending
  | value
  | brokenPromise
  deriving DecidableEq, Repr

inductive CallerPoint (Executor : Type) where
  | outside
  | posting (id : Int)
  | waiting (executor : Executor)
  | stopping (left : List Executor)
  | releasing (executor : Executor)
  deriving DecidableEq, Repr

inductive RunnerPoint (Thread : Type) where
  | idle
  | running (job : Thread)
  | exited
  deriving DecidableEq, Repr

/-- `released`: the last `shared_ptr` is gone and the destructor waits in `join`. -/
inductive Lifetime where
  | held
  | released
  | destroyed
  deriving DecidableEq, Repr

structure AsioExecutor (Thread : Type) where
  queue : List Thread
  stopped : Bool
  runner : RunnerPoint Thread
  lifetime : Lifetime
  deriving DecidableEq, Repr

def AsioExecutor.new {Thread : Type} : AsioExecutor Thread where
  queue := []
  stopped := false
  runner := .idle
  lifetime := .held

/-- `registry` is `id_to_exec_` and `mutex` the owner of `mtx_` between two steps.
`terminated`: a call of `terminate_all` has returned. -/
structure ExecutorsState (Thread Executor : Type) where
  registry : List (Int × Executor)
  mutex : Option Thread
  terminated : Bool
  thread : Thread → CallerPoint Executor
  future : Thread → FutureState
  executor : Executor → AsioExecutor Thread

inductive ExecutorsLabel (Thread Executor : Type) where
  | post (caller : Thread) (id : Int)
  | postTask (caller : Thread)
  | get (caller : Thread)
  | terminateAll (thread : Thread)
  | stopNext (thread : Thread)
  | release (thread : Thread) (executor : Executor)
  | destroy (thread : Thread)
  | startJob (executor : Executor)
  | finishJob (executor : Executor)
  | exitRunner (executor : Executor)
  deriving DecidableEq, Repr

variable {Thread Executor : Type}

/-- The frame of `executors::post` owns its packaged task until `get` has returned. -/
def CallerPoint.ownsTask : CallerPoint Executor → Bool
  | .posting _ => true
  | .waiting _ => true
  | _ => false

section Updates

variable [DecidableEq Thread]

def ExecutorsState.goTo (state : ExecutorsState Thread Executor) (thread : Thread)
    (point : CallerPoint Executor) : ExecutorsState Thread Executor :=
  { state with thread := Function.update state.thread thread point }

@[simp] theorem go_to_self (state : ExecutorsState Thread Executor) (thread : Thread)
    (point : CallerPoint Executor) : (state.goTo thread point).thread thread = point := by
  unfold ExecutorsState.goTo
  exact Function.update_self ..

theorem go_to_other (state : ExecutorsState Thread Executor) {thread other : Thread}
    (different : other ≠ thread) (point : CallerPoint Executor) :
    (state.goTo thread point).thread other = state.thread other := by
  unfold ExecutorsState.goTo
  exact Function.update_of_ne different ..

@[simp] theorem go_to_executor (state : ExecutorsState Thread Executor) (thread : Thread)
    (point : CallerPoint Executor) : (state.goTo thread point).executor = state.executor := rfl

@[simp] theorem go_to_future (state : ExecutorsState Thread Executor) (thread : Thread)
    (point : CallerPoint Executor) : (state.goTo thread point).future = state.future := rfl

theorem go_to_keeps {state : ExecutorsState Thread Executor} {caller thread : Thread}
    {here point : CallerPoint Executor} (elsewhere : state.thread thread ≠ here)
    (stands : state.thread caller = here) :
    (state.goTo thread point).thread caller = here := by
  rw [go_to_other state, stands]
  intro same
  subst same
  exact elsewhere stands

theorem before_go_to {state : ExecutorsState Thread Executor} {caller thread : Thread}
    {here point : CallerPoint Executor}
    (elsewhere : point ≠ here) (stands : (state.goTo thread point).thread caller = here) :
    state.thread caller = here := by
  by_cases same : caller = thread
  · subst same
    rw [go_to_self] at stands
    exact absurd stands elsewhere
  · rw [go_to_other state same] at stands
    exact stands

end Updates

section Updates

variable [DecidableEq Executor]

def ExecutorsState.setExecutor (state : ExecutorsState Thread Executor) (index : Executor)
    (executor : AsioExecutor Thread) : ExecutorsState Thread Executor :=
  { state with executor := Function.update state.executor index executor }

@[simp] theorem set_executor_self (state : ExecutorsState Thread Executor) (index : Executor)
    (executor : AsioExecutor Thread) :
    (state.setExecutor index executor).executor index = executor := by
  unfold ExecutorsState.setExecutor
  exact Function.update_self ..

theorem set_executor_other (state : ExecutorsState Thread Executor) {index other : Executor}
    (different : other ≠ index) (executor : AsioExecutor Thread) :
    (state.setExecutor index executor).executor other = state.executor other := by
  unfold ExecutorsState.setExecutor
  exact Function.update_of_ne different ..

@[simp] theorem set_executor_thread (state : ExecutorsState Thread Executor) (index : Executor)
    (executor : AsioExecutor Thread) :
    (state.setExecutor index executor).thread = state.thread := rfl

@[simp] theorem set_executor_future (state : ExecutorsState Thread Executor) (index : Executor)
    (executor : AsioExecutor Thread) :
    (state.setExecutor index executor).future = state.future := rfl

theorem set_executor_at {state : ExecutorsState Thread Executor}
    {property : AsioExecutor Thread → Prop} {index other : Executor}
    {executor : AsioExecutor Thread} (given : property (state.executor index))
    (new : index = other → property executor) :
    property ((state.setExecutor other executor).executor index) := by
  by_cases here : index = other
  · rw [← here, set_executor_self]
    exact new here
  · rw [set_executor_other state here]
    exact given

theorem set_executor_all {state : ExecutorsState Thread Executor}
    {property : AsioExecutor Thread → Prop} {other : Executor}
    {executor : AsioExecutor Thread} (given : ∀ index, property (state.executor index))
    (new : property executor) (index : Executor) :
    property ((state.setExecutor other executor).executor index) :=
  set_executor_at (given index) (fun _ => new)

theorem set_executor_read {state : ExecutorsState Thread Executor} {Read : Type}
    (read : AsioExecutor Thread → Read) {other : Executor}
    {executor : AsioExecutor Thread} (same : read executor = read (state.executor other))
    (index : Executor) :
    read ((state.setExecutor other executor).executor index) = read (state.executor index) := by
  by_cases here : index = other
  · rw [here, set_executor_self]
    exact same
  · rw [set_executor_other state here]

end Updates

section Steps

variable [DecidableEq Thread] [DecidableEq Executor]

/-- `executors::post` up to the call of `post_task`. -/
def stepPost (caller : Thread) (id : Int) (state : ExecutorsState Thread Executor) :
    Option (ExecutorsState Thread Executor) :=
  match state.thread caller with
  | .outside =>
      some { state.goTo caller (.posting id) with
        future := Function.update state.future caller .pending }
  | _ => none

/-- `executors::post_task`, one critical section. It throws when the id is not known
or the executor is gone. -/
def stepPostTask (caller : Thread) (state : ExecutorsState Thread Executor) :
    Option (ExecutorsState Thread Executor) :=
  match state.thread caller, state.mutex with
  | .posting id, none =>
      match state.registry.lookup id with
      | none => some (state.goTo caller .outside)
      | some index =>
          let executor := state.executor index
          if executor.lifetime = .held then
            some ((state.goTo caller (.waiting index)).setExecutor index
              { executor with queue := executor.queue ++ [caller] })
          else some (state.goTo caller .outside)
  | _, _ => none

def stepGet (caller : Thread) (state : ExecutorsState Thread Executor) :
    Option (ExecutorsState Thread Executor) :=
  match state.thread caller, state.future caller with
  | .waiting _, .pending => none
  | .waiting _, _ => some (state.goTo caller .outside)
  | _, _ => none

/-- `terminate_all` up to its loop. -/
def stepTerminateAll (thread : Thread) (state : ExecutorsState Thread Executor) :
    Option (ExecutorsState Thread Executor) :=
  match state.thread thread, state.mutex with
  | .outside, none =>
      some { state.goTo thread (.stopping (state.registry.map Prod.snd)) with
        mutex := some thread }
  | _, _ => none

/-- One round of the loop of `terminate_all`, or the clearing of the registry. -/
def stepStopNext (thread : Thread) (state : ExecutorsState Thread Executor) :
    Option (ExecutorsState Thread Executor) :=
  match state.thread thread with
  | .stopping [] =>
      some { state.goTo thread .outside with registry := [], mutex := none, terminated := true }
  | .stopping (index :: left) =>
      let executor := state.executor index
      if executor.lifetime = .held then
        some ((state.goTo thread (.stopping left)).setExecutor index
          { executor with stopped := true })
      else some (state.goTo thread (.stopping left))
  | _ => none

/-- The owner drops the last `shared_ptr`; the destructor starts with `join`. -/
def stepRelease (thread : Thread) (index : Executor) (state : ExecutorsState Thread Executor) :
    Option (ExecutorsState Thread Executor) :=
  match state.thread thread, state.terminated with
  | .outside, true =>
      let executor := state.executor index
      if executor.lifetime = .held then
        some ((state.goTo thread (.releasing index)).setExecutor index
          { executor with lifetime := .released })
      else none
  | _, _ => none

/-- `join` returns and the `io_service` is destroyed, with the jobs left in it. A
task whose caller's frame is gone loses its last owner then. -/
def stepDestroy (thread : Thread) (state : ExecutorsState Thread Executor) :
    Option (ExecutorsState Thread Executor) :=
  match state.thread thread with
  | .releasing index =>
      let executor := state.executor index
      if executor.runner = .exited then
        some { (state.goTo thread .outside).setExecutor index
            { executor with queue := [], lifetime := .destroyed } with
          future := fun job =>
            if job ∈ executor.queue ∧ (state.thread job).ownsTask = false ∧
                state.future job = .pending then .brokenPromise
            else state.future job }
      else none
  | _ => none

def stepStartJob (index : Executor) (state : ExecutorsState Thread Executor) :
    Option (ExecutorsState Thread Executor) :=
  let executor := state.executor index
  match executor.runner, executor.queue, executor.stopped with
  | .idle, job :: rest, false =>
      some (state.setExecutor index { executor with queue := rest, runner := .running job })
  | _, _, _ => none

def stepFinishJob (index : Executor) (state : ExecutorsState Thread Executor) :
    Option (ExecutorsState Thread Executor) :=
  let executor := state.executor index
  match executor.runner with
  | .running job =>
      some { state.setExecutor index { executor with runner := .idle } with
        future := Function.update state.future job .value }
  | _ => none

/-- `io->run()` returns once the `io_service` is stopped; until then the `work`
object keeps it running. -/
def stepExitRunner (index : Executor) (state : ExecutorsState Thread Executor) :
    Option (ExecutorsState Thread Executor) :=
  let executor := state.executor index
  match executor.runner, executor.stopped with
  | .idle, true => some (state.setExecutor index { executor with runner := .exited })
  | _, _ => none

def ExecutorsState.start (registry : List (Int × Executor)) : ExecutorsState Thread Executor where
  registry := registry
  mutex := none
  terminated := false
  thread := fun _ => .outside
  future := fun _ => .pending
  executor := fun _ => .new

def executorsSystem (registry : List (Int × Executor)) :
    System (ExecutorsState Thread Executor) (ExecutorsLabel Thread Executor) where
  initial state := state = .start registry
  step
    | .post caller id => stepPost caller id
    | .postTask caller => stepPostTask caller
    | .get caller => stepGet caller
    | .terminateAll thread => stepTerminateAll thread
    | .stopNext thread => stepStopNext thread
    | .release thread index => stepRelease thread index
    | .destroy thread => stepDestroy thread
    | .startJob index => stepStartJob index
    | .finishJob index => stepFinishJob index
    | .exitRunner index => stepExitRunner index

end Steps

end Schedulers.Threading
