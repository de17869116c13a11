import Schedulers.Support.TransitionSystem
import Mathlib.Algebra.GroupWithZero.Nat
import Mathlib.Logic.Function.Basic

/-!
# `priority_task_system` of stlab's `default_executor.hpp`

The executor behind `async`, in its portable form. Each worker has one queue for each of
the three priorities and scans its own and those of the workers after it with
`try_pop`; when it finds nothing it takes its mutex, reads `_done` and waits. `execute`
spins over the queues with `try_push`, falls back on `push`, and notifies the owner of
the queue after it has released the queue's mutex; the notifier does not hold the mutex
of the worker. `try_to_lock` may fail whether or not the mutex is held, so its outcome is
part of the label. Tasks do not throw; a task is named by the number of the `execute`
call that brought it. The number of workers, `hardware_concurrency`, is not 0.
-/

namespace Schedulers.Stlab

open Schedulers.TransitionSystem

set_option autoImplicit false

/-- `high`, `medium` and `low`, in the order of `_q`. -/
abbrev ExecutorPriority := Fin 3

def unsignedRange : Nat := 4294967296

/-- `_spin` -/
def spin (count : Nat) : Nat := if count < 64 then 64 else count

/-- `_spin / _count`, the number of queues of one priority that a scan looks at. -/
def reach (count : Nat) : Nat := spin count / count

/-- `scanning` is about to call `try_pop`, `locking` about to take its mutex and read
`_done`; `checked` has read it false and is about to wait. -/
inductive TaskWorkerPoint where
  | scanning (priority : ExecutorPriority) (n : Nat)
  | running (f : Nat)
  | locking
  | checked
  | waiting
  | exited
  deriving DecidableEq, Repr

/-- After a notification; the loop of `run` begins again. -/
def TaskWorkerPoint.woken : TaskWorkerPoint → TaskWorkerPoint
  | .waiting => .scanning 0 0
  | point => point

/-- A call of `execute`; `i` is what it has drawn from `_index`. -/
inductive ExecutePoint (count : Nat) where
  | absent
  | pushing (priority : ExecutorPriority) (i n : Nat)
  | notifying (owner : Fin count)
  | returned
  deriving DecidableEq, Repr

inductive SystemDestructor where
  | notEntered
  | notifying (next : Nat)
  | joining
  | returned
  deriving DecidableEq, Repr

structure TakenTask (count : Nat) where
  worker : Fin count
  queue : ExecutorPriority × Fin count
  f : Nat
  deriving DecidableEq, Repr

/-- `pushed` has what has gone into each queue, `taken` what has come out, in the order in
which the workers started on it, `finished` the tasks that have been run to their end. -/
structure TaskSystemState (count : Nat) where
  queue : ExecutorPriority × Fin count → List Nat
  index : Nat
  done : Bool
  worker : Fin count → TaskWorkerPoint
  calls : Nat
  call : Nat → ExecutePoint count
  destructor : SystemDestructor
  pushed : ExecutorPriority × Fin count → List Nat
  taken : List (TakenTask count)
  finished : List Nat

inductive TaskSystemLabel (count : Nat) where
  | execute (priority : ExecutorPriority)
  | tryPush (call : Nat) (locked : Bool)
  | push (call : Nat)
  | notify (call : Nat)
  | visit (worker : Fin count) (locked : Bool)
  | finish (worker : Fin count)
  | check (worker : Fin count)
  | wait (worker : Fin count)
  | wakeSpuriously (worker : Fin count)
  | setDone
  | notifyNext
  | joinAll
  deriving DecidableEq, Repr

variable {count : Nat}

namespace TaskSystemState

def setWorker (state : TaskSystemState count) (worker : Fin count) (point : TaskWorkerPoint) :
    TaskSystemState count :=
  { state with worker := Function.update state.worker worker point }

def setCall (state : TaskSystemState count) (call : Nat) (point : ExecutePoint count) :
    TaskSystemState count :=
  { state with call := Function.update state.call call point }

/-- `_q[priority][owner].emplace_back(f)`, with the call on its way to the notification. -/
def enqueue (state : TaskSystemState count) (call : Nat) (priority : ExecutorPriority)
    (owner : Fin count) : TaskSystemState count :=
  { state.setCall call (.notifying owner) with
    queue := Function.update state.queue (priority, owner)
      (state.queue (priority, owner) ++ [call])
    pushed := Function.update state.pushed (priority, owner)
      (state.pushed (priority, owner) ++ [call]) }

def dequeue (state : TaskSystemState count) (worker : Fin count) (priority : ExecutorPriority)
    (owner : Fin count) (f : Nat) (rest : List Nat) : TaskSystemState count :=
  { state.setWorker worker (.running f) with
    queue := Function.update state.queue (priority, owner) rest
    taken := state.taken ++ [⟨worker, (priority, owner), f⟩] }

/-- `_ready.notify_all()`: only the owner waits on its condition variable. -/
def wake (state : TaskSystemState count) (owner : Fin count) : TaskSystemState count :=
  state.setWorker owner (state.worker owner).woken

end TaskSystemState

/-- Where the two loops of `run` go on after a `try_pop` that found nothing. -/
def nextVisit (count : Nat) (priority : ExecutorPriority) (n : Nat) : TaskWorkerPoint :=
  if n + 1 < reach count then .scanning priority (n + 1)
  else
    match priority with
    | 0 => .scanning 1 0
    | 1 => .scanning 2 0
    | 2 => .locking

variable [NeZero count]

/-- `_q[priority][(i + n) % _count]` -/
def ownerOf (count : Nat) [NeZero count] (i n : Nat) : Fin count :=
  Fin.ofNat count ((i + n) % unsignedRange)

def visitStep (worker : Fin count) (locked : Bool) (state : TaskSystemState count) :
    Option (TaskSystemState count) :=
  match state.worker worker with
  | .scanning priority n =>
      let owner := ownerOf count worker n
      match locked, state.queue (priority, owner) with
      | true, f :: rest => some (state.dequeue worker priority owner f rest)
      | _, _ => some (state.setWorker worker (nextVisit count priority n))
  | _ => none

def tryPushStep (call : Nat) (locked : Bool) (state : TaskSystemState count) :
    Option (TaskSystemState count) :=
  match state.call call with
  | .pushing priority i n =>
      if n < reach count then
        if locked then some (state.enqueue call priority (ownerOf count i n))
        else some (state.setCall call (.pushing priority i (n + 1)))
      else none
  | _ => none

def taskSystemStep : TaskSystemLabel count → TaskSystemState count →
    Option (TaskSystemState count)
  | .execute priority, state =>
      if state.destructor = .returned then none
      else
        some { state.setCall state.calls (.pushing priority state.index 0) with
          calls := state.calls + 1
          index := (state.index + 1) % unsignedRange }
  | .tryPush call locked, state => tryPushStep call locked state
  | .push call, state =>
      match state.call call with
      | .pushing priority i n =>
          if n < reach count then none
          else some (state.enqueue call priority (ownerOf count i 0))
      | _ => none
  | .notify call, state =>
      match state.call call with
      | .notifying owner => some ((state.wake owner).setCall call .returned)
      | _ => none
  | .visit worker locked, state => visitStep worker locked state
  | .finish worker, state =>
      match state.worker worker with
      | .running f =>
          some { state.setWorker worker (.scanning 0 0) with finished := state.finished ++ [f] }
      | _ => none
  | .check worker, state =>
      match state.worker worker with
      | .locking => some (state.setWorker worker (if state.done then .exited else .checked))
      | _ => none
  | .wait worker, state =>
      match state.worker worker with
      | .checked => some (state.setWorker worker .waiting)
      | _ => none
  | .wakeSpuriously worker, state =>
      match state.worker worker with
      | .waiting => some (state.setWorker worker (.scanning 0 0))
      | _ => none
  | .setDone, state =>
      match state.destructor with
      | .notEntered => some { state with done := true, destructor := .notifying 0 }
      | _ => none
  | .notifyNext, state =>
      match state.destructor with
      | .notifying next =>
          if below : next < count then
            some { state.wake ⟨next, below⟩ with destructor := .notifying (next + 1) }
          else some { state with destructor := .joining }
      | _ => none
  | .joinAll, state =>
      match state.destructor with
      | .joining =>
          if ∀ worker, state.worker worker = .exited then
            some { state with destructor := .returned }
          else none
      | _ => none

def TaskSystemState.start (count : Nat) : TaskSystemState count where
  queue := fun _ => []
  index := 0
  done := false
  worker := fun _ => .scanning 0 0
  calls := 0
  call := fun _ => .absent
  destructor := .notEntered
  pushed := fun _ => []
  taken := []
  finished := []

def taskSystem (count : Nat) [NeZero count] :
    System (TaskSystemState count) (TaskSystemLabel count) where
  initial state := state = .start count
  step := taskSystemStep

/-- The steps of the calls, workers and destructor under way: no new call, no entry of
the destructor, and no wake-up without a notification. -/
def UnderWay : Permission (TaskSystemState count) (TaskSystemLabel count)
  | .execute _, _ => False
  | .wakeSpuriously _, _ => False
  | .setDone, _ => False
  | _, _ => True

end Schedulers.Stlab
