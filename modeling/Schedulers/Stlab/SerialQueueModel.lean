import Schedulers.Support.TransitionSystem
import Mathlib.Logic.Function.Basic

/-!
# `serial_queue_t` of stlab's `serial_queue.hpp`

`enqueue` appends a task under the mutex and, unless the queue is running, hands a job
to the executor; the job is `single` or `all`, as chosen at construction, and hands in
its own successor when it leaves tasks behind. Of the executor: it runs each job it is
given once, some time later, on any of its threads and next to other jobs. Tasks do not
throw; a task may enqueue others, so a caller is any activity that calls `enqueue`.
-/

namespace Schedulers.Stlab

open Schedulers.TransitionSystem

set_option autoImplicit false

inductive ScheduleMode where
  | single
  | all
  deriving DecidableEq, Repr

/-- `kicking` is between the locked section of `enqueue`, which found the queue not
running, and the call of `_executor`. -/
inductive CallerPoint where
  | outside
  | kicking
  deriving DecidableEq, Repr

/-- A job handed to the executor. `poppedEmpty` is `front` of an empty deque. -/
inductive JobPoint (Task : Type) where
  | absent
  | pending
  | draining (localQueue : List Task)
  | running (f : Task) (localQueue : List Task)
  | checking
  | resubmitting
  | returned
  | poppedEmpty
  deriving DecidableEq, Repr

/-- `isRunning` is `_running`. `enqueued` has the tasks in the order of the locked
sections, `finished` those that have been run to their end. -/
structure SerialState (Caller Task : Type) where
  isRunning : Bool
  queue : List Task
  caller : Caller → CallerPoint
  submitted : Nat
  job : Nat → JobPoint Task
  enqueued : List Task
  finished : List Task

inductive SerialLabel (Caller Task : Type) where
  | enqueue (caller : Caller) (f : Task)
  | kick (caller : Caller)
  | take (index : Nat)
  | next (index : Nat)
  | finish (index : Nat)
  | check (index : Nat)
  | resubmit (index : Nat)
  deriving DecidableEq, Repr

variable {Caller Task : Type} [DecidableEq Caller]

def SerialState.setCaller (state : SerialState Caller Task) (caller : Caller)
    (point : CallerPoint) : SerialState Caller Task :=
  { state with caller := Function.update state.caller caller point }

def SerialState.setJob (state : SerialState Caller Task) (index : Nat) (point : JobPoint Task) :
    SerialState Caller Task :=
  { state with job := Function.update state.job index point }

def SerialState.submit (state : SerialState Caller Task) : SerialState Caller Task :=
  { state.setJob state.submitted .pending with submitted := state.submitted + 1 }

/-- The locked section of `enqueue`, with what it decides on. -/
def SerialState.enqueue (state : SerialState Caller Task) (caller : Caller) (f : Task) :
    SerialState Caller Task :=
  { state.setCaller caller (if state.isRunning then .outside else .kicking) with
    queue := state.queue ++ [f]
    isRunning := true
    enqueued := state.enqueued ++ [f] }

/-- The first locked section of `single` and of `all`. -/
def SerialState.take (mode : ScheduleMode) (state : SerialState Caller Task) (index : Nat) :
    SerialState Caller Task :=
  match mode with
  | .single =>
      match state.queue with
      | [] => state.setJob index .poppedEmpty
      | f :: rest => { state.setJob index (.running f []) with queue := rest }
  | .all => { state.setJob index (.draining state.queue) with queue := [] }

def afterTask (mode : ScheduleMode) (localQueue : List Task) : JobPoint Task :=
  match mode with
  | .single => .checking
  | .all => .draining localQueue

/-- `empty`: the queue stops running when nothing is left. -/
def SerialState.checkEmpty (state : SerialState Caller Task) (index : Nat) :
    SerialState Caller Task :=
  match state.queue with
  | [] => { state.setJob index .returned with isRunning := false }
  | _ :: _ => state.setJob index .resubmitting

def serialStep (mode : ScheduleMode) :
    SerialLabel Caller Task → SerialState Caller Task → Option (SerialState Caller Task)
  | .enqueue caller f, state =>
      match state.caller caller with
      | .outside => some (state.enqueue caller f)
      | .kicking => none
  | .kick caller, state =>
      match state.caller caller with
      | .kicking => some (state.setCaller caller .outside).submit
      | .outside => none
  | .take index, state =>
      match state.job index with
      | .pending => some (state.take mode index)
      | _ => none
  | .next index, state =>
      match state.job index with
      | .draining (f :: localQueue) => some (state.setJob index (.running f localQueue))
      | .draining [] => some (state.setJob index .checking)
      | _ => none
  | .finish index, state =>
      match state.job index with
      | .running f localQueue =>
          some { state.setJob index (afterTask mode localQueue) with
            finished := state.finished ++ [f] }
      | _ => none
  | .check index, state =>
      match state.job index with
      | .checking => some (state.checkEmpty index)
      | _ => none
  | .resubmit index, state =>
      match state.job index with
      | .resubmitting => some (state.setJob index .returned).submit
      | _ => none

def SerialState.start : SerialState Caller Task where
  isRunning := false
  queue := []
  caller := fun _ => .outside
  submitted := 0
  job := fun _ => .absent
  enqueued := []
  finished := []

def serialSystem (Caller Task : Type) [DecidableEq Caller] (mode : ScheduleMode) :
    System (SerialState Caller Task) (SerialLabel Caller Task) where
  initial state := state = .start
  step := serialStep mode

/-- The steps of the calls under way and of the executor's jobs: no new call of `enqueue`. -/
def NoNewCall : Permission (SerialState Caller Task) (SerialLabel Caller Task)
  | .enqueue _ _, _ => False
  | _, _ => True

end Schedulers.Stlab
