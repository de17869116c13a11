import Schedulers.Support.TransitionSystem

/-!
# The portable `system_timer` of stlab's `system_timer.hpp`

One thread takes the tasks whose time has come from a heap ordered by their time points
and runs them one after the other; `operator()` adds a task for a duration from now. A
call has its number for a name. Of the heap: its front is a task with the least time
point, whichever of those with equal ones. The clock never goes back; a wait may end
before it is notified and before its time. Time points do not overflow, and nobody calls
`operator()` once the thread has been joined.
-/

namespace Schedulers.Stlab

open Schedulers.TransitionSystem

set_option autoImplicit false

structure TimedTask where
  when : Int
  task : Nat
  deriving DecidableEq, Repr

/-- The thread in `timed_queue_run`. `waiting none` is in `wait`, `waiting (some when)` in
`wait_until`; `locking` is to look at the queue under the mutex. -/
inductive TimerPoint where
  | locking
  | waiting (when : Option Int)
  | running (timed : TimedTask)
  | returned
  deriving DecidableEq, Repr

inductive TimerDestructor where
  | notCalled
  | notifying
  | joining
  | joined
  deriving DecidableEq, Repr

structure StartedTask where
  timed : TimedTask
  startedAt : Int
  calls : Nat
  deriving DecidableEq, Repr

structure TimerState where
  now : Int
  timedQueue : List TimedTask
  stop : Bool
  thread : TimerPoint
  destructor : TimerDestructor
  calls : Nat
  started : List StartedTask
  deriving DecidableEq, Repr

inductive TimerLabel where
  | tick (time : Int)
  | add (duration : Int)
  | check (front : Nat)
  | timeout
  | wake
  | finish
  | setStop
  | notifyStop
  | join
  deriving DecidableEq, Repr

/-- `_condition.notify_one()`: only the thread of the timer waits. -/
def TimerPoint.notified : TimerPoint → TimerPoint
  | .waiting _ => .locking
  | point => point

/-- `operator()` is one critical section, with the call of `notify_one` in it. -/
def TimerState.add (state : TimerState) (duration : Int) : TimerState :=
  { state with
    timedQueue := state.timedQueue ++ [⟨state.now + duration, state.calls⟩]
    thread := state.thread.notified
    calls := state.calls + 1 }

def TimerState.take (state : TimerState) (front : Nat) (timed : TimedTask) : TimerState :=
  { state with
    timedQueue := state.timedQueue.eraseIdx front
    thread := .running timed
    started := state.started ++ [⟨timed, state.now, state.calls⟩] }

/-- The critical section of `timed_queue_run` from where the mutex is held, at its start
or after a wait, to the next wait or the end. -/
def stepCheck (front : Nat) (state : TimerState) : Option TimerState :=
  match state.thread with
  | .locking =>
      if state.stop then some { state with thread := .returned }
      else if state.timedQueue = [] then some { state with thread := .waiting none }
      else
        match state.timedQueue[front]? with
        | some timed =>
            if ∀ other ∈ state.timedQueue, timed.when ≤ other.when then
              if state.now < timed.when then
                some { state with thread := .waiting (some timed.when) }
              else some (state.take front timed)
            else none
        | none => none
  | _ => none

def timerStep : TimerLabel → TimerState → Option TimerState
  | .tick time, state => if state.now ≤ time then some { state with now := time } else none
  | .add duration, state =>
      -- `operator()` does not look at `_stop`; a task that runs may call it
      if state.destructor = .joined then none else some (state.add duration)
  | .check front, state => stepCheck front state
  | .timeout, state =>
      match state.thread with
      | .waiting (some when) =>
          if when ≤ state.now then some { state with thread := .locking } else none
      | _ => none
  | .wake, state =>
      match state.thread with
      | .waiting _ => some { state with thread := .locking }
      | _ => none
  | .finish, state =>
      match state.thread with
      | .running _ => some { state with thread := .locking }
      | _ => none
  | .setStop, state =>
      match state.destructor with
      | .notCalled => some { state with stop := true, destructor := .notifying }
      | _ => none
  | .notifyStop, state =>
      match state.destructor with
      | .notifying => some { state with thread := state.thread.notified, destructor := .joining }
      | _ => none
  | .join, state =>
      match state.destructor, state.thread with
      | .joining, .returned => some { state with destructor := .joined }
      | _, _ => none

def timerSystem : System TimerState TimerLabel where
  initial state := ∃ now, state =
    { now := now, timedQueue := [], stop := false, thread := .locking, destructor := .notCalled,
      calls := 0, started := [] }
  step := timerStep

/-- The steps of the timer's thread and of the destructor, which nothing outside can keep
from happening; a wait that ends for no reason is not one of them. -/
def ownTimerSteps : Permission TimerState TimerLabel
  | .check _, _ => True
  | .timeout, _ => True
  | .finish, _ => True
  | .notifyStop, _ => True
  | .join, _ => True
  | _, _ => False

end Schedulers.Stlab
