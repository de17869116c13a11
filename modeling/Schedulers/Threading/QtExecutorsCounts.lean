import Schedulers.Threading.QtExecutorsModel
import Schedulers.Support.Tally

/-!
# The chain in numbers

What decides how the program of `test_threading.cc` goes on: of the `io_service` the
number of handlers that wait, its unfinished work and whether it is stopped, and of the
event queue its length. The steps are those of the program.
-/

namespace Schedulers.QtExecutors

open Schedulers.TransitionSystem Schedulers.Tally

set_option autoImplicit false

structure ChainState (tNumber : Nat) where
  idToExec : ThreadIds → Bool
  main : MainPoint
  threadFunc : ThreadFuncPoint
  pool : Fin tNumber → PoolPoint
  queue : Nat
  outstandingWork : Nat
  stopped : Bool
  events : Nat
  jobs : Nat
  dones : Nat

variable {tNumber : Nat}

def ChainState.post (state : ChainState tNumber) : ThreadIds → ChainState tNumber
  | .db => { state with queue := state.queue + 1, outstandingWork := state.outstandingWork + 1 }
  | .ui => { state with events := state.events + 1 }

def ChainState.postTask (state : ChainState tNumber) (id : ThreadIds) : ChainState tNumber :=
  if state.idToExec id then state.post id else state

section Posts

variable (state : ChainState tNumber) (id : ThreadIds)

@[simp] theorem post_task_registry : (state.postTask id).idToExec = state.idToExec := by
  unfold ChainState.postTask
  cases id <;> split_ifs <;> rfl

@[simp] theorem post_task_main : (state.postTask id).main = state.main := by
  unfold ChainState.postTask
  cases id <;> split_ifs <;> rfl

@[simp] theorem post_task_thread_func : (state.postTask id).threadFunc = state.threadFunc := by
  unfold ChainState.postTask
  cases id <;> split_ifs <;> rfl

@[simp] theorem post_task_pool : (state.postTask id).pool = state.pool := by
  unfold ChainState.postTask
  cases id <;> split_ifs <;> rfl

@[simp] theorem post_task_stopped : (state.postTask id).stopped = state.stopped := by
  unfold ChainState.postTask
  cases id <;> split_ifs <;> rfl

@[simp] theorem post_task_jobs : (state.postTask id).jobs = state.jobs := by
  unfold ChainState.postTask
  cases id <;> split_ifs <;> rfl

@[simp] theorem post_task_dones : (state.postTask id).dones = state.dones := by
  unfold ChainState.postTask
  cases id <;> split_ifs <;> rfl

variable {id}

theorem post_task_known (known : state.idToExec id = true) :
    state.postTask id = state.post id :=
  if_pos known

theorem post_task_unknown (unknown : state.idToExec id = false) : state.postTask id = state := by
  simp [ChainState.postTask, unknown]

end Posts

def ChainState.add (state : ChainState tNumber) (id : ThreadIds) : ChainState tNumber :=
  { state with idToExec := Function.update state.idToExec id true }

@[simp] theorem add_registers (state : ChainState tNumber) (id : ThreadIds) :
    (state.add id).idToExec id = true :=
  Function.update_self ..

def ChainState.workFinished (state : ChainState tNumber) : ChainState tNumber :=
  { state with
    outstandingWork := state.outstandingWork - 1
    stopped := state.stopped || state.outstandingWork - 1 == 0 }

def ChainState.goTo (state : ChainState tNumber) (thread : Fin tNumber) (point : PoolPoint) :
    ChainState tNumber :=
  { state with pool := Function.update state.pool thread point }

def stepCreateThread (state : ChainState tNumber) : Option (ChainState tNumber) :=
  match state.threadFunc with
  | .creating threads =>
      if bound : threads < tNumber then
        some { state.goTo ⟨threads, bound⟩ .created with threadFunc := .creating (threads + 1) }
      else none
  | _ => none

def stepReturnThreadFunc (state : ChainState tNumber) : Option (ChainState tNumber) :=
  match state.threadFunc with
  | .creating threads =>
      if threads < tNumber then none
      else some { state.workFinished with threadFunc := .returned }
  | _ => none

def stepEnterRun (thread : Fin tNumber) (state : ChainState tNumber) :
    Option (ChainState tNumber) :=
  match state.pool thread with
  | .created =>
      if state.outstandingWork = 0 ∨ state.stopped = true then
        some { state.goTo thread .exited with stopped := true }
      else some (state.goTo thread .waiting)
  | _ => none

def stepStartJob (thread : Fin tNumber) (state : ChainState tNumber) :
    Option (ChainState tNumber) :=
  match state.pool thread, state.queue, state.stopped with
  | .waiting, queue + 1, false =>
      some { state.goTo thread .job with queue := queue, jobs := state.jobs + 1 }
  | _, _, _ => none

def chainStep : ChainLabel tNumber → ChainState tNumber → Option (ChainState tNumber)
  | .start, state =>
      match state.main with
      | .starting => some { state with main := .adding, threadFunc := .adding }
      | _ => none
  | .addUi, state =>
      match state.main with
      | .adding => some { state.add .ui with main := .posting }
      | _ => none
  | .postFirst, state =>
      match state.main with
      | .posting => some { state.postTask .db with main := .waiting }
      | _ => none
  | .addDb, state =>
      match state.threadFunc with
      | .adding => some { state.add .db with threadFunc := .makingWork }
      | _ => none
  | .makeWork, state =>
      match state.threadFunc with
      | .makingWork =>
          some { state with
            threadFunc := .creating 0
            outstandingWork := state.outstandingWork + 1 }
      | _ => none
  | .createThread, state => stepCreateThread state
  | .returnThreadFunc, state => stepReturnThreadFunc state
  | .enterRun thread, state => stepEnterRun thread state
  | .startJob thread, state => stepStartJob thread state
  | .postDone thread, state =>
      match state.pool thread with
      | .job => some ((state.postTask .ui).goTo thread .returning)
      | _ => none
  | .finishJob thread, state =>
      match state.pool thread with
      | .returning => some (state.workFinished.goTo thread .waiting)
      | _ => none
  | .leaveRun thread, state =>
      match state.pool thread, state.stopped with
      | .waiting, true => some (state.goTo thread .exited)
      | _, _ => none
  | .startDone, state =>
      match state.main, state.events with
      | .waiting, events + 1 => some { state with main := .done, events := events }
      | _, _ => none
  | .postNext, state =>
      match state.main with
      | .done => some { state.postTask .db with main := .waiting, dones := state.dones + 1 }
      | _ => none

def ChainState.initial : ChainState tNumber where
  idToExec := fun _ => false
  main := .starting
  threadFunc := .notStarted
  pool := fun _ => .notCreated
  queue := 0
  outstandingWork := 0
  stopped := false
  events := 0
  jobs := 0
  dones := 0

def chainSystem (tNumber : Nat) : System (ChainState tNumber) (ChainLabel tNumber) where
  initial state := state = .initial
  step := chainStep

/-- A `work` object or a handler that has not returned. -/
def ThreadFuncPoint.work : ThreadFuncPoint → Nat
  | .creating _ => 1
  | _ => 0

def PoolPoint.handler : PoolPoint → Nat
  | .job => 1
  | .returning => 1
  | _ => 0

def PoolPoint.inJob : PoolPoint → Nat
  | .job => 1
  | _ => 0

def MainPoint.unposted : MainPoint → Nat
  | .waiting => 0
  | _ => 1

/-- The places at which the next call of the chain is: to be posted by the main thread,
queued in the pool, in a `job`, or an event of the main thread. -/
def ChainState.tokens (state : ChainState tNumber) : Nat :=
  state.main.unposted + state.queue + tally PoolPoint.inJob state.pool + state.events

end Schedulers.QtExecutors
