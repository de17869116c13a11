import Schedulers.Support.TransitionSystem
import Schedulers.Support.HandlerService
import Mathlib.Logic.Function.Basic

/-!
# `executors`, `qt_executor` and `asio_pool` of `threading/`

The program of `test_threading.cc`: the main thread starts the pool, registers itself
under `UI`, posts the first `job` under `DB` and runs the event loop; a `job` on the pool
posts `Window::done` to the main thread, and `done` posts the next `job`. A thread of its
own runs `asio_pool::thread_func`, which registers the pool, holds a `work` object while
it creates the threads of the pool, and returns. The `io_service` and the event queue of
Qt are parameters. Each access to the registry, which has no lock, is one step.
-/

namespace Schedulers.QtExecutors

open Schedulers.TransitionSystem Schedulers.HandlerServices

set_option autoImplicit false

inductive ThreadIds where
  | db
  | ui
  deriving DecidableEq, Repr

/-- The main thread: before `a.start()`, before `executors::add`, before the first
`post_task`, in `app.exec()`, and at the start of `Window::done`. -/
inductive MainPoint where
  | starting
  | adding
  | posting
  | waiting
  | done
  deriving DecidableEq, Repr

inductive ThreadFuncPoint where
  | notStarted
  | adding
  | makingWork
  | creating (threads : Nat)
  | returned
  deriving DecidableEq, Repr

/-- A thread of the pool. `job`: in `job` before its `post_task`; `returning`: after it,
still in `job`. -/
inductive PoolPoint where
  | notCreated
  | created
  | waiting
  | job
  | returning
  | exited
  deriving DecidableEq, Repr

/-- The handlers of `svc` are calls of `job`, the events calls of `Window::done`; `jobs`
and `dones` count the calls of `job` that have started and those of `done` that have
posted. -/
structure ProgramState (tNumber : Nat) (Svc Events : Type) where
  idToExec : ThreadIds → Bool
  main : MainPoint
  threadFunc : ThreadFuncPoint
  pool : Fin tNumber → PoolPoint
  svc : Svc
  events : Events
  jobs : Nat
  dones : Nat

inductive ChainLabel (tNumber : Nat) where
  | start
  | addUi
  | postFirst
  | addDb
  | makeWork
  | createThread
  | returnThreadFunc
  | enterRun (thread : Fin tNumber)
  | startJob (thread : Fin tNumber)
  | postDone (thread : Fin tNumber)
  | finishJob (thread : Fin tNumber)
  | leaveRun (thread : Fin tNumber)
  | startDone
  | postNext
  deriving DecidableEq, Repr

variable {tNumber : Nat} {Svc Events : Type}

namespace ProgramState

section

variable (service : HandlerService Svc) (queue : EventQueue Events)

/-- `asio_pool::post` and `qt_executor::post` -/
def post (state : ProgramState tNumber Svc Events) : ThreadIds → ProgramState tNumber Svc Events
  | .db => { state with svc := service.post state.svc }
  | .ui => { state with events := queue.postEvent state.events }

/-- `executors::post_task`; nothing happens when the id is not known. -/
def postTask (state : ProgramState tNumber Svc Events) (id : ThreadIds) :
    ProgramState tNumber Svc Events :=
  if state.idToExec id then state.post service queue id else state

end

def add (state : ProgramState tNumber Svc Events) (id : ThreadIds) :
    ProgramState tNumber Svc Events :=
  { state with idToExec := Function.update state.idToExec id true }

def goTo (state : ProgramState tNumber Svc Events) (thread : Fin tNumber) (point : PoolPoint) :
    ProgramState tNumber Svc Events :=
  { state with pool := Function.update state.pool thread point }

end ProgramState

section Steps

variable (service : HandlerService Svc) (queue : EventQueue Events)

def programCreateThread (state : ProgramState tNumber Svc Events) :
    Option (ProgramState tNumber Svc Events) :=
  match state.threadFunc with
  | .creating threads =>
      if bound : threads < tNumber then
        some { state.goTo ⟨threads, bound⟩ .created with threadFunc := .creating (threads + 1) }
      else none
  | _ => none

/-- The end of `thread_func`, where its `work` is destroyed. -/
def programReturnThreadFunc (state : ProgramState tNumber Svc Events) :
    Option (ProgramState tNumber Svc Events) :=
  match state.threadFunc with
  | .creating threads =>
      if threads < tNumber then none
      else some { state with svc := service.destroyWork state.svc, threadFunc := .returned }
  | _ => none

def programEnterRun (thread : Fin tNumber) (state : ProgramState tNumber Svc Events) :
    Option (ProgramState tNumber Svc Events) :=
  match state.pool thread with
  | .created =>
      let (svc, stays) := service.run state.svc
      some { state.goTo thread (if stays then .waiting else .exited) with svc := svc }
  | _ => none

def programStep : ChainLabel tNumber → ProgramState tNumber Svc Events →
    Option (ProgramState tNumber Svc Events)
  | .start, state =>
      match state.main with
      | .starting => some { state with main := .adding, threadFunc := .adding }
      | _ => none
  | .addUi, state =>
      match state.main with
      | .adding => some { state.add .ui with main := .posting }
      | _ => none
  | .postFirst, state =>
      match state.main with
      | .posting => some { state.postTask service queue .db with main := .waiting }
      | _ => none
  | .addDb, state =>
      match state.threadFunc with
      | .adding => some { state.add .db with threadFunc := .makingWork }
      | _ => none
  | .makeWork, state =>
      match state.threadFunc with
      | .makingWork =>
          some { state with threadFunc := .creating 0, svc := service.makeWork state.svc }
      | _ => none
  | .createThread, state => programCreateThread state
  | .returnThreadFunc, state => programReturnThreadFunc service state
  | .enterRun thread, state => programEnterRun service thread state
  | .startJob thread, state =>
      match state.pool thread, service.startHandler state.svc with
      | .waiting, some svc =>
          some { state.goTo thread .job with svc := svc, jobs := state.jobs + 1 }
      | _, _ => none
  | .postDone thread, state =>
      match state.pool thread with
      | .job => some ((state.postTask service queue .ui).goTo thread .returning)
      | _ => none
  | .finishJob thread, state =>
      match state.pool thread with
      | .returning =>
          some { state.goTo thread .waiting with svc := service.handlerReturned state.svc }
      | _ => none
  | .leaveRun thread, state =>
      match state.pool thread, service.runReturns state.svc with
      | .waiting, true => some (state.goTo thread .exited)
      | _, _ => none
  | .startDone, state =>
      match state.main, queue.nextEvent state.events with
      | .waiting, some events => some { state with main := .done, events := events }
      | _, _ => none
  | .postNext, state =>
      match state.main with
      | .done =>
          some { state.postTask service queue .db with
            main := .waiting
            dones := state.dones + 1 }
      | _ => none

def ProgramState.initial : ProgramState tNumber Svc Events where
  idToExec := fun _ => false
  main := .starting
  threadFunc := .notStarted
  pool := fun _ => .notCreated
  svc := service.new
  events := queue.new
  jobs := 0
  dones := 0

def programSystem (tNumber : Nat) :
    System (ProgramState tNumber Svc Events) (ChainLabel tNumber) where
  initial state := state = .initial service queue
  step := programStep service queue

end Steps

def MainPoint.posted : MainPoint → Bool
  | .waiting => true
  | .done => true
  | _ => false

/-- The first `job` is posted once the pool is registered, `thread_func` returns after
that, and a `job` returns when `done` has posted the next one. -/
def patientProgram (pending : Events → Nat) :
    Permission (ProgramState tNumber Svc Events) (ChainLabel tNumber)
  | .postFirst, state => state.idToExec .db = true
  | .returnThreadFunc, state => state.main.posted = true
  | .finishJob _, state => pending state.events = 0 ∧ state.main ≠ .done
  | _, _ => True

end Schedulers.QtExecutors
