import Schedulers.Support.TransitionSystem
import Mathlib.Logic.Function.Basic

/-!
# `Executor` and `Scope` of `cs_executors/to_x86/Program.cs`

The main thread posts actions to the executors `IO` and `FS`, whose threads run their
dispatchers, and disposes the scope at the end: `IO` first, then `FS`. An action is a
list of posts and UI signals; what else it does touches no executor.

Of the WPF dispatcher: actions begun with `BeginInvoke` run one at a time in order,
once `InvokeShutdown` has been executed nothing runs any more and the thread ends, and
`BeginInvoke` is ignored after that. `UI_Post` hands its delegate to the thread pool.
-/

namespace Schedulers.CsExecutors

open Schedulers.TransitionSystem

set_option autoImplicit false

inductive ExecutorName where
  | io
  | fs
  deriving DecidableEq, Repr

inductive Poster where
  | main
  | executor (name : ExecutorName)
  deriving DecidableEq, Repr

/-- One call of `Executor.Post`: the thread that makes it, and how many calls this thread
has completed before. -/
structure Call where
  poster : Poster
  number : Nat
  deriving DecidableEq, Repr

/-- `uiPost` is `Scope.UI_Post(() => done = true)`. -/
inductive ActionStatement (Action : Type) where
  | post (target : ExecutorName) (action : Action)
  | uiPost
  deriving DecidableEq, Repr

/-- `awaitDone` is the loop that ends when `done` is set. -/
inductive MainStatement (Action : Type) where
  | post (target : ExecutorName) (action : Action)
  | awaitDone
  deriving DecidableEq, Repr

/-- An action with the call that posted it; `promised`: posted before `Scope.Dispose` was
called. -/
structure Job (Action : Type) where
  call : Call
  action : Action
  promised : Bool
  deriving DecidableEq, Repr

inductive QueueItem (Action : Type) where
  | action (job : Job Action)
  | shutdown
  deriving DecidableEq, Repr

/-- A job that a dispatcher runs. In `Post`, between the test of `disposed` and
`BeginInvoke`, `invoking` has the target and the action. -/
structure RunningJob (Action : Type) where
  job : Job Action
  invoking : Option (ExecutorName × Action)
  rest : List (ActionStatement Action)
  deriving DecidableEq, Repr

inductive DisposeStage where
  | test
  | invoke
  | join
  | setDisposed
  deriving DecidableEq, Repr

inductive MainPoint (Action : Type) where
  | working (rest : List (MainStatement Action))
  | invoking (target : ExecutorName) (action : Action) (rest : List (MainStatement Action))
  | disposing (target : ExecutorName) (stage : DisposeStage)
  | returned
  deriving DecidableEq, Repr

/-- `chained` has the calls of `IO.Post` that actions make which were posted to `FS` before
`Scope.Dispose` was called; `executed` has the calls whose actions have been run. -/
structure ScopeState (Action : Type) where
  disposed : ExecutorName → Bool
  queue : ExecutorName → List (QueueItem Action)
  running : ExecutorName → Option (RunningJob Action)
  exited : ExecutorName → Bool
  main : MainPoint Action
  signals : Nat
  done : Bool
  calls : Poster → Nat
  chained : List Call
  executed : ExecutorName → List Call

inductive ScopeLabel where
  | main
  | ui
  | executor (name : ExecutorName)
  deriving DecidableEq, Repr

variable {Action : Type}

def MainPoint.disposeCalled : MainPoint Action → Bool
  | .working _ => false
  | .invoking _ _ _ => false
  | .disposing _ _ => true
  | .returned => true

def afterDispose : ExecutorName → MainPoint Action
  | .io => .disposing .fs .test
  | .fs => .returned

namespace ScopeState

def beginInvoke (state : ScopeState Action) (target : ExecutorName) (item : QueueItem Action) :
    ScopeState Action :=
  if state.exited target then state
  else { state with
    queue := Function.update state.queue target (state.queue target ++ [item]) }

def currentCall (state : ScopeState Action) (poster : Poster) : Call :=
  ⟨poster, state.calls poster⟩

def completeCall (state : ScopeState Action) (poster : Poster) : ScopeState Action :=
  { state with calls := Function.update state.calls poster (state.calls poster + 1) }

/-- The second half of `Post`: `dispatcher.BeginInvoke(del)`. -/
def invoke (state : ScopeState Action) (poster : Poster) (target : ExecutorName)
    (action : Action) : ScopeState Action :=
  (state.beginInvoke target
    (.action ⟨state.currentCall poster, action, !state.main.disposeCalled⟩)).completeCall poster

/-- Notes a call of `IO.Post` by an action of `FS` that was posted in time. -/
def noteChain (state : ScopeState Action) (name : ExecutorName) (job : Job Action)
    (target : ExecutorName) : ScopeState Action :=
  if name = .fs ∧ job.promised = true ∧ target = .io then
    { state with chained := state.chained ++ [state.currentCall (.executor .fs)] }
  else state

def setRunning (state : ScopeState Action) (name : ExecutorName)
    (running : Option (RunningJob Action)) : ScopeState Action :=
  { state with running := Function.update state.running name running }

end ScopeState

/-- The next statement of a job: the second half of a `Post` that has begun, or the first
half of the next one, or the end of the job. -/
def runStep (name : ExecutorName) (running : RunningJob Action) (state : ScopeState Action) :
    ScopeState Action :=
  match running.invoking, running.rest with
  | some (target, action), _ =>
      (state.invoke (.executor name) target action).setRunning name
        (some { running with invoking := none })
  | none, .post target action :: rest =>
      let noted := state.noteChain name running.job target
      if state.disposed target then
        (noted.completeCall (.executor name)).setRunning name (some { running with rest := rest })
      else
        noted.setRunning name
          (some { running with invoking := some (target, action), rest := rest })
  | none, .uiPost :: rest =>
      { state.setRunning name (some { running with rest := rest }) with
        signals := state.signals + 1 }
  | none, [] =>
      { state.setRunning name none with
        executed := Function.update state.executed name
          (state.executed name ++ [running.job.call]) }

/-- `Dispatcher.Run`; `InvokeShutdown` drops what is still queued. -/
def executorStep (body : Action → List (ActionStatement Action)) (name : ExecutorName)
    (state : ScopeState Action) : Option (ScopeState Action) :=
  match state.running name with
  | some running => some (runStep name running state)
  | none =>
      if state.exited name then none
      else
        match state.queue name with
        | [] => none
        | .action job :: rest =>
            some { state.setRunning name (some ⟨job, none, body job.action⟩) with
              queue := Function.update state.queue name rest }
        | .shutdown :: _ =>
            some { state with
              queue := Function.update state.queue name []
              exited := Function.update state.exited name true }

def disposeStep (target : ExecutorName) (state : ScopeState Action) :
    DisposeStage → Option (ScopeState Action)
  | .test =>
      if state.disposed target then some { state with main := afterDispose target }
      else some { state with main := .disposing target .invoke }
  | .invoke =>
      some { state.beginInvoke target .shutdown with main := .disposing target .join }
  | .join =>
      if state.exited target then some { state with main := .disposing target .setDisposed }
      else none
  | .setDisposed =>
      some { state with
        disposed := Function.update state.disposed target true
        main := afterDispose target }

/-- The main thread: what it does inside `using`, then `Scope.Dispose`. -/
def mainStep (state : ScopeState Action) : Option (ScopeState Action) :=
  match state.main with
  | .working [] => some { state with main := .disposing .io .test }
  | .working (.post target action :: rest) =>
      if state.disposed target then
        some { state.completeCall .main with main := .working rest }
      else some { state with main := .invoking target action rest }
  | .working (.awaitDone :: rest) =>
      if state.done then some { state with main := .working rest } else none
  | .invoking target action rest =>
      some { state.invoke .main target action with main := .working rest }
  | .disposing target stage => disposeStep target state stage
  | .returned => none

/-- The thread pool runs a delegate that `UI_Post` has handed to it. -/
def uiStep (state : ScopeState Action) : Option (ScopeState Action) :=
  if 0 < state.signals then
    some { state with signals := state.signals - 1, done := true }
  else none

def ScopeState.start (program : List (MainStatement Action)) : ScopeState Action where
  disposed := fun _ => false
  queue := fun _ => []
  running := fun _ => none
  exited := fun _ => false
  main := .working program
  signals := 0
  done := false
  calls := fun _ => 0
  chained := []
  executed := fun _ => []

def scopeSystem (body : Action → List (ActionStatement Action))
    (program : List (MainStatement Action)) : System (ScopeState Action) ScopeLabel where
  initial state := state = .start program
  step
    | .main => mainStep
    | .ui => uiStep
    | .executor name => executorStep body name

inductive MainAction where
  | chain
  | ioCall
  deriving DecidableEq, Repr

def mainBody : MainAction → List (ActionStatement MainAction)
  | .chain => [.uiPost, .post .io .ioCall]
  | .ioCall => []

def programMain : List (MainStatement MainAction) := [.post .fs .chain, .awaitDone]

end Schedulers.CsExecutors
