import Schedulers.CsExecutors.ScopeModel
import Mathlib.Tactic.Common

/-!
# What the steps of a scope change

Each step is one of the moves of `ScopeMove`, with the state after it. Once
`InvokeShutdown` is queued, the calls an executor has run, runs or will run are settled.
-/

namespace Schedulers.CsExecutors

open Schedulers.TransitionSystem

set_option autoImplicit false

variable {Action : Type}

def jobsAhead : List (QueueItem Action) → List (Job Action)
  | [] => []
  | .action job :: rest => job :: jobsAhead rest
  | .shutdown :: _ => []

@[simp] theorem jobs_ahead_nil : jobsAhead ([] : List (QueueItem Action)) = [] := rfl

@[simp] theorem jobs_ahead_action (job : Job Action) (rest : List (QueueItem Action)) :
    jobsAhead (.action job :: rest) = job :: jobsAhead rest := rfl

@[simp] theorem jobs_ahead_shutdown (rest : List (QueueItem Action)) :
    jobsAhead (.shutdown :: rest) = [] := rfl

theorem jobs_ahead_append_closed {queue : List (QueueItem Action)}
    (closed : .shutdown ∈ queue) (more : List (QueueItem Action)) :
    jobsAhead (queue ++ more) = jobsAhead queue := by
  induction queue with
  | nil => cases closed
  | cons item rest ih =>
      cases item with
      | shutdown => rfl
      | action job =>
          have later : .shutdown ∈ rest := by simpa using closed
          simp [ih later]

theorem jobs_ahead_append_open {queue : List (QueueItem Action)}
    (stillOpen : .shutdown ∉ queue) (more : List (QueueItem Action)) :
    jobsAhead (queue ++ more) = jobsAhead queue ++ jobsAhead more := by
  induction queue with
  | nil => rfl
  | cons item rest ih =>
      cases item with
      | shutdown => simp at stillOpen
      | action job =>
          have later : .shutdown ∉ rest := by simpa using stillOpen
          simp [ih later]

theorem jobs_ahead_append_shutdown (queue : List (QueueItem Action)) :
    jobsAhead (queue ++ [.shutdown]) = jobsAhead queue := by
  by_cases closed : .shutdown ∈ queue
  · exact jobs_ahead_append_closed closed _
  · rw [jobs_ahead_append_open closed, jobs_ahead_shutdown, List.append_nil]

namespace ScopeState

def enqueued (state : ScopeState Action) (target : ExecutorName) (item : QueueItem Action) :
    ExecutorName → List (QueueItem Action) :=
  if state.exited target then state.queue
  else Function.update state.queue target (state.queue target ++ [item])

theorem begin_invoke_eq (state : ScopeState Action) (target : ExecutorName)
    (item : QueueItem Action) :
    state.beginInvoke target item = { state with queue := state.enqueued target item } := by
  unfold beginInvoke enqueued
  split_ifs <;> rfl

def newJob (state : ScopeState Action) (poster : Poster) (action : Action) : Job Action :=
  ⟨state.currentCall poster, action, !state.main.disposeCalled⟩

def nextCalls (state : ScopeState Action) (poster : Poster) : Poster → Nat :=
  Function.update state.calls poster (state.calls poster + 1)

theorem invoke_eq (state : ScopeState Action) (poster : Poster) (target : ExecutorName)
    (action : Action) :
    state.invoke poster target action =
      { state with
        queue := state.enqueued target (.action (state.newJob poster action))
        calls := state.nextCalls poster } := by
  unfold invoke
  rw [begin_invoke_eq]
  rfl

def noted (state : ScopeState Action) (name : ExecutorName) (job : Job Action)
    (target : ExecutorName) : List Call :=
  if name = .fs ∧ job.promised = true ∧ target = .io then
    state.chained ++ [state.currentCall (.executor .fs)]
  else state.chained

theorem note_chain_eq (state : ScopeState Action) (name : ExecutorName) (job : Job Action)
    (target : ExecutorName) :
    state.noteChain name job target = { state with chained := state.noted name job target } := by
  unfold noteChain noted
  split_ifs <;> rfl

theorem noted_chained (state : ScopeState Action) {job : Job Action}
    (promised : job.promised = true) :
    state.noted .fs job .io = state.chained ++ [state.currentCall (.executor .fs)] := by
  simp [noted, promised]

theorem noted_other (state : ScopeState Action) {job : Job Action} {target : ExecutorName}
    (other : ¬(job.promised = true ∧ target = .io)) :
    state.noted .fs job target = state.chained := by
  simp [noted, other]

/-- Nothing that is begun from now on will run. -/
def Closed (state : ScopeState Action) (target : ExecutorName) : Prop :=
  .shutdown ∈ state.queue target ∨ state.exited target = true

/-- The calls whose actions the executor has run, is running or will run. -/
def committed (state : ScopeState Action) (target : ExecutorName) : List Call :=
  state.executed target ++ (state.running target).toList.map (·.job.call) ++
    (jobsAhead (state.queue target)).map (·.call)

end ScopeState

inductive MainMoves (state : ScopeState Action) : MainPoint Action → Prop where
  | posts (target : ExecutorName) (action : Action) (rest : List (MainStatement Action))
      (stands : state.main = .working (.post target action :: rest))
      (accepts : state.disposed target = false) : MainMoves state (.invoking target action rest)
  | awaits (rest : List (MainStatement Action))
      (stands : state.main = .working (.awaitDone :: rest)) (done : state.done = true) :
      MainMoves state (.working rest)
  | callsDispose (stands : state.main = .working []) : MainMoves state (.disposing .io .test)
  | skipsDispose (target : ExecutorName) (stands : state.main = .disposing target .test)
      (ended : state.disposed target = true) : MainMoves state (afterDispose target)
  | testsDispose (target : ExecutorName) (stands : state.main = .disposing target .test)
      (accepts : state.disposed target = false) : MainMoves state (.disposing target .invoke)
  | joins (target : ExecutorName) (stands : state.main = .disposing target .join)
      (ended : state.exited target = true) : MainMoves state (.disposing target .setDisposed)

inductive ScopeMove (body : Action → List (ActionStatement Action)) (state : ScopeState Action) :
    ScopeLabel → ScopeState Action → Prop where
  | mainMoves (point : MainPoint Action) (moves : MainMoves state point) :
      ScopeMove body state .main { state with main := point }
  | mainSkips (target : ExecutorName) (action : Action) (rest : List (MainStatement Action))
      (stands : state.main = .working (.post target action :: rest))
      (ended : state.disposed target = true) :
      ScopeMove body state .main { state with
        calls := state.nextCalls .main
        main := .working rest }
  | mainInvokes (target : ExecutorName) (action : Action) (rest : List (MainStatement Action))
      (stands : state.main = .invoking target action rest) :
      ScopeMove body state .main { state with
        queue := state.enqueued target (.action (state.newJob .main action))
        calls := state.nextCalls .main
        main := .working rest }
  | sendsShutdown (target : ExecutorName) (stands : state.main = .disposing target .invoke) :
      ScopeMove body state .main { state with
        queue := state.enqueued target .shutdown
        main := .disposing target .join }
  | setsDisposed (target : ExecutorName) (stands : state.main = .disposing target .setDisposed) :
      ScopeMove body state .main { state with
        disposed := Function.update state.disposed target true
        main := afterDispose target }
  | signalled (waiting : 0 < state.signals) :
      ScopeMove body state .ui { state with signals := state.signals - 1, done := true }
  | invokes (name target : ExecutorName) (running : RunningJob Action) (action : Action)
      (runs : state.running name = some running)
      (begun : running.invoking = some (target, action)) :
      ScopeMove body state (.executor name) { state with
        queue := state.enqueued target (.action (state.newJob (.executor name) action))
        calls := state.nextCalls (.executor name)
        running := Function.update state.running name (some { running with invoking := none }) }
  | skips (name target : ExecutorName) (running : RunningJob Action) (action : Action)
      (rest : List (ActionStatement Action)) (runs : state.running name = some running)
      (between : running.invoking = none) (statement : running.rest = .post target action :: rest)
      (ended : state.disposed target = true) :
      ScopeMove body state (.executor name) { state with
        chained := state.noted name running.job target
        calls := state.nextCalls (.executor name)
        running := Function.update state.running name (some { running with rest := rest }) }
  | posts (name target : ExecutorName) (running : RunningJob Action) (action : Action)
      (rest : List (ActionStatement Action)) (runs : state.running name = some running)
      (between : running.invoking = none) (statement : running.rest = .post target action :: rest)
      (accepts : state.disposed target = false) :
      ScopeMove body state (.executor name) { state with
        chained := state.noted name running.job target
        running := Function.update state.running name
          (some { running with invoking := some (target, action), rest := rest }) }
  | uiPosts (name : ExecutorName) (running : RunningJob Action)
      (rest : List (ActionStatement Action)) (runs : state.running name = some running)
      (between : running.invoking = none) (statement : running.rest = .uiPost :: rest) :
      ScopeMove body state (.executor name) { state with
        running := Function.update state.running name (some { running with rest := rest })
        signals := state.signals + 1 }
  | finishes (name : ExecutorName) (running : RunningJob Action)
      (runs : state.running name = some running) (between : running.invoking = none)
      (statement : running.rest = []) :
      ScopeMove body state (.executor name) { state with
        running := Function.update state.running name none
        executed := Function.update state.executed name
          (state.executed name ++ [running.job.call]) }
  | takes (name : ExecutorName) (job : Job Action) (rest : List (QueueItem Action))
      (idle : state.running name = none) (live : state.exited name = false)
      (queued : state.queue name = .action job :: rest) :
      ScopeMove body state (.executor name) { state with
        running := Function.update state.running name (some ⟨job, none, body job.action⟩)
        queue := Function.update state.queue name rest }
  | exits (name : ExecutorName) (rest : List (QueueItem Action))
      (idle : state.running name = none) (live : state.exited name = false)
      (queued : state.queue name = .shutdown :: rest) :
      ScopeMove body state (.executor name) { state with
        queue := Function.update state.queue name []
        exited := Function.update state.exited name true }

theorem main_step_moves {body : Action → List (ActionStatement Action)}
    {state next : ScopeState Action} (taken : mainStep state = some next) :
    ScopeMove body state .main next := by
  unfold mainStep at taken
  split at taken
  next stands =>
      cases taken
      exact .mainMoves _ (.callsDispose stands)
  next target action rest stands =>
      split_ifs at taken with ended <;> cases taken
      · exact .mainSkips target action rest stands ended
      · exact .mainMoves _ (.posts target action rest stands (by simpa using ended))
  next rest stands =>
      split_ifs at taken with done
      cases taken
      exact .mainMoves _ (.awaits rest stands done)
  next target action rest stands =>
      rw [ScopeState.invoke_eq] at taken
      cases taken
      exact .mainInvokes target action rest stands
  next target stage stands =>
      cases stage <;> unfold disposeStep at taken
      case test =>
          dsimp only at taken
          split_ifs at taken with ended <;> cases taken
          · exact .mainMoves _ (.skipsDispose target stands ended)
          · exact .mainMoves _ (.testsDispose target stands (by simpa using ended))
      case invoke =>
          rw [ScopeState.begin_invoke_eq] at taken
          cases taken
          exact .sendsShutdown target stands
      case join =>
          dsimp only at taken
          split_ifs at taken with ended
          cases taken
          exact .mainMoves _ (.joins target stands ended)
      case setDisposed =>
          cases taken
          exact .setsDisposed target stands
  next => cases taken

theorem run_step_moves {body : Action → List (ActionStatement Action)}
    {state : ScopeState Action} {name : ExecutorName} {running : RunningJob Action}
    (runs : state.running name = some running) :
    ScopeMove body state (.executor name) (runStep name running state) := by
  unfold runStep
  split
  next target action begun =>
      rw [ScopeState.invoke_eq]
      exact .invokes name target running action runs begun
  next target action rest between statement =>
      rw [ScopeState.note_chain_eq]
      dsimp only
      split_ifs with ended
      · exact .skips name target running action rest runs between statement ended
      · exact .posts name target running action rest runs between statement (by simpa using ended)
  next rest between statement => exact .uiPosts name running rest runs between statement
  next between statement => exact .finishes name running runs between statement

theorem scope_move {body : Action → List (ActionStatement Action)}
    {program : List (MainStatement Action)} {label : ScopeLabel} {state next : ScopeState Action}
    (taken : (scopeSystem body program).step label state = some next) :
    ScopeMove body state label next := by
  cases label with
  | main => exact main_step_moves taken
  | ui =>
      change uiStep state = some next at taken
      unfold uiStep at taken
      split_ifs at taken with waiting
      cases taken
      exact .signalled waiting
  | executor name =>
      change executorStep body name state = some next at taken
      unfold executorStep at taken
      split at taken
      next running runs =>
          cases taken
          exact run_step_moves runs
      next idle =>
          split_ifs at taken with live
          split at taken
          next => cases taken
          next job rest queued =>
              cases taken
              exact .takes name job rest idle (by simpa using live) queued
          next rest queued =>
              cases taken
              exact .exits name rest idle (by simpa using live) queued

def DisposeStage.sent : DisposeStage → Bool
  | .test => false
  | .invoke => false
  | .join => true
  | .setDisposed => true

def DisposeStage.joined : DisposeStage → Bool
  | .test => false
  | .invoke => false
  | .join => false
  | .setDisposed => true

/-- The main thread has passed a point of `Dispose` of the executor. -/
def MainPoint.past (passed : DisposeStage → Bool) (target : ExecutorName) :
    MainPoint Action → Bool
  | .working _ => false
  | .invoking _ _ _ => false
  | .disposing current stage =>
      match target, current with
      | .io, .io => passed stage
      | .io, .fs => true
      | .fs, .io => false
      | .fs, .fs => passed stage
  | .returned => true

def MainPoint.sent (target : ExecutorName) (point : MainPoint Action) : Bool :=
  point.past DisposeStage.sent target

def MainPoint.joined (target : ExecutorName) (point : MainPoint Action) : Bool :=
  point.past DisposeStage.joined target

@[simp] theorem sent_working (target : ExecutorName) (rest : List (MainStatement Action)) :
    (MainPoint.working rest).sent target = false := rfl

@[simp] theorem past_same (passed : DisposeStage → Bool) (target : ExecutorName)
    (stage : DisposeStage) :
    (MainPoint.disposing target stage : MainPoint Action).past passed target = passed stage := by
  cases target <;> rfl

theorem past_other (passed : DisposeStage → Bool) {target other : ExecutorName}
    (differ : target ≠ other) (one two : DisposeStage) :
    (MainPoint.disposing other one : MainPoint Action).past passed target =
      (MainPoint.disposing other two : MainPoint Action).past passed target := by
  cases target <;> cases other <;> first | rfl | exact absurd rfl differ

theorem past_after_dispose {passed : DisposeStage → Bool} (fresh : passed .test = false)
    (ended : passed .setDisposed = true) (target other : ExecutorName) :
    (afterDispose other : MainPoint Action).past passed target =
      (MainPoint.disposing other .setDisposed : MainPoint Action).past passed target := by
  cases target <;> cases other <;> simp [afterDispose, MainPoint.past, fresh, ended]

end Schedulers.CsExecutors
