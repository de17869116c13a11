import Schedulers.Threading.QtExecutorsChain
import Schedulers.Support.Projection

/-!
# The program of `test_threading.cc`

With every `io_service` and event queue that do what their users rely on, the program is
seen to go the way of the chain in numbers, and whatever that can do the program can do.
So the results about the chain are results about the program.
-/

namespace Schedulers.QtExecutors

open Schedulers.TransitionSystem Schedulers.Tally Schedulers.HandlerServices

set_option autoImplicit false

variable {tNumber : Nat} {Svc Events : Type} {service : HandlerService Svc}
  {queue : EventQueue Events} {counts : Svc → ServiceCounts} {pending : Events → Nat}

def ProgramState.counted (counts : Svc → ServiceCounts) (pending : Events → Nat)
    (state : ProgramState tNumber Svc Events) : ChainState tNumber where
  idToExec := state.idToExec
  main := state.main
  threadFunc := state.threadFunc
  pool := state.pool
  queue := (counts state.svc).queued
  outstandingWork := (counts state.svc).unfinished
  stopped := (counts state.svc).stopped
  events := pending state.events
  jobs := state.jobs
  dones := state.dones

theorem counted_post_task (serves : service.Serves counts) (delivers : queue.Delivers pending)
    (state : ProgramState tNumber Svc Events) (id : ThreadIds) :
    (state.postTask service queue id).counted counts pending =
      (state.counted counts pending).postTask id := by
  unfold ProgramState.postTask ChainState.postTask
  change _ = if state.idToExec id then _ else _
  split_ifs with known
  · cases id with
    | db =>
        simp [ProgramState.post, ProgramState.counted, ChainState.post, serves.post,
          ServiceCounts.handlerPosted]
    | ui =>
        simp [ProgramState.post, ProgramState.counted, ChainState.post, delivers.postEvent]
  · rfl

theorem counted_enter_run (serves : service.Serves counts) (thread : Fin tNumber)
    (state : ProgramState tNumber Svc Events) :
    (programEnterRun service thread state).map (ProgramState.counted counts pending) =
      stepEnterRun thread (state.counted counts pending) := by
  have stays := serves.runStays state.svc
  have called := serves.run state.svc
  have pool : (state.counted counts pending).pool = state.pool := rfl
  unfold programEnterRun stepEnterRun
  rw [pool]
  cases here : state.pool thread with
  | created =>
      by_cases idle : (counts state.svc).unfinished = 0 ∨ (counts state.svc).stopped = true
      · have none : (counts state.svc).idle = true := by simpa [ServiceCounts.idle] using idle
        simp [ProgramState.counted, ProgramState.goTo, ChainState.goTo, stays, called,
          ServiceCounts.runCalled, none, idle]
      · have some : (counts state.svc).idle = false := by
          simpa [ServiceCounts.idle, not_or] using idle
        have runs : (counts state.svc).stopped = false := by
          simpa using fun stopped => idle (.inr stopped)
        have work : (counts state.svc).unfinished ≠ 0 := fun zero => idle (.inl zero)
        simp [ProgramState.counted, ProgramState.goTo, ChainState.goTo, stays, called,
          ServiceCounts.runCalled, some, runs, work]
  | _ => rfl

theorem counted_start_job (serves : service.Serves counts) (thread : Fin tNumber)
    (state : ProgramState tNumber Svc Events) :
    (programStep service queue (.startJob thread) state).map
        (ProgramState.counted counts pending) =
      stepStartJob thread (state.counted counts pending) := by
  have started := serves.startHandler state.svc
  have pool : (state.counted counts pending).pool = state.pool := rfl
  have waits : (state.counted counts pending).queue = (counts state.svc).queued := rfl
  have ends : (state.counted counts pending).stopped = (counts state.svc).stopped := rfl
  simp only [programStep]
  unfold stepStartJob
  rw [pool, waits, ends]
  cases here : state.pool thread with
  | waiting =>
      cases given : service.startHandler state.svc with
      | none =>
          rw [given] at started
          cases stopped : (counts state.svc).stopped <;>
            cases queued : (counts state.svc).queued <;>
            simp_all [ServiceCounts.handlerStarted]
      | some svc =>
          rw [given] at started
          cases stopped : (counts state.svc).stopped <;>
            cases queued : (counts state.svc).queued <;>
            simp_all [ServiceCounts.handlerStarted, ProgramState.counted, ProgramState.goTo,
              ChainState.goTo]
  | _ => rfl

theorem counted_start_done (delivers : queue.Delivers pending)
    (state : ProgramState tNumber Svc Events) :
    (programStep service queue .startDone state).map (ProgramState.counted counts pending) =
      chainStep .startDone (state.counted counts pending) := by
  have main : (state.counted counts pending).main = state.main := rfl
  have waits : (state.counted counts pending).events = pending state.events := rfl
  simp only [programStep, chainStep, main, waits]
  cases here : state.main with
  | waiting =>
      cases given : queue.nextEvent state.events with
      | none =>
          have none : pending state.events = 0 := by
            by_contra filled
            exact delivers.delivers state.events filled given
          simp [none]
      | some events =>
          simp [delivers.takes state.events events given, ProgramState.counted]
  | _ => rfl

theorem counted_steps (serves : service.Serves counts) (delivers : queue.Delivers pending)
    (label : ChainLabel tNumber) (state : ProgramState tNumber Svc Events)
    (holds : ChainInvariant (state.counted counts pending)) :
    (programStep service queue label state).map (ProgramState.counted counts pending) =
      chainStep label (state.counted counts pending) := by
  have account := holds.counts.account
  have main : (state.counted counts pending).main = state.main := rfl
  have threadFunc : (state.counted counts pending).threadFunc = state.threadFunc := rfl
  have pool : (state.counted counts pending).pool = state.pool := rfl
  have posted := counted_post_task serves delivers state
  cases label with
  | enterRun thread => exact counted_enter_run serves thread state
  | startJob thread => exact counted_start_job serves thread state
  | startDone => exact counted_start_done delivers state
  | start | addUi =>
      cases here : state.main <;> simp only [programStep, chainStep, main, here] <;> rfl
  | addDb =>
      cases here : state.threadFunc <;>
        simp only [programStep, chainStep, threadFunc, here] <;> rfl
  | postFirst =>
      cases here : state.main <;> simp only [programStep, chainStep, main, here, ← posted] <;> rfl
  | postNext =>
      cases here : state.main <;> simp only [programStep, chainStep, main, here, ← posted] <;> rfl
  | postDone thread =>
      cases here : state.pool thread <;>
        simp only [programStep, chainStep, pool, here, ← posted] <;> rfl
  | makeWork =>
      cases here : state.threadFunc <;> simp only [programStep, chainStep, threadFunc, here]
      case makingWork =>
        simp [ProgramState.counted, serves.makeWork, ServiceCounts.workBegun]
      all_goals rfl
  | createThread =>
      cases here : state.threadFunc <;>
        simp only [programStep, programCreateThread, chainStep, stepCreateThread, threadFunc, here]
      case creating threads => split_ifs <;> rfl
      all_goals rfl
  | returnThreadFunc =>
      cases here : state.threadFunc <;>
        simp only [programStep, programReturnThreadFunc, chainStep, stepReturnThreadFunc,
          threadFunc, here]
      case creating threads =>
        rw [threadFunc, here, show (ThreadFuncPoint.creating threads).work = 1 from rfl] at account
        have work : (counts state.svc).unfinished ≠ 0 := by
          change (counts state.svc).unfinished = _ at account
          omega
        split_ifs
        · rfl
        · simp [ProgramState.counted, ChainState.workFinished, serves.destroyWork state.svc work,
            ServiceCounts.workEnded]
      all_goals rfl
  | finishJob thread =>
      cases here : state.pool thread <;> simp only [programStep, chainStep, pool, here]
      case returning =>
        have handler := weight_le_tally PoolPoint.handler state.pool thread
        rw [here, show PoolPoint.returning.handler = 1 from rfl] at handler
        have work : (counts state.svc).unfinished ≠ 0 := by
          change (counts state.svc).unfinished = _ + tally PoolPoint.handler state.pool + _
            at account
          omega
        simp [ProgramState.counted, ProgramState.goTo, ChainState.goTo, ChainState.workFinished,
          serves.handlerReturned state.svc work, ServiceCounts.workEnded]
      all_goals rfl
  | leaveRun thread =>
      have returns := serves.runReturns state.svc
      have stopped : (state.counted counts pending).stopped = (counts state.svc).stopped := rfl
      cases here : state.pool thread <;>
        simp only [programStep, chainStep, pool, here, returns, stopped]
      case waiting => cases (counts state.svc).stopped <;> rfl
      all_goals rfl

theorem counted_initial (serves : service.Serves counts) (delivers : queue.Delivers pending) :
    (ProgramState.initial service queue : ProgramState tNumber Svc Events).counted counts pending =
      .initial := by
  simp [ProgramState.counted, ProgramState.initial, ChainState.initial, serves.new,
    delivers.new, ServiceCounts.start]

theorem program_projects (serves : service.Serves counts) (delivers : queue.Delivers pending) :
    Projects (programSystem service queue tNumber) (chainSystem tNumber)
      (ProgramState.counted counts pending) ChainInvariant where
  initial := by
    rintro _ rfl
    exact counted_initial serves delivers
  begins := by
    rintro _ rfl
    exact chain_initial_invariant
  kept label state next holds taken := holds.step (chain_step_move taken)
  steps := counted_steps serves delivers

theorem patient_counted (label : ChainLabel tNumber) (state : ProgramState tNumber Svc Events) :
    patient label (state.counted counts pending) ↔ patientProgram pending label state := by
  cases label <;> exact Iff.rfl

instance (label : ChainLabel tNumber) (state : ProgramState tNumber Svc Events) :
    Decidable (patientProgram pending label state) :=
  match label with
  | .postFirst => inferInstanceAs (Decidable (state.idToExec .db = true))
  | .returnThreadFunc => inferInstanceAs (Decidable (state.main.posted = true))
  | .finishJob _ =>
      inferInstanceAs (Decidable (pending state.events = 0 ∧ state.main ≠ .done))
  | .start | .addUi | .addDb | .makeWork | .createThread | .enterRun _ | .startJob _
  | .postDone _ | .leaveRun _ | .startDone | .postNext => isTrue trivial

theorem program_invariant (serves : service.Serves counts) (delivers : queue.Delivers pending)
    {state : ProgramState tNumber Svc Events}
    (reached : Reachable (programSystem service queue tNumber) anyStep state) :
    ChainInvariant (state.counted counts pending) :=
  chain_invariant ((program_projects serves delivers).reachable (fun _ _ => id) reached)

/-- Whatever the order of the steps: one `job` at a time has not posted its `done` yet,
nothing else of the chain is queued or posted then, and `job` and `done` are called in
turn. -/
theorem chain_calls_in_turn (serves : service.Serves counts) (delivers : queue.Delivers pending)
    (tNumber : Nat) (state : ProgramState tNumber Svc Events)
    (reached : Reachable (programSystem service queue tNumber) anyStep state) :
    (∀ thread other, state.pool thread = .job → state.pool other = .job → other = thread) ∧
      ((∃ thread, state.pool thread = .job) →
        (counts state.svc).queued = 0 ∧ pending state.events = 0) ∧
      state.dones ≤ state.jobs ∧ state.jobs ≤ state.dones + 1 :=
  counted_calls_in_turn ((program_projects serves delivers).reachable (fun _ _ => id) reached)

abbrev CountedProgram (tNumber : Nat) := ProgramState tNumber ServiceCounts Nat

abbrev countedProgram (tNumber : Nat) : System (CountedProgram tNumber) (ChainLabel tNumber) :=
  programSystem countedService countedEvents tNumber

/-- The second `job` starts while the first has not returned. -/
def overlappingHandlers : List (ChainLabel 4) :=
  [.start, .addDb, .makeWork, .createThread, .createThread, .addUi, .postFirst, .enterRun 0,
    .enterRun 1, .startJob 0, .postDone 0, .startDone, .postNext, .startJob 1]

theorem second_job_runs_alone :
    ∃ state : CountedProgram 4, Reachable (countedProgram 4) anyStep state ∧
      (state.pool 0 = .returning ∧ state.pool 1 = .job) ∧
      (∀ other, state.pool other = .job → other = 1) ∧ state.svc.queued = 0 := by
  obtain ⟨state, reached, here⟩ : ∃ state : CountedProgram 4,
      Reachable (countedProgram 4) anyStep state ∧
        (state.pool 0 = .returning ∧ state.pool 1 = .job) :=
    schedule_reaches overlappingHandlers rfl (by decide)
  obtain ⟨alone, nothing, _⟩ := chain_calls_in_turn counted_service_serves
    counted_events_delivers 4 state reached
  exact ⟨state, reached, here, fun other => alone 1 other here.2, (nothing ⟨1, here.2⟩).1⟩

def FirstLost (counts : Svc → ServiceCounts) (state : ProgramState tNumber Svc Events) : Prop :=
  state.main = .waiting ∧ (counts state.svc).queued = 0 ∧ state.jobs = 0

end Schedulers.QtExecutors
