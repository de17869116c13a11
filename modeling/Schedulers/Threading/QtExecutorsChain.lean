import Schedulers.Threading.QtExecutorsSteps
import Schedulers.Support.Progress

/-!
# The chain of `job` and `done`

There is one call of the chain at a time, so the threads of the pool never run two `job`s
together. The pool serves the chain as long as it is not stopped; nothing but the handlers
themselves holds it open once `thread_func` has returned, and a `job` that returns before
`done` has posted the next one stops it for good.
-/

namespace Schedulers.QtExecutors

open Schedulers.TransitionSystem Schedulers.Tally

set_option autoImplicit false

variable {tNumber : Nat} {state next : ChainState tNumber}

/-- `patientProgram`, in numbers. -/
def patient : Permission (ChainState tNumber) (ChainLabel tNumber)
  | .postFirst, state => state.idToExec .db = true
  | .returnThreadFunc, state => state.main.posted = true
  | .finishJob _, state => state.events = 0 ∧ state.main ≠ .done
  | _, _ => True

structure Serving (state : ChainState tNumber) : Prop where
  invariant : ChainInvariant state
  runs : state.stopped = false

/-- Patient steps lead to a state at which the pool still serves and `place` holds, and
start `more` calls of `job` on the way. -/
def LeadsTo (more : Nat) (place : ChainState tNumber → Prop)
    (state : ChainState tNumber) : Prop :=
  ∃ finish, Run (chainSystem tNumber) patient state finish ∧ Serving finish ∧
    finish.jobs = state.jobs + more ∧ place finish

theorem LeadsTo.trans {first second : Nat} {here there : ChainState tNumber → Prop}
    (leads : LeadsTo first here state)
    (goesOn : ∀ {middle : ChainState tNumber}, Serving middle → here middle →
      LeadsTo second there middle) :
    LeadsTo (first + second) there state := by
  obtain ⟨middle, run, serving, jobs, placed⟩ := leads
  obtain ⟨finish, rest, serves, more, arrived⟩ := goesOn serving placed
  exact ⟨finish, run.trans rest, serves, by omega, arrived⟩

theorem Serving.step {place : ChainState tNumber → Prop} {more : Nat} (serving : Serving state)
    (label : ChainLabel tNumber) (allowed : patient label state)
    (taken : chainStep label state = some next) (runs : next.stopped = false)
    (jobs : next.jobs = state.jobs + more) (placed : place next) : LeadsTo more place state :=
  ⟨next, Run.single label allowed taken,
    ⟨serving.invariant.step (chain_step_move taken), runs⟩, jobs, placed⟩

theorem Serving.alone (serving : Serving state) :
    state.main.unposted + state.queue + tally PoolPoint.inJob state.pool + state.events ≤ 1 :=
  serving.invariant.oneToken

theorem posting_posts (serving : Serving state) (here : state.main = .posting)
    (known : state.idToExec .db = true) : LeadsTo 0 (fun finish => finish.queue = 1) state := by
  have alone := serving.alone
  rw [here, show MainPoint.posting.unposted = 1 from rfl] at alone
  have taken : chainStep .postFirst state = some { state.post .db with main := .waiting } := by
    simp only [chainStep, here, post_task_known state known]
  refine serving.step .postFirst known taken serving.runs rfl ?_
  change state.queue + 1 = 1
  omega

theorem posting_registers (serving : Serving state) (here : state.main = .posting)
    (unknown : state.threadFunc.knownDb = false) :
    LeadsTo 0 (fun middle => middle.main = .posting ∧ middle.idToExec .db = true) state := by
  have begun := serving.invariant.registered.begun
  have adding : state.threadFunc = .adding := by
    cases point : state.threadFunc <;> simp_all [ThreadFuncPoint.knownDb]
  have taken : chainStep .addDb state =
      some { state.add .db with threadFunc := .makingWork } := by
    simp only [chainStep, adding]
  exact serving.step .addDb trivial taken serving.runs rfl ⟨here, add_registers state .db⟩

theorem main_comes_to_post (serving : Serving state) (unposted : state.main.posted = false) :
    LeadsTo 0 (fun middle => middle.main = .posting) state := by
  have added : ∀ {middle : ChainState tNumber}, Serving middle → middle.main = .adding →
      LeadsTo 0 (fun finish => finish.main = .posting) middle := by
    intro middle serves here
    have taken : chainStep .addUi middle = some { middle.add .ui with main := .posting } := by
      simp only [chainStep, here]
    exact serves.step .addUi trivial taken serves.runs rfl rfl
  cases here : state.main with
  | starting =>
      have taken : chainStep .start state =
          some { state with main := .adding, threadFunc := .adding } := by
        simp only [chainStep, here]
      have started : LeadsTo 0 (fun middle => middle.main = .adding) state :=
        serving.step .start trivial taken serving.runs rfl rfl
      exact started.trans added
  | adding => exact added serving here
  | posting => exact ⟨state, .refl state, serving, rfl, here⟩
  | waiting => rw [here] at unposted; cases unposted
  | done => rw [here] at unposted; cases unposted

theorem first_call_posted (serving : Serving state) (unposted : state.main.posted = false) :
    LeadsTo 0 (fun finish => finish.queue = 1) state := by
  have posts : ∀ {middle : ChainState tNumber}, Serving middle → middle.main = .posting →
      LeadsTo 0 (fun finish => finish.queue = 1) middle := by
    intro middle serves here
    have db := serves.invariant.registered.db
    cases known : middle.threadFunc.knownDb with
    | true => exact posting_posts serves here (db.trans known)
    | false =>
        exact (posting_registers serves here known).trans fun served ⟨posting, registered⟩ =>
          posting_posts served posting registered
  exact (main_comes_to_post serving unposted).trans posts

theorem waiting_takes {thread : Fin tNumber} (serving : Serving state) (queued : state.queue = 1)
    (here : state.pool thread = .waiting) :
    LeadsTo 1 (fun finish => ∃ thread, finish.pool thread = .job) state := by
  have taken : chainStep (.startJob thread) state =
      some { state.goTo thread .job with queue := 0, jobs := state.jobs + 1 } := by
    simp [chainStep, stepStartJob, here, queued, serving.runs]
  exact serving.step (.startJob thread) trivial taken serving.runs rfl
    ⟨thread, Function.update_self ..⟩

/-- The place of a call that is queued while a given thread of the pool waits. -/
def QueuedAt (thread : Fin tNumber) (point : PoolPoint) (state : ChainState tNumber) : Prop :=
  state.queue = 1 ∧ state.pool thread = point

theorem created_enters {thread : Fin tNumber} (serving : Serving state)
    (here : QueuedAt thread .created state) : LeadsTo 0 (QueuedAt thread .waiting) state := by
  have some : state.outstandingWork ≠ 0 := by
    have queued := here.1
    rw [serving.invariant.counts.account]
    omega
  have taken : chainStep (.enterRun thread) state = Option.some (state.goTo thread .waiting) := by
    simp [chainStep, stepEnterRun, here.2, some, serving.runs]
  exact serving.step (.enterRun thread) trivial taken serving.runs rfl
    ⟨here.1, Function.update_self ..⟩

theorem returning_waits {thread : Fin tNumber} (serving : Serving state)
    (here : QueuedAt thread .returning state) : LeadsTo 0 (QueuedAt thread .waiting) state := by
  have counts := serving.invariant.counts
  have alone := serving.alone
  have handlers := weight_le_tally PoolPoint.handler state.pool thread
  rw [here.2, show PoolPoint.returning.handler = 1 from rfl] at handlers
  have queued := here.1
  have main := main_waits serving.invariant.oneToken (by omega)
  have more : state.outstandingWork - 1 ≠ 0 := by
    rw [counts.account]
    omega
  have taken : chainStep (.finishJob thread) state =
      some (state.workFinished.goTo thread .waiting) := by
    simp only [chainStep, here.2]
  refine serving.step (.finishJob thread) ⟨by omega, by simp [main]⟩ taken ?_ rfl
    ⟨here.1, Function.update_self ..⟩
  simpa [ChainState.goTo, ChainState.workFinished, more] using serving.runs

theorem thread_is_created {thread : Fin tNumber} (serving : Serving state)
    (here : QueuedAt thread .notCreated state) (first : (thread : Nat) = 0) :
    LeadsTo 0 (QueuedAt thread .created) state := by
  have creates : ∀ {middle : ChainState tNumber}, Serving middle →
      middle.queue = 1 ∧ middle.threadFunc = .creating 0 →
      LeadsTo 0 (QueuedAt thread .created) middle := by
    intro middle serves ⟨queued, loop⟩
    have taken : chainStep .createThread middle =
        some { middle.goTo thread .created with threadFunc := .creating 1 } := by
      have positive : 0 < tNumber := by omega
      have same : (⟨0, positive⟩ : Fin tNumber) = thread := Fin.ext first.symm
      simp [chainStep, stepCreateThread, loop, positive, same]
    exact serves.step .createThread trivial taken serves.runs rfl
      ⟨queued, Function.update_self ..⟩
  have none := (serving.invariant.threads.created thread).mp here.2
  have alone := serving.alone
  have queued := here.1
  have main := main_waits serving.invariant.oneToken (by omega)
  have known : state.threadFunc.knownDb = true := by
    by_contra unknown
    have nothing := serving.invariant.counts.unknown (by simpa using unknown)
    omega
  cases point : state.threadFunc with
  | notStarted => rw [point] at known; cases known
  | adding => rw [point] at known; cases known
  | makingWork =>
      have taken : chainStep .makeWork state =
          some { state with
            threadFunc := .creating 0
            outstandingWork := state.outstandingWork + 1 } := by
        simp only [chainStep, point]
      have made : LeadsTo 0 (fun middle => middle.queue = 1 ∧ middle.threadFunc = .creating 0)
          state :=
        serving.step .makeWork trivial taken serving.runs rfl ⟨queued, rfl⟩
      exact made.trans creates
  | creating threads =>
      rw [point, first] at none
      have zero : threads = 0 := Nat.le_zero.mp none
      exact creates serving ⟨queued, by rw [point, zero]⟩
  | returned =>
      rw [point, first] at none
      have within := thread.isLt
      have zero : tNumber = 0 := Nat.le_zero.mp none
      omega

theorem queued_call_starts (serving : Serving state) (threads : 0 < tNumber)
    (queued : state.queue = 1) :
    LeadsTo 1 (fun finish => ∃ thread, finish.pool thread = .job) state := by
  have waiting : ∀ {middle : ChainState tNumber}, Serving middle →
      QueuedAt ⟨0, threads⟩ .waiting middle →
      LeadsTo 1 (fun finish => ∃ thread, finish.pool thread = .job) middle :=
    fun serves ⟨remains, here⟩ => waiting_takes serves remains here
  cases here : state.pool ⟨0, threads⟩ with
  | notCreated =>
      have created := (thread_is_created serving ⟨queued, here⟩ rfl).trans created_enters
      exact created.trans waiting
  | created => exact (created_enters serving ⟨queued, here⟩).trans waiting
  | waiting => exact waiting_takes serving queued here
  | job =>
      have alone := serving.alone
      have inJob := in_job_pos here
      omega
  | returning => exact (returning_waits serving ⟨queued, here⟩).trans waiting
  | exited =>
      have stopped := serving.invariant.threads.exited _ here
      rw [serving.runs] at stopped
      cases stopped

theorem job_posts_done {thread : Fin tNumber} (serving : Serving state)
    (here : state.pool thread = .job) : LeadsTo 0 (fun finish => finish.events = 1) state := by
  have inJob := in_job_pos here
  have alone := serving.alone
  have known := ui_is_known serving.invariant.registered serving.invariant.oneToken here
  have taken : chainStep (.postDone thread) state =
      some ((state.post .ui).goTo thread .returning) := by
    simp only [chainStep, here, post_task_known state known]
  refine serving.step (.postDone thread) trivial taken serving.runs rfl ?_
  change state.events + 1 = 1
  omega

theorem event_starts_done (serving : Serving state) (here : state.events = 1) :
    LeadsTo 0 (fun finish => finish.main = .done) state := by
  have main := main_waits serving.invariant.oneToken (by omega)
  have taken : chainStep .startDone state =
      some { state with main := .done, events := 0 } := by
    simp only [chainStep, main, here]
  exact serving.step .startDone trivial taken serving.runs rfl rfl

theorem done_posts_next (serving : Serving state) (here : state.main = .done) :
    LeadsTo 0 (fun finish => finish.queue = 1) state := by
  have alone := serving.alone
  rw [here, show MainPoint.done.unposted = 1 from rfl] at alone
  have known : state.threadFunc.knownDb = true := by
    by_contra unknown
    have nothing := serving.invariant.counts.unknown (by simpa using unknown)
    rw [here, show MainPoint.done.inDone = 1 from rfl] at nothing
    omega
  have registered := serving.invariant.registered.db.trans known
  have taken : chainStep .postNext state =
      some { state.post .db with main := .waiting, dones := state.dones + 1 } := by
    simp only [chainStep, here, post_task_known state registered]
  refine serving.step .postNext trivial taken serving.runs rfl ?_
  change state.queue + 1 = 1
  omega

theorem next_job_starts (threads : 0 < tNumber) (serving : Serving state)
    (token : state.tokens = 1) :
    LeadsTo 1 (fun finish => ∃ thread, finish.pool thread = .job) state := by
  have queued : ∀ {middle : ChainState tNumber}, Serving middle → middle.queue = 1 →
      LeadsTo 1 (fun finish => ∃ thread, finish.pool thread = .job) middle :=
    fun serves here => queued_call_starts serves threads here
  have posted : ∀ {middle : ChainState tNumber}, Serving middle → middle.events = 1 →
      LeadsTo 1 (fun finish => ∃ thread, finish.pool thread = .job) middle :=
    fun serves here => ((event_starts_done serves here).trans done_posts_next).trans queued
  unfold ChainState.tokens at token
  by_cases inJob : 0 < tally PoolPoint.inJob state.pool
  · obtain ⟨thread, here⟩ := tally_pos inJob
    have runs : state.pool thread = .job := by
      cases point : state.pool thread <;> simp_all [PoolPoint.inJob]
    exact (job_posts_done serving runs).trans posted
  · by_cases event : 0 < state.events
    · exact posted serving (by omega)
    · by_cases waits : 0 < state.queue
      · exact queued serving (by omega)
      · cases main : state.main with
        | waiting =>
            rw [main, show MainPoint.waiting.unposted = 0 from rfl] at token
            omega
        | done => exact (done_posts_next serving main).trans queued
        | _ => exact (first_call_posted serving (by rw [main]; rfl)).trans queued

theorem stopped_stays {label : ChainLabel tNumber} (stopped : state.stopped = true)
    (move : ChainMove state label next) : next.stopped = true := by
  cases move with
  | startJob thread queue here queued serves =>
      rw [stopped] at serves
      cases serves
  | refuseRun thread here idle => rfl
  | _ => simp [ChainState.add, ChainState.goTo, ChainState.workFinished, stopped]

/-- The pool starts no further `job`: it is stopped, or the first `post_task` has found no
executor. -/
structure Ended (state : ChainState tNumber) : Prop where
  invariant : ChainInvariant state
  quiet : state.stopped = true ∨ state.tokens = 0

theorem Ended.step {label : ChainLabel tNumber} (ended : Ended state)
    (move : ChainMove state label next) : Ended next ∧ next.jobs = state.jobs := by
  refine ⟨⟨ended.invariant.step move, ?_⟩, ?_⟩
  · obtain stopped | gone := ended.quiet
    · exact .inl (stopped_stays stopped move)
    · have kept := tokens_never_grow ended.invariant.threads move
      exact .inr (by omega)
  · cases move with
    | startJob thread queue here queued serves =>
        obtain stopped | gone := ended.quiet
        · rw [stopped] at serves
          cases serves
        · unfold ChainState.tokens at gone
          omega
    | _ => simp [ChainState.add, ChainState.goTo, ChainState.workFinished]

theorem Ended.run {finish : ChainState tNumber} (ended : Ended state)
    (run : Run (chainSystem tNumber) anyStep state finish) : finish.jobs = state.jobs := by
  have both := @Run.keeps _ _ _ _ (fun later => Ended later ∧ later.jobs = state.jobs)
    (fun label before after holds _ taken => by
      obtain ⟨still, same⟩ := holds.1.step (chain_step_move taken)
      exact ⟨still, same.trans holds.2⟩) _ _ run ⟨ended, rfl⟩
  exact both.2

/-- While one `job` is under way the others return, and so does `thread_func`. -/
def winding : Permission (ChainState tNumber) (ChainLabel tNumber)
  | .makeWork, _ => True
  | .createThread, _ => True
  | .returnThreadFunc, _ => True
  | .finishJob _, _ => True
  | _, _ => False

def ThreadFuncPoint.left (tNumber : Nat) : ThreadFuncPoint → Nat
  | .creating threads => tNumber - threads + 1
  | .returned => 0
  | _ => tNumber + 2

def PoolPoint.inReturn : PoolPoint → Nat
  | .returning => 1
  | _ => 0

def windingLeft (state : ChainState tNumber) : Nat :=
  state.threadFunc.left tNumber + tally PoolPoint.inReturn state.pool

theorem winding_lowers : Lowers (chainSystem tNumber) winding
    (fun state amount => windingLeft state = amount) := by
  intro label state next amount holds allowed taken
  refine ⟨windingLeft next, ?_, rfl⟩
  subst holds
  unfold windingLeft
  cases chain_step_move taken with
  | makeWork here =>
      simp only [here, ThreadFuncPoint.left]
      omega
  | createThread threads bound here =>
      have moved := tally_update PoolPoint.inReturn state.pool ⟨threads, bound⟩ .created
      simp only [here, ChainState.goTo, ThreadFuncPoint.left, PoolPoint.inReturn] at moved ⊢
      omega
  | returnThreadFunc threads all here =>
      simp only [here, ChainState.workFinished, ThreadFuncPoint.left]
      omega
  | finishJob thread here =>
      have moved := pool_update_tally PoolPoint.inReturn here .waiting
      simp only [ChainState.goTo, ChainState.workFinished, PoolPoint.inReturn] at moved ⊢
      omega
  | _ => cases allowed

structure LastJob (thread : Fin tNumber) (jobs : Nat) (state : ChainState tNumber) : Prop where
  serving : Serving state
  here : state.pool thread = .job
  jobs : state.jobs = jobs

theorem job_is_work {thread : Fin tNumber} (holds : ChainInvariant state)
    (here : state.pool thread = .job) : 0 < state.outstandingWork := by
  have handlers := weight_le_tally PoolPoint.handler state.pool thread
  rw [here, show PoolPoint.job.handler = 1 from rfl] at handlers
  rw [holds.counts.account]
  omega

theorem LastJob.winds {thread : Fin tNumber} {jobs : Nat} {label : ChainLabel tNumber}
    (last : LastJob thread jobs state) (allowed : winding label state)
    (taken : chainStep label state = some next) : LastJob thread jobs next := by
  have move := chain_step_move taken
  have invariant := last.serving.invariant.step move
  cases move with
  | makeWork here => exact ⟨⟨invariant, last.serving.runs⟩, last.here, last.jobs⟩
  | createThread threads bound here =>
      have apart : thread ≠ ⟨threads, bound⟩ := by
        intro same
        have fresh := last.serving.invariant.threads.fresh here bound
        rw [← same, last.here] at fresh
        cases fresh
      exact ⟨⟨invariant, last.serving.runs⟩,
        (Function.update_of_ne apart ..).trans last.here, last.jobs⟩
  | returnThreadFunc threads all here =>
      have work := job_is_work invariant last.here
      have runs : state.workFinished.stopped = false := by
        have more : state.outstandingWork - 1 ≠ 0 := Nat.pos_iff_ne_zero.mp work
        simp [ChainState.workFinished, last.serving.runs, more]
      exact ⟨⟨invariant, runs⟩, last.here, last.jobs⟩
  | finishJob other here =>
      have apart : thread ≠ other := by
        intro same
        rw [← same, last.here] at here
        cases here
      have still : (state.workFinished.goTo other .waiting).pool thread = .job :=
        (Function.update_of_ne apart ..).trans last.here
      have work := job_is_work invariant still
      have runs : state.workFinished.stopped = false := by
        have more : state.outstandingWork - 1 ≠ 0 := Nat.pos_iff_ne_zero.mp work
        simp [ChainState.workFinished, last.serving.runs, more]
      exact ⟨⟨invariant, runs⟩, still, last.jobs⟩
  | _ => cases allowed

theorem settled_thread_func (known : state.threadFunc.knownDb = true)
    (settled : Settled (chainSystem tNumber) winding state) : state.threadFunc = .returned := by
  cases point : state.threadFunc with
  | notStarted => rw [point] at known; cases known
  | adding => rw [point] at known; cases known
  | makingWork =>
      have enabled := settled .makeWork trivial
      simp [chainSystem, chainStep, point] at enabled
  | creating threads =>
      by_cases bound : threads < tNumber
      · have enabled := settled .createThread trivial
        simp [chainSystem, chainStep, stepCreateThread, point, bound] at enabled
      · have enabled := settled .returnThreadFunc trivial
        simp [chainSystem, chainStep, stepReturnThreadFunc, point, bound] at enabled
  | returned => rfl

theorem settled_handlers (settled : Settled (chainSystem tNumber) winding state) :
    tally PoolPoint.handler state.pool = tally PoolPoint.inJob state.pool := by
  unfold tally
  refine Finset.sum_congr rfl fun thread _ => ?_
  cases point : state.pool thread with
  | returning =>
      have enabled := settled (.finishJob thread) trivial
      simp [chainSystem, chainStep, point] at enabled
  | _ => rfl

theorem LastJob.alone {thread : Fin tNumber} {jobs : Nat} (last : LastJob thread jobs state)
    (settled : Settled (chainSystem tNumber) winding state) : state.outstandingWork = 1 := by
  have inJob := in_job_pos last.here
  have one := last.serving.alone
  have counts := last.serving.invariant.counts
  have known : state.threadFunc.knownDb = true := by
    by_contra unknown
    have nothing := counts.unknown (by simpa using unknown)
    omega
  rw [counts.account, settled_handlers settled, settled_thread_func known settled,
    show ThreadFuncPoint.returned.work = 0 from rfl]
  omega

theorem follow_two {first second : ChainLabel tNumber} {middle finish : ChainState tNumber}
    (one : chainStep first state = some middle) (two : chainStep second middle = some finish) :
    Run (chainSystem tNumber) anyStep state finish :=
  (Run.single first trivial one).tail second trivial two

/-- All calls of `job` have returned, the last of them before its `done` has posted, and
the pool is stopped. -/
structure LastReturned (state : ChainState tNumber) : Prop where
  stopped : state.stopped = true
  returned : tally PoolPoint.handler state.pool = 0
  unposted : state.jobs = state.dones + 1

theorem last_job_returns {thread : Fin tNumber} {jobs : Nat} (last : LastJob thread jobs state)
    (work : state.outstandingWork = 1) :
    ∃ finish, Run (chainSystem tNumber) anyStep state finish ∧ ChainInvariant finish ∧
      LastReturned finish ∧ finish.jobs = jobs := by
  have posts : chainStep (.postDone thread) state =
      some ((state.postTask .ui).goTo thread .returning) := by
    simp only [chainStep, last.here]
  have returns : chainStep (.finishJob thread) ((state.postTask .ui).goTo thread .returning) =
      some (((state.postTask .ui).goTo thread .returning).workFinished.goTo thread .waiting) := by
    simp only [chainStep, ChainState.goTo, Function.update_self]
  have same : (state.postTask .ui).outstandingWork = state.outstandingWork := by
    unfold ChainState.postTask
    split_ifs <;> rfl
  have invariant := (last.serving.invariant.step (chain_step_move posts)).step
    (chain_step_move returns)
  have account := invariant.counts.account
  have alone := last.serving.alone
  have rounds := last.serving.invariant.counts.rounds
  have inJob := in_job_pos last.here
  have inDone : state.main.inDone ≤ state.main.unposted := by
    cases state.main <;> simp [MainPoint.inDone, MainPoint.unposted]
  refine ⟨_, follow_two posts returns, invariant, ⟨?_, ?_, ?_⟩, ?_⟩
  · simp [ChainState.goTo, ChainState.workFinished, same, work]
  · simp only [ChainState.goTo, ChainState.workFinished, same, work] at account ⊢
    omega
  · simp only [ChainState.goTo, ChainState.workFinished, post_task_jobs, post_task_dones]
    omega
  · simpa [ChainState.goTo, ChainState.workFinished] using last.jobs

theorem job_can_be_last {thread : Fin tNumber} (serving : Serving state)
    (here : state.pool thread = .job) :
    ∃ finish, Run (chainSystem tNumber) anyStep state finish ∧ ChainInvariant finish ∧
      LastReturned finish ∧ finish.jobs = state.jobs := by
  obtain ⟨middle, winds, settled⟩ := settles winding_lowers (rfl : windingLeft state = _)
  have last := @Run.keeps _ _ _ _ (LastJob thread state.jobs)
    (fun label before after holds allowed taken => holds.winds allowed taken) _ _ winds
    ⟨serving, here, rfl⟩
  obtain ⟨finish, run, invariant, ended, jobs⟩ := last_job_returns last (last.alone settled)
  exact ⟨finish, (winds.weaken fun _ _ _ => trivial).trans run, invariant, ended, jobs⟩

/-- `returning`: a `done` that has not posted has its `job` still on the pool. -/
structure Held (state : ChainState tNumber) : Prop where
  serving : Serving state
  token : state.tokens = 1
  first : state.threadFunc = .returned → state.main.posted = true
  returning : state.events + state.main.inDone ≤ tally PoolPoint.inReturn state.pool

theorem handlers_split (pool : Fin tNumber → PoolPoint) :
    tally PoolPoint.handler pool =
      tally PoolPoint.inJob pool + tally PoolPoint.inReturn pool := by
  unfold tally
  rw [← Finset.sum_add_distrib]
  refine Finset.sum_congr rfl fun thread _ => ?_
  cases pool thread <;> rfl

theorem posted_is_work (invariant : ChainInvariant state) (token : state.tokens = 1)
    (returning : state.events + state.main.inDone ≤ tally PoolPoint.inReturn state.pool)
    (posted : state.main.posted = true) : 0 < state.outstandingWork := by
  unfold ChainState.tokens at token
  rw [invariant.counts.account, handlers_split]
  cases main : state.main <;> rw [main] at token returning posted <;>
    simp only [MainPoint.unposted, MainPoint.inDone] at token returning
  case waiting => omega
  case done => omega
  all_goals cases posted

theorem patient_posts {label : ChainLabel tNumber} {id : ThreadIds} (held : Held state)
    (allowed : patient label state) (move : ChainMove state label next)
    (posts : label.posts = some id) : state.idToExec id = true := by
  have invariant := held.serving.invariant
  cases move <;> cases posts
  case postFirst => exact allowed
  case postDone thread here => exact ui_is_known invariant.registered invariant.oneToken here
  case postNext here =>
    refine invariant.registered.db.trans ?_
    by_contra unknown
    have nothing := invariant.counts.unknown (by simpa using unknown)
    rw [here, show MainPoint.done.inDone = 1 from rfl] at nothing
    omega

theorem pool_is_work (thread : Fin tNumber) (invariant : ChainInvariant state)
    (token : state.tokens = 1) (first : state.threadFunc = .returned → state.main.posted = true)
    (returning : state.events + state.main.inDone ≤ tally PoolPoint.inReturn state.pool)
    (created : state.pool thread ≠ .notCreated) : 0 < state.outstandingWork := by
  have more : state.threadFunc.created tNumber > thread := by
    by_contra none
    exact created ((invariant.threads.created thread).mpr (by omega))
  cases point : state.threadFunc with
  | creating threads =>
      have work : (ThreadFuncPoint.creating threads).work = 1 := rfl
      rw [invariant.counts.account, point, work]
      omega
  | returned => exact posted_is_work invariant token returning (first point)
  | _ =>
      rw [point] at more
      cases more

theorem Held.returning_step {label : ChainLabel tNumber} (held : Held state)
    (allowed : patient label state) (move : ChainMove state label next) :
    next.events + next.main.inDone ≤ tally PoolPoint.inReturn next.pool := by
  have returning := held.returning
  have registered := held.serving.invariant.registered
  cases move with
  | start here => simpa [here, MainPoint.inDone] using returning
  | addUi here => simpa [ChainState.add, here, MainPoint.inDone] using returning
  | postFirst here =>
      rw [post_task_known state allowed]
      simpa [ChainState.post, here, MainPoint.inDone] using returning
  | createThread threads bound here =>
      have moved := pool_update_tally PoolPoint.inReturn
        (held.serving.invariant.threads.fresh here bound) .created
      simp only [PoolPoint.inReturn] at moved
      simp only [ChainState.goTo]
      omega
  | refuseRun thread here idle =>
      have moved := pool_update_tally PoolPoint.inReturn here .exited
      simp only [PoolPoint.inReturn] at moved
      simp only [ChainState.goTo]
      omega
  | enterRun thread here busy =>
      have moved := pool_update_tally PoolPoint.inReturn here .waiting
      simp only [PoolPoint.inReturn] at moved
      simp only [ChainState.goTo]
      omega
  | startJob thread queue here queued serves =>
      have moved := pool_update_tally PoolPoint.inReturn here .job
      simp only [PoolPoint.inReturn] at moved
      simp only [ChainState.goTo]
      omega
  | postDone thread here =>
      have known := patient_posts held allowed (.postDone thread here) rfl
      have moved := pool_update_tally PoolPoint.inReturn here .returning
      simp only [PoolPoint.inReturn] at moved
      rw [post_task_known state known]
      simp only [ChainState.goTo, ChainState.post]
      omega
  | finishJob thread here =>
      obtain ⟨noEvent, noDone⟩ := allowed
      have none : state.main.inDone = 0 := by
        cases main : state.main <;> simp_all [MainPoint.inDone]
      simp only [ChainState.goTo, ChainState.workFinished]
      omega
  | leaveRun thread here ended =>
      rw [held.serving.runs] at ended
      cases ended
  | startDone events here posted =>
      simp only [here, posted, MainPoint.inDone] at returning ⊢
      omega
  | postNext here =>
      have known := patient_posts held allowed (.postNext here) rfl
      rw [post_task_known state known]
      simp only [here, ChainState.post, MainPoint.inDone] at returning ⊢
      omega
  | _ => exact returning

theorem Held.first_step {label : ChainLabel tNumber} (held : Held state)
    (allowed : patient label state) (move : ChainMove state label next) :
    next.threadFunc = .returned → next.main.posted = true := by
  have first := held.first
  cases move with
  | addUi here =>
      intro returned
      have posted := first returned
      rw [here] at posted
      cases posted
  | returnThreadFunc threads all here => exact fun _ => allowed
  | postDone thread here => simpa [ChainState.goTo] using first
  | finishJob thread here => exact first
  | _ => simp_all [ChainState.goTo, ChainState.add, MainPoint.posted]

theorem Held.step {label : ChainLabel tNumber} (held : Held state)
    (allowed : patient label state) (move : ChainMove state label next) : Held next := by
  have invariant := held.serving.invariant.step move
  have token : next.tokens = 1 := by
    obtain same | ⟨_, id, posts, unknown⟩ := tokens_step held.serving.invariant.threads move
    · exact same.trans held.token
    · rw [patient_posts held allowed move posts] at unknown
      cases unknown
  have first := held.first_step allowed move
  have returning := held.returning_step allowed move
  refine ⟨⟨invariant, ?_⟩, token, first, returning⟩
  have runs := held.serving.runs
  cases move with
  | refuseRun thread here idle =>
      have work := pool_is_work thread held.serving.invariant held.token held.first
        held.returning (by simp [here])
      rcases idle with none | stopped
      · omega
      · rw [runs] at stopped
        cases stopped
  | returnThreadFunc threads all here =>
      have work := posted_is_work invariant token returning allowed
      have more : state.outstandingWork - 1 ≠ 0 := Nat.pos_iff_ne_zero.mp work
      simp [ChainState.workFinished, runs, more]
  | finishJob thread here =>
      have work := pool_is_work thread invariant token first returning
        (by simp [ChainState.goTo])
      have more : state.outstandingWork - 1 ≠ 0 := Nat.pos_iff_ne_zero.mp work
      simp [ChainState.goTo, ChainState.workFinished, runs, more]
  | _ => simpa [ChainState.goTo, ChainState.add] using runs

theorem held_initially : Held (ChainState.initial : ChainState tNumber) where
  serving := ⟨chain_initial_invariant, rfl⟩
  token := by
    simp [ChainState.initial, ChainState.tokens, tally, PoolPoint.inJob, MainPoint.unposted]
  first returned := by cases returned
  returning := by simp [ChainState.initial, MainPoint.inDone]

theorem counted_calls_in_turn (reached : Reachable (chainSystem tNumber) anyStep state) :
    (∀ thread other, state.pool thread = .job → state.pool other = .job → other = thread) ∧
      ((∃ thread, state.pool thread = .job) → state.queue = 0 ∧ state.events = 0) ∧
      state.dones ≤ state.jobs ∧ state.jobs ≤ state.dones + 1 := by
  have holds := chain_invariant reached
  have one := holds.oneToken
  have rounds := holds.counts.rounds
  unfold ChainState.tokens at one
  refine ⟨fun thread other here there => ?_, fun ⟨thread, here⟩ => ?_, by omega, ?_⟩
  · by_contra different
    have both := two_weights_le_tally PoolPoint.inJob state.pool different
    rw [here, there, show PoolPoint.job.inJob = 1 from rfl] at both
    omega
  · have inJob := in_job_pos here
    omega
  · have inDone : state.main.inDone ≤ state.main.unposted := by
      cases state.main <;> simp [MainPoint.inDone, MainPoint.unposted]
    omega

theorem goes_on (threads : 0 < tNumber) (serving : Serving state) (token : state.tokens = 1)
    (more : Nat) :
    LeadsTo (more + 1) (fun finish => ∃ thread, finish.pool thread = .job) state := by
  induction more with
  | zero => exact next_job_starts threads serving token
  | succ more ih =>
      refine ih.trans fun serves ⟨thread, here⟩ => ?_
      have inJob := in_job_pos here
      have alone := serves.alone
      exact next_job_starts threads serves (by unfold ChainState.tokens; omega)

def FirstCallLost (state : ChainState tNumber) : Prop :=
  state.main = .waiting ∧ state.queue = 0 ∧ state.jobs = 0

theorem token_gone_iff (holds : ChainInvariant state) :
    state.tokens = 0 ↔ FirstCallLost state := by
  have rounds := holds.counts.rounds
  constructor
  · intro gone
    have none := holds.lost gone
    unfold ChainState.tokens at gone
    have main : state.main = .waiting := by
      cases main : state.main <;> rw [main] at gone <;> simp only [MainPoint.unposted] at gone
      all_goals omega
    exact ⟨main, by omega, none⟩
  · rintro ⟨main, queue, none⟩
    have unposted : state.main.unposted = 0 := by rw [main]; rfl
    unfold ChainState.tokens
    omega

theorem token_is_there (holds : ChainInvariant state) (kept : ¬ FirstCallLost state) :
    state.tokens = 1 := by
  have one := holds.oneToken
  have some : state.tokens ≠ 0 := fun gone => kept ((token_gone_iff holds).mp gone)
  omega

theorem counted_goes_on_iff (threads : 0 < tNumber) (holds : ChainInvariant state) :
    (∃ finish, Run (chainSystem tNumber) anyStep state finish ∧ state.jobs < finish.jobs) ↔
      state.stopped = false ∧ ¬ FirstCallLost state := by
  constructor
  · rintro ⟨finish, run, more⟩
    have goesOn : ¬ Ended state := by
      intro ended
      have same := ended.run run
      omega
    refine ⟨?_, fun lost => goesOn ⟨holds, .inr ((token_gone_iff holds).mpr lost)⟩⟩
    by_contra stopped
    exact goesOn ⟨holds, .inl (by simpa using stopped)⟩
  · rintro ⟨runs, kept⟩
    obtain ⟨finish, run, _, jobs, _⟩ :=
      next_job_starts threads ⟨holds, runs⟩ (token_is_there holds kept)
    exact ⟨finish, run.weaken fun _ _ _ => trivial, by omega⟩

theorem counted_can_end_after_any_job (threads : 0 < tNumber) (holds : ChainInvariant state)
    (runs : state.stopped = false) (kept : ¬ FirstCallLost state) (more : Nat) :
    ∃ finish, Run (chainSystem tNumber) anyStep state finish ∧
      finish.jobs = state.jobs + (more + 1) ∧ LastReturned finish ∧
      ∀ later, Run (chainSystem tNumber) anyStep finish later → later.jobs = finish.jobs := by
  obtain ⟨middle, run, serving, jobs, thread, here⟩ :=
    goes_on threads ⟨holds, runs⟩ (token_is_there holds kept) more
  obtain ⟨finish, rest, invariant, last, same⟩ := job_can_be_last serving here
  have ended : Ended finish := ⟨invariant, .inl last.stopped⟩
  exact ⟨finish, (run.weaken fun _ _ _ => trivial).trans rest, same.trans jobs, last,
    fun later after => ended.run after⟩

theorem patient_counts_go_on (threads : 0 < tNumber)
    (reached : Reachable (chainSystem tNumber) patient state) :
    state.stopped = false ∧
      ∃ finish, Run (chainSystem tNumber) patient state finish ∧ state.jobs < finish.jobs := by
  have held : Held state := reached.keeps (fun _ begins => begins ▸ held_initially)
    fun _ _ _ holds allowed taken => holds.step allowed (chain_step_move taken)
  obtain ⟨finish, run, _, jobs, _⟩ := next_job_starts threads held.serving held.token
  exact ⟨held.serving.runs, finish, run, by omega⟩

end Schedulers.QtExecutors
