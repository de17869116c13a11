import Schedulers.Threading.QtExecutorsCounts

/-!
# The steps of the chain

What each step can do, and the invariant of the chain: who has registered, which threads
exist, what the outstanding work of the `io_service` consists of, and that one call of
the chain is under way at a time.
-/

namespace Schedulers.QtExecutors

open Schedulers.TransitionSystem Schedulers.Tally

set_option autoImplicit false

variable {tNumber : Nat} {state next : ChainState tNumber}

inductive ChainMove (state : ChainState tNumber) :
    ChainLabel tNumber → ChainState tNumber → Prop where
  | start (here : state.main = .starting) :
      ChainMove state .start { state with main := .adding, threadFunc := .adding }
  | addUi (here : state.main = .adding) :
      ChainMove state .addUi { state.add .ui with main := .posting }
  | postFirst (here : state.main = .posting) :
      ChainMove state .postFirst { state.postTask .db with main := .waiting }
  | addDb (here : state.threadFunc = .adding) :
      ChainMove state .addDb { state.add .db with threadFunc := .makingWork }
  | makeWork (here : state.threadFunc = .makingWork) :
      ChainMove state .makeWork
        { state with threadFunc := .creating 0, outstandingWork := state.outstandingWork + 1 }
  | createThread (threads : Nat) (bound : threads < tNumber)
      (here : state.threadFunc = .creating threads) :
      ChainMove state .createThread
        { state.goTo ⟨threads, bound⟩ .created with threadFunc := .creating (threads + 1) }
  | returnThreadFunc (threads : Nat) (all : tNumber ≤ threads)
      (here : state.threadFunc = .creating threads) :
      ChainMove state .returnThreadFunc { state.workFinished with threadFunc := .returned }
  | refuseRun (thread : Fin tNumber) (here : state.pool thread = .created)
      (idle : state.outstandingWork = 0 ∨ state.stopped = true) :
      ChainMove state (.enterRun thread) { state.goTo thread .exited with stopped := true }
  | enterRun (thread : Fin tNumber) (here : state.pool thread = .created)
      (busy : ¬(state.outstandingWork = 0 ∨ state.stopped = true)) :
      ChainMove state (.enterRun thread) (state.goTo thread .waiting)
  | startJob (thread : Fin tNumber) (queue : Nat) (here : state.pool thread = .waiting)
      (queued : state.queue = queue + 1) (serves : state.stopped = false) :
      ChainMove state (.startJob thread)
        { state.goTo thread .job with queue := queue, jobs := state.jobs + 1 }
  | postDone (thread : Fin tNumber) (here : state.pool thread = .job) :
      ChainMove state (.postDone thread) ((state.postTask .ui).goTo thread .returning)
  | finishJob (thread : Fin tNumber) (here : state.pool thread = .returning) :
      ChainMove state (.finishJob thread) (state.workFinished.goTo thread .waiting)
  | leaveRun (thread : Fin tNumber) (here : state.pool thread = .waiting)
      (ended : state.stopped = true) :
      ChainMove state (.leaveRun thread) (state.goTo thread .exited)
  | startDone (events : Nat) (here : state.main = .waiting) (posted : state.events = events + 1) :
      ChainMove state .startDone { state with main := .done, events := events }
  | postNext (here : state.main = .done) :
      ChainMove state .postNext
        { state.postTask .db with main := .waiting, dones := state.dones + 1 }

theorem chain_step_move {label : ChainLabel tNumber}
    (taken : chainStep label state = some next) : ChainMove state label next := by
  cases label <;> simp only [chainStep] at taken
  case createThread =>
    unfold stepCreateThread at taken
    split at taken
    · next threads here =>
        split_ifs at taken with bound
        cases taken
        exact .createThread threads bound here
    · cases taken
  case returnThreadFunc =>
    unfold stepReturnThreadFunc at taken
    split at taken
    · next threads here =>
        split_ifs at taken with more
        cases taken
        exact .returnThreadFunc threads (by omega) here
    · cases taken
  case enterRun thread =>
    unfold stepEnterRun at taken
    split at taken
    · next here =>
        split_ifs at taken with idle
        · cases taken
          exact .refuseRun thread here idle
        · cases taken
          exact .enterRun thread here idle
    · cases taken
  case startJob thread =>
    unfold stepStartJob at taken
    split at taken
    · next queue here queued serves =>
        cases taken
        exact .startJob thread queue here queued serves
    · cases taken
  all_goals
    split at taken
    · cases taken
      constructor <;> assumption
    · cases taken

def MainPoint.knownUi : MainPoint → Bool
  | .starting => false
  | .adding => false
  | _ => true

def MainPoint.inDone : MainPoint → Nat
  | .done => 1
  | _ => 0

def ThreadFuncPoint.knownDb : ThreadFuncPoint → Bool
  | .notStarted => false
  | .adding => false
  | _ => true

def ThreadFuncPoint.created (tNumber : Nat) : ThreadFuncPoint → Nat
  | .creating threads => threads
  | .returned => tNumber
  | _ => 0

/-- Who has registered, by how far the two threads that do so have come. -/
structure Registered (state : ChainState tNumber) : Prop where
  begun : state.main = .starting ↔ state.threadFunc = .notStarted
  ui : state.main.knownUi = true → state.idToExec .ui = true
  db : state.idToExec .db = state.threadFunc.knownDb

structure PoolThreads (state : ChainState tNumber) : Prop where
  created : ∀ thread : Fin tNumber,
    state.pool thread = .notCreated ↔ state.threadFunc.created tNumber ≤ thread
  exited : ∀ thread, state.pool thread = .exited → state.stopped = true

/-- `account` is what the outstanding work of the `io_service` consists of; `unknown`
says that nothing is under way before the pool is registered. -/
structure ChainCounts (state : ChainState tNumber) : Prop where
  account : state.outstandingWork =
    state.queue + tally PoolPoint.handler state.pool + state.threadFunc.work
  unknown : state.threadFunc.knownDb = false →
    state.queue + tally PoolPoint.inJob state.pool + state.events + state.main.inDone +
      state.jobs = 0
  rounds : state.jobs =
    state.dones + tally PoolPoint.inJob state.pool + state.events + state.main.inDone

structure ChainInvariant (state : ChainState tNumber) : Prop where
  registered : Registered state
  threads : PoolThreads state
  counts : ChainCounts state
  oneToken : state.tokens ≤ 1
  lost : state.tokens = 0 → state.jobs = 0

theorem chain_initial_invariant : ChainInvariant (ChainState.initial : ChainState tNumber) where
  registered := by
    constructor <;> simp [ChainState.initial, MainPoint.knownUi, ThreadFuncPoint.knownDb]
  threads := by constructor <;> simp [ChainState.initial, ThreadFuncPoint.created]
  counts := by
    constructor <;> simp [ChainState.initial, tally, PoolPoint.handler, PoolPoint.inJob,
      ThreadFuncPoint.work, MainPoint.inDone]
  oneToken := by
    simp [ChainState.initial, ChainState.tokens, tally, PoolPoint.inJob, MainPoint.unposted]
  lost _ := rfl

/-- A thread of the pool moves on: what its move adds to and takes from a tally. -/
theorem pool_update_tally (weight : PoolPoint → Nat) {thread : Fin tNumber} {old : PoolPoint}
    (here : state.pool thread = old) (point : PoolPoint) :
    tally weight (Function.update state.pool thread point) + weight old =
      tally weight state.pool + weight point := by
  rw [← here]
  exact tally_update weight state.pool thread point

theorem Registered.step {label : ChainLabel tNumber} (holds : Registered state)
    (move : ChainMove state label next) : Registered next := by
  obtain ⟨begun, ui, db⟩ := holds
  cases move <;> constructor <;>
    simp_all [ChainState.add, ChainState.goTo, ChainState.workFinished,
      MainPoint.knownUi, ThreadFuncPoint.knownDb]

theorem PoolThreads.fresh {threads : Nat} (holds : PoolThreads state)
    (here : state.threadFunc = .creating threads) (bound : threads < tNumber) :
    state.pool ⟨threads, bound⟩ = .notCreated := by
  refine (holds.created _).mpr ?_
  rw [here]
  exact Nat.le_refl _

theorem PoolThreads.goTo {thread : Fin tNumber} {point : PoolPoint} (holds : PoolThreads state)
    (before : state.pool thread ≠ .notCreated) (after : point ≠ .notCreated)
    (ended : point = .exited → state.stopped = true) : PoolThreads (state.goTo thread point) where
  created other := by
    by_cases same : other = thread
    · subst same
      simp only [ChainState.goTo, Function.update_self, after, false_iff]
      exact fun later => before ((holds.created other).mpr later)
    · simp only [ChainState.goTo, Function.update_of_ne same]
      exact holds.created other
  exited other gone := by
    by_cases same : other = thread
    · subst same
      exact ended (by simpa [ChainState.goTo] using gone)
    · exact holds.exited other (by simpa [ChainState.goTo, Function.update_of_ne same] using gone)

theorem PoolThreads.step {label : ChainLabel tNumber} (registered : Registered state)
    (holds : PoolThreads state) (move : ChainMove state label next) : PoolThreads next := by
  cases move with
  | start here =>
      have created := holds.created
      rw [registered.begun.mp here] at created
      exact ⟨created, holds.exited⟩
  | addUi here => exact ⟨holds.created, holds.exited⟩
  | postFirst here => exact ⟨by simpa using holds.created, by simpa using holds.exited⟩
  | addDb here =>
      have created := holds.created
      rw [here] at created
      exact ⟨created, holds.exited⟩
  | makeWork here =>
      have created := holds.created
      rw [here] at created
      exact ⟨created, holds.exited⟩
  | createThread threads bound here =>
      have created := holds.created
      rw [here] at created
      refine ⟨fun other => ?_, fun other gone => ?_⟩
      · by_cases same : other = ⟨threads, bound⟩
        · subst same
          simp [ChainState.goTo, ThreadFuncPoint.created]
        · have apart : (other : Nat) ≠ threads := fun equal => same (Fin.ext equal)
          simp only [ChainState.goTo, Function.update_of_ne same, created other,
            ThreadFuncPoint.created]
          omega
      · by_cases same : other = ⟨threads, bound⟩
        · subst same
          simp [ChainState.goTo] at gone
        · exact holds.exited other
            (by simpa [ChainState.goTo, Function.update_of_ne same] using gone)
  | returnThreadFunc threads all here =>
      have created := holds.created
      rw [here] at created
      refine ⟨fun other => ?_, fun other gone => ?_⟩
      · have within := other.isLt
        simp only [ChainState.workFinished, created other, ThreadFuncPoint.created]
        omega
      · simp [ChainState.workFinished, holds.exited other gone]
  | refuseRun thread here idle =>
      have stops : PoolThreads { state with stopped := true } :=
        ⟨holds.created, fun _ _ => rfl⟩
      exact stops.goTo (by simp [here]) (by simp) (fun _ => rfl)
  | enterRun thread here busy => exact holds.goTo (by simp [here]) (by simp) (by simp)
  | startJob thread queue here queued serves =>
      have moved : PoolThreads (state.goTo thread .job) :=
        holds.goTo (by simp [here]) (by simp) (by simp)
      exact ⟨moved.created, moved.exited⟩
  | postDone thread here =>
      have posted : PoolThreads (state.postTask .ui) :=
        ⟨by simpa using holds.created, by simpa using holds.exited⟩
      exact posted.goTo (by simp [here]) (by simp) (by simp)
  | finishJob thread here =>
      have finished : PoolThreads state.workFinished :=
        ⟨holds.created, fun other gone => by
          simp [ChainState.workFinished, holds.exited other gone]⟩
      exact finished.goTo (by simp [ChainState.workFinished, here]) (by simp) (by simp)
  | leaveRun thread here ended => exact holds.goTo (by simp [here]) (by simp) (fun _ => ended)
  | startDone events here posted => exact ⟨holds.created, holds.exited⟩
  | postNext here => exact ⟨by simpa using holds.created, by simpa using holds.exited⟩

def ChainLabel.posts : ChainLabel tNumber → Option ThreadIds
  | .postFirst => some .db
  | .postDone _ => some .ui
  | .postNext => some .db
  | _ => none

theorem post_task_calls (state : ChainState tNumber) (id : ThreadIds) :
    (state.postTask id).queue + (state.postTask id).events =
      state.queue + state.events + (if state.idToExec id then 1 else 0) := by
  unfold ChainState.postTask
  split_ifs
  · cases id <;> simp only [ChainState.post] <;> omega
  · rfl

/-- No step adds a call to the chain, and one is lost where the executor is not known. -/
theorem tokens_step {label : ChainLabel tNumber} (created : PoolThreads state)
    (move : ChainMove state label next) :
    next.tokens = state.tokens ∨
      next.tokens + 1 = state.tokens ∧
        ∃ id, label.posts = some id ∧ state.idToExec id = false := by
  have posts : ∀ id, label.posts = some id →
      next.tokens + 1 = state.tokens + (if state.idToExec id then 1 else 0) →
      next.tokens = state.tokens ∨ next.tokens + 1 = state.tokens ∧
        ∃ id, label.posts = some id ∧ state.idToExec id = false := by
    intro id posted account
    cases known : state.idToExec id with
    | true => exact .inl (by simpa [known] using account)
    | false => exact .inr ⟨by simpa [known] using account, id, posted, known⟩
  cases move with
  | start here => exact .inl (by simp [ChainState.tokens, here, MainPoint.unposted])
  | addUi here =>
      exact .inl (by simp [ChainState.tokens, ChainState.add, here, MainPoint.unposted])
  | postFirst here =>
      have posted := post_task_calls state .db
      refine posts .db rfl ?_
      simp only [ChainState.tokens, post_task_pool, here, MainPoint.unposted]
      omega
  | createThread threads bound here =>
      have moved := pool_update_tally PoolPoint.inJob (created.fresh here bound) .created
      simp only [PoolPoint.inJob] at moved
      exact .inl (by simp only [ChainState.tokens, ChainState.goTo]; omega)
  | refuseRun thread here idle =>
      have moved := pool_update_tally PoolPoint.inJob here .exited
      simp only [PoolPoint.inJob] at moved
      exact .inl (by simp only [ChainState.tokens, ChainState.goTo]; omega)
  | enterRun thread here busy =>
      have moved := pool_update_tally PoolPoint.inJob here .waiting
      simp only [PoolPoint.inJob] at moved
      exact .inl (by simp only [ChainState.tokens, ChainState.goTo]; omega)
  | startJob thread queue here queued serves =>
      have moved := pool_update_tally PoolPoint.inJob here .job
      simp only [PoolPoint.inJob] at moved
      exact .inl (by simp only [ChainState.tokens, ChainState.goTo]; omega)
  | postDone thread here =>
      have posted := post_task_calls state .ui
      have moved := pool_update_tally PoolPoint.inJob here .returning
      simp only [PoolPoint.inJob] at moved
      refine posts .ui rfl ?_
      simp only [ChainState.tokens, ChainState.goTo, post_task_pool, post_task_main]
      omega
  | finishJob thread here =>
      have moved := pool_update_tally PoolPoint.inJob here .waiting
      simp only [PoolPoint.inJob] at moved
      exact .inl (by simp only [ChainState.tokens, ChainState.goTo, ChainState.workFinished]; omega)
  | leaveRun thread here ended =>
      have moved := pool_update_tally PoolPoint.inJob here .exited
      simp only [PoolPoint.inJob] at moved
      exact .inl (by simp only [ChainState.tokens, ChainState.goTo]; omega)
  | startDone events here posted =>
      refine .inl ?_
      simp only [ChainState.tokens, here, posted, MainPoint.unposted]
      omega
  | postNext here =>
      have posted := post_task_calls state .db
      refine posts .db rfl ?_
      simp only [ChainState.tokens, post_task_pool, here, MainPoint.unposted]
      omega
  | _ => exact .inl rfl

theorem tokens_never_grow {label : ChainLabel tNumber} (created : PoolThreads state)
    (move : ChainMove state label next) : next.tokens ≤ state.tokens := by
  obtain same | ⟨less, _⟩ := tokens_step created move <;> omega

theorem ChainCounts.goTo {thread : Fin tNumber} {old point : PoolPoint} (holds : ChainCounts state)
    (here : state.pool thread = old) (before : old.handler = 0) (after : point.handler = 0) :
    ChainCounts (state.goTo thread point) := by
  have idle : ∀ place : PoolPoint, place.handler = 0 → place.inJob = 0 := by
    intro place none
    cases place <;> simp_all [PoolPoint.handler, PoolPoint.inJob]
  have handlers : tally PoolPoint.handler (state.goTo thread point).pool =
      tally PoolPoint.handler state.pool := by
    have moved := pool_update_tally PoolPoint.handler here point
    rw [before, after] at moved
    exact moved
  have inJob : tally PoolPoint.inJob (state.goTo thread point).pool =
      tally PoolPoint.inJob state.pool := by
    have moved := pool_update_tally PoolPoint.inJob here point
    rw [idle old before, idle point after] at moved
    exact moved
  obtain ⟨account, unknown, rounds⟩ := holds
  rw [← inJob] at unknown rounds
  rw [← handlers] at account
  exact ⟨account, unknown, rounds⟩

theorem ChainCounts.startJob {thread : Fin tNumber} {queue : Nat} (holds : ChainCounts state)
    (here : state.pool thread = .waiting) (queued : state.queue = queue + 1) :
    ChainCounts { state.goTo thread .job with queue := queue, jobs := state.jobs + 1 } := by
  obtain ⟨account, unknown, rounds⟩ := holds
  have handlers := pool_update_tally PoolPoint.handler here .job
  have inJob := pool_update_tally PoolPoint.inJob here .job
  simp only [PoolPoint.handler, PoolPoint.inJob] at handlers inJob
  refine ⟨?_, fun unregistered => ?_, ?_⟩
  · simp only [ChainState.goTo]
    omega
  · have nothing := unknown unregistered
    omega
  · simp only [ChainState.goTo]
    omega

theorem ChainCounts.postDone {thread : Fin tNumber} (holds : ChainCounts state)
    (here : state.pool thread = .job) :
    ChainCounts ((state.post .ui).goTo thread .returning) := by
  obtain ⟨account, unknown, rounds⟩ := holds
  have handlers := pool_update_tally PoolPoint.handler here .returning
  have inJob := pool_update_tally PoolPoint.inJob here .returning
  simp only [PoolPoint.handler, PoolPoint.inJob] at handlers inJob
  refine ⟨?_, fun unregistered => ?_, ?_⟩
  · simp only [ChainState.goTo, ChainState.post]
    omega
  · have nothing := unknown unregistered
    omega
  · simp only [ChainState.goTo, ChainState.post]
    omega

theorem ChainCounts.finishJob {thread : Fin tNumber} (holds : ChainCounts state)
    (here : state.pool thread = .returning) :
    ChainCounts (state.workFinished.goTo thread .waiting) := by
  obtain ⟨account, unknown, rounds⟩ := holds
  have handlers := pool_update_tally PoolPoint.handler here .waiting
  have inJob := pool_update_tally PoolPoint.inJob here .waiting
  simp only [PoolPoint.handler, PoolPoint.inJob] at handlers inJob
  refine ⟨?_, fun unregistered => ?_, ?_⟩
  · simp only [ChainState.goTo, ChainState.workFinished]
    omega
  · have nothing := unknown unregistered
    simp only [ChainState.goTo, ChainState.workFinished]
    omega
  · simp only [ChainState.goTo, ChainState.workFinished]
    omega

theorem ChainCounts.postJob {point : MainPoint} (registered : Registered state)
    (holds : ChainCounts state) (here : state.main = point) :
    ChainCounts { state.postTask .db with
      main := .waiting
      dones := state.dones + point.inDone } := by
  obtain ⟨account, unknown, rounds⟩ := holds
  rw [here] at unknown rounds
  have waits : MainPoint.waiting.inDone = 0 := rfl
  cases known : state.threadFunc.knownDb with
  | true =>
      rw [post_task_known state (registered.db.trans known)]
      refine ⟨?_, fun strange => ?_, ?_⟩
      · simp only [ChainState.post]
        omega
      · simp only [ChainState.post, known] at strange
        cases strange
      · simp only [ChainState.post, waits]
        omega
  | false =>
      have nothing := unknown known
      rw [post_task_unknown state (registered.db.trans known)]
      refine ⟨account, fun _ => ?_, ?_⟩
      · simp only [waits]
        omega
      · simp only [waits]
        omega

theorem main_waits (oneToken : state.tokens ≤ 1)
    (elsewhere : 0 < state.queue + tally PoolPoint.inJob state.pool + state.events) :
    state.main = .waiting := by
  unfold ChainState.tokens at oneToken
  cases main : state.main <;> rw [main] at oneToken <;>
    simp only [MainPoint.unposted] at oneToken
  all_goals omega

theorem in_job_pos {thread : Fin tNumber} (here : state.pool thread = .job) :
    0 < tally PoolPoint.inJob state.pool := by
  have inJob := weight_le_tally PoolPoint.inJob state.pool thread
  rw [here, show PoolPoint.job.inJob = 1 from rfl] at inJob
  omega

theorem ui_is_known {thread : Fin tNumber} (registered : Registered state)
    (oneToken : state.tokens ≤ 1) (here : state.pool thread = .job) :
    state.idToExec .ui = true := by
  have inJob := in_job_pos here
  have main := main_waits oneToken (by omega)
  exact registered.ui (by rw [main]; rfl)

theorem ChainCounts.step {label : ChainLabel tNumber} (registered : Registered state)
    (threads : PoolThreads state) (oneToken : state.tokens ≤ 1) (holds : ChainCounts state)
    (move : ChainMove state label next) : ChainCounts next := by
  obtain ⟨account, unknown, rounds⟩ := id holds
  cases move with
  | start here =>
      simp only [here, registered.begun.mp here, MainPoint.inDone, ThreadFuncPoint.work]
        at account unknown rounds
      exact ⟨account, fun _ => unknown rfl, rounds⟩
  | addUi here =>
      simp only [here, MainPoint.inDone] at unknown rounds
      exact ⟨account, unknown, rounds⟩
  | postFirst here => simpa [MainPoint.inDone] using holds.postJob registered here
  | addDb here =>
      simp only [here, ThreadFuncPoint.work] at account
      exact ⟨account, (fun strange => by cases strange), rounds⟩
  | makeWork here =>
      simp only [here, ThreadFuncPoint.work] at account
      refine ⟨?_, (fun strange => by cases strange), rounds⟩
      simp only [ThreadFuncPoint.work]
      omega
  | createThread created bound here =>
      obtain ⟨account, _, rounds⟩ :=
        holds.goTo (threads.fresh here bound) rfl (rfl : PoolPoint.created.handler = 0)
      refine ⟨?_, (fun strange => by cases strange), rounds⟩
      rw [account, show (state.goTo _ _).threadFunc = _ from here]
      rfl
  | returnThreadFunc created all here =>
      simp only [here, ThreadFuncPoint.work] at account
      refine ⟨?_, (fun strange => by cases strange), rounds⟩
      simp only [ThreadFuncPoint.work, ChainState.workFinished]
      omega
  | refuseRun thread here idle =>
      have moved := holds.goTo here rfl (rfl : PoolPoint.exited.handler = 0)
      exact ⟨moved.account, moved.unknown, moved.rounds⟩
  | enterRun thread here busy => exact holds.goTo here rfl rfl
  | startJob thread queue here queued serves => exact holds.startJob here queued
  | postDone thread here =>
      rw [post_task_known state (ui_is_known registered oneToken here)]
      exact holds.postDone here
  | finishJob thread here => exact holds.finishJob here
  | leaveRun thread here ended => exact holds.goTo here rfl rfl
  | startDone events here posted =>
      simp only [here, posted, MainPoint.inDone] at unknown rounds
      refine ⟨account, fun unregistered => ?_, ?_⟩
      · have nothing := unknown unregistered
        omega
      · simp only [MainPoint.inDone]
        omega
  | postNext here => exact holds.postJob registered here

theorem jobs_only_start {label : ChainLabel tNumber} (move : ChainMove state label next)
    (none : state.queue = 0) : next.jobs = state.jobs := by
  cases move with
  | startJob thread queue here queued serves => omega
  | _ => simp [ChainState.add, ChainState.goTo, ChainState.workFinished]

theorem lost_is_first {label : ChainLabel tNumber} (holds : ChainInvariant state)
    (move : ChainMove state label next) (gone : next.tokens = 0) : next.jobs = 0 := by
  obtain same | ⟨less, id, posts, unknown⟩ := tokens_step holds.threads move
  · have before := same.symm.trans gone
    have none : state.queue = 0 := by
      unfold ChainState.tokens at before
      omega
    exact (jobs_only_start move none).trans (holds.lost before)
  · cases id with
    | db =>
        have nothing := holds.counts.unknown (holds.registered.db.symm.trans unknown)
        have same := jobs_only_start move (by omega)
        omega
    | ui =>
        cases move with
        | postDone thread here =>
            rw [ui_is_known holds.registered holds.oneToken here] at unknown
            cases unknown
        | _ => cases posts

theorem ChainInvariant.step {label : ChainLabel tNumber} (holds : ChainInvariant state)
    (move : ChainMove state label next) : ChainInvariant next where
  registered := holds.registered.step move
  threads := holds.threads.step holds.registered move
  counts := holds.counts.step holds.registered holds.threads holds.oneToken move
  oneToken := (tokens_never_grow holds.threads move).trans holds.oneToken
  lost := lost_is_first holds move

theorem chain_invariant (reached : Reachable (chainSystem tNumber) anyStep state) :
    ChainInvariant state :=
  reached.keeps (fun _ begins => begins ▸ chain_initial_invariant)
    fun _ _ _ holds _ taken => holds.step (chain_step_move taken)

end Schedulers.QtExecutors
