import Schedulers.Actors.AsioThreadPool

/-!
# The shutdown of the thread pool

The destructor stops the service before it joins the workers, so what is still with the
handlers at that moment is never run. Unless a job that was promised is among them, all
promised jobs have been executed when the destructor returns.
-/

namespace Schedulers.Actors

open Schedulers.TransitionSystem

set_option autoImplicit false

variable {countWorkers : Nat} {state after : PoolState countWorkers}

theorem pool_step_cases {label : PoolLabel countWorkers}
    (taken : poolStep label state = some after) :
    (label = .add ∧ state.destructor ≠ .returned ∧ after = state.add) ∨
    (∃ index, label = .poll index ∧ state.worker index = .polling ∧ state.stopped = true ∧
      after = state.setWorker index .exited) ∨
    (∃ index job rest, label = .poll index ∧ state.worker index = .polling ∧
      state.stopped = false ∧ state.handlers = job :: rest ∧
      after = { state.setWorker index (.running job) with handlers := rest }) ∨
    (∃ index job, label = .finish index ∧ state.worker index = .running job ∧
      after = { state.setWorker index .polling with executed := state.executed ++ [job] }) ∨
    (label = .enterDestructor ∧ state.destructor = .notEntered ∧
      after = { state with destructor := .entered }) ∨
    (label = .stop ∧ state.destructor = .entered ∧
      after = { state with stopped := true, destructor := .joining }) ∨
    (label = .joinAll ∧ (state.destructor = .joining ∧ ∀ index, state.worker index = .exited) ∧
      after = { state with destructor := .returned }) := by
  cases label with
  | add =>
      simp only [poolStep] at taken
      split_ifs at taken with gone
      exact .inl ⟨rfl, gone, (Option.some.inj taken).symm⟩
  | poll index =>
      simp only [poolStep, pollStep] at taken
      cases point : state.worker index with
      | polling =>
          simp only [point] at taken
          split_ifs at taken with stopped
          · exact .inr (.inl ⟨index, rfl, point, stopped, (Option.some.inj taken).symm⟩)
          · cases contents : state.handlers with
            | nil => simp [contents] at taken
            | cons job rest =>
                simp only [contents, Option.some.injEq] at taken
                exact .inr (.inr (.inl ⟨index, job, rest, rfl, point, by simpa using stopped, rfl,
                  taken.symm⟩))
      | running job => simp [point] at taken
      | exited => simp [point] at taken
  | finish index =>
      simp only [poolStep, finishStep] at taken
      cases point : state.worker index with
      | running job =>
          simp only [point, Option.some.injEq] at taken
          exact .inr (.inr (.inr (.inl ⟨index, job, rfl, point, taken.symm⟩)))
      | polling => simp [point] at taken
      | exited => simp [point] at taken
  | enterDestructor =>
      simp only [poolStep] at taken
      split_ifs at taken with outside
      exact .inr (.inr (.inr (.inr (.inl ⟨rfl, outside, (Option.some.inj taken).symm⟩))))
  | stop =>
      simp only [poolStep] at taken
      split_ifs at taken with entered
      exact .inr (.inr (.inr (.inr (.inr (.inl ⟨rfl, entered, (Option.some.inj taken).symm⟩)))))
  | joinAll =>
      simp only [poolStep] at taken
      split_ifs at taken with ready
      exact .inr (.inr (.inr (.inr (.inr (.inr ⟨rfl, ready, (Option.some.inj taken).symm⟩)))))

theorem jobs_accounted_step {label : PoolLabel countWorkers} (given : JobsAccounted state)
    (taken : poolStep label state = some after) : JobsAccounted after := by
  rcases pool_step_cases taken with ⟨_, _, rfl⟩ | ⟨index, _, polls, _, rfl⟩ |
    ⟨index, job, rest, _, polls, _, contents, rfl⟩ | ⟨index, job, _, runs, rfl⟩ | ⟨_, _, rfl⟩ |
    ⟨_, _, rfl⟩ | ⟨_, _, rfl⟩
  · exact accounted_add given
  · exact accounted_exit polls given
  · exact accounted_start_job polls contents given
  · exact accounted_finish runs given
  · exact ⟨given.placed, given.handlersOnce, given.executedOnce, given.unstarted, given.running⟩
  · exact ⟨given.placed, given.handlersOnce, given.executedOnce, given.unstarted, given.running⟩
  · exact ⟨given.placed, given.handlersOnce, given.executedOnce, given.unstarted, given.running⟩

theorem destructor_order_step {label : PoolLabel countWorkers} (given : DestructorOrder state)
    (taken : poolStep label state = some after) : DestructorOrder after := by
  have promised := given.promised
  have stops := given.stopped
  have notReturned (index : Fin countWorkers) (point : WorkerPoint)
      (here : state.worker index = point) (busy : point ≠ .exited) :
      state.destructor ≠ .returned := by
    intro gone
    rw [← here] at busy
    exact busy (given.returned gone index)
  rcases pool_step_cases taken with ⟨_, present, rfl⟩ | ⟨index, _, polls, _, rfl⟩ |
    ⟨index, job, rest, _, polls, _, _, rfl⟩ | ⟨index, job, _, runs, rfl⟩ | ⟨_, outside, rfl⟩ |
    ⟨_, entered, rfl⟩ | ⟨_, ready, rfl⟩
  · refine ⟨?_, stops, fun gone => absurd gone present⟩
    dsimp only [PoolState.add]
    split_ifs
    · exact Nat.le_refl _
    · exact Nat.le_succ_of_le promised
  · exact ⟨promised, stops, fun gone => absurd gone (notReturned index _ polls (by simp))⟩
  · exact ⟨promised, stops, fun gone => absurd gone (notReturned index _ polls (by simp))⟩
  · exact ⟨promised, stops, fun gone => absurd gone (notReturned index _ runs (by simp))⟩
  · refine ⟨promised, ?_, fun gone => by cases gone⟩
    simpa [outside] using stops
  · exact ⟨promised, by simp, fun gone => by cases gone⟩
  · refine ⟨promised, ?_, fun _ => ready.2⟩
    simpa [ready.1] using stops

structure PoolInvariant (state : PoolState countWorkers) : Prop where
  jobs : JobsAccounted state
  order : DestructorOrder state

theorem pool_invariant_step (label : PoolLabel countWorkers)
    (before after : PoolState countWorkers) (given : PoolInvariant before)
    (taken : poolStep label before = some after) : PoolInvariant after where
  jobs := jobs_accounted_step given.jobs taken
  order := destructor_order_step given.order taken

theorem pool_invariant_at_start : PoolInvariant (.start countWorkers) where
  jobs := by constructor <;> simp [PoolState.start]
  order := by constructor <;> simp [PoolState.start]

def NoBacklog (state : PoolState countWorkers) : Prop :=
  state.stopped = true → ∀ job ∈ state.handlers, state.promised ≤ job

theorem no_backlog_step {label : PoolLabel countWorkers} (order : DestructorOrder state)
    (given : NoBacklog state) (allowed : StopFindsNoBacklog label state)
    (taken : poolStep label state = some after) : NoBacklog after := by
  rcases pool_step_cases taken with ⟨_, _, rfl⟩ | ⟨index, _, _, _, rfl⟩ |
    ⟨index, job, rest, _, _, _, contents, rfl⟩ | ⟨index, job, _, _, rfl⟩ | ⟨_, _, rfl⟩ |
    ⟨rfl, _, rfl⟩ | ⟨_, _, rfl⟩
  · intro stopped job member
    have inside : state.destructor ≠ .notEntered := by
      rcases order.stopped.mp stopped with joining | returned
      · simp [joining]
      · simp [returned]
    dsimp only [PoolState.add] at member ⊢
    rw [if_neg inside]
    rcases List.mem_append.mp member with old | new
    · exact given stopped job old
    · rw [List.mem_singleton.mp new]
      exact order.promised
  · exact given
  · intro stopped other member
    apply given stopped other
    rw [contents]
    exact List.mem_cons_of_mem job member
  · exact given
  · exact given
  · exact fun _ => allowed
  · exact given

theorem promised_executed (given : PoolInvariant state) (clear : NoBacklog state)
    (returned : state.destructor = .returned) (job : Nat) (promised : job < state.promised) :
    state.executed.count job = 1 := by
  have stopped := given.order.stopped.mpr (.inr returned)
  have posted := Nat.lt_of_lt_of_le promised given.order.promised
  rcases (given.jobs.placed job).mp posted with waits | ⟨index, runs⟩ | executed
  · exact absurd (clear stopped job waits) (Nat.not_le.mpr promised)
  · rw [given.order.returned returned index] at runs
    cases runs
  · exact List.count_eq_one_of_mem given.jobs.executedOnce executed

structure Dropped (job : Nat) (state : PoolState countWorkers) : Prop where
  invariant : PoolInvariant state
  stopped : state.stopped = true
  waits : job ∈ state.handlers
  promised : job < state.promised

theorem dropped_step {job : Nat} (label : PoolLabel countWorkers)
    (before after : PoolState countWorkers) (given : Dropped job before) (_ : anyStep label before)
    (taken : poolStep label before = some after) : Dropped job after := by
  have invariant := pool_invariant_step label before after given.invariant taken
  have stopped := given.stopped
  have waits := given.waits
  have promised := given.promised
  rcases pool_step_cases taken with ⟨_, _, rfl⟩ | ⟨index, _, _, _, rfl⟩ |
    ⟨index, first, rest, _, _, running, _, rfl⟩ | ⟨index, other, _, _, rfl⟩ | ⟨_, _, rfl⟩ |
    ⟨_, _, rfl⟩ | ⟨_, _, rfl⟩
  · refine ⟨invariant, stopped, List.mem_append_left _ waits, ?_⟩
    dsimp only [PoolState.add]
    split_ifs
    · exact Nat.lt_succ_of_lt (Nat.lt_of_lt_of_le promised given.invariant.order.promised)
    · exact promised
  · exact ⟨invariant, stopped, waits, promised⟩
  · rw [running] at stopped
    cases stopped
  · exact ⟨invariant, stopped, waits, promised⟩
  · exact ⟨invariant, stopped, waits, promised⟩
  · exact ⟨invariant, rfl, waits, promised⟩
  · exact ⟨invariant, stopped, waits, promised⟩

/-- A stopped service lets each worker go, and leaves the others and the destructor as
they are. -/
theorem worker_exits (index : Fin countWorkers) (stopped : state.stopped = true) :
    ∃ later, Run (poolSystem countWorkers) anyStep state later ∧ later.stopped = true ∧
      later.destructor = state.destructor ∧ later.worker index = .exited ∧
      ∀ other, other ≠ index → later.worker other = state.worker other := by
  have polled (from_ : PoolState countWorkers) (polls : from_.worker index = .polling)
      (halted : from_.stopped = true) :
      poolStep (.poll index) from_ = some (from_.setWorker index .exited) := by
    simp [poolStep, pollStep, polls, halted]
  cases point : state.worker index with
  | polling =>
      refine ⟨_, Run.single (.poll index) trivial (polled state point stopped), stopped, rfl,
        ?_, ?_⟩
      · simp [PoolState.setWorker]
      · intro other different
        simp [PoolState.setWorker, different]
  | running job =>
      let idle : PoolState countWorkers :=
        { state.setWorker index .polling with executed := state.executed ++ [job] }
      have finished : poolStep (.finish index) state = some idle := by
        simp [poolStep, finishStep, point, idle]
      have polls : idle.worker index = .polling := by simp [idle, PoolState.setWorker]
      have first : Run (poolSystem countWorkers) anyStep state idle :=
        Run.single (.finish index) trivial finished
      refine ⟨_, first.tail (.poll index) trivial (polled idle polls stopped), stopped, rfl, ?_, ?_⟩
      · simp [PoolState.setWorker]
      · intro other different
        simp [PoolState.setWorker, different, idle]
  | exited => exact ⟨state, .refl state, stopped, rfl, point, fun _ _ => rfl⟩

theorem workers_exit (indices : List (Fin countWorkers)) (stopped : state.stopped = true) :
    ∃ later, Run (poolSystem countWorkers) anyStep state later ∧
      later.destructor = state.destructor ∧ (∀ index ∈ indices, later.worker index = .exited) ∧
      ∀ index, state.worker index = .exited → later.worker index = .exited := by
  induction indices generalizing state with
  | nil => exact ⟨state, .refl state, rfl, by simp, fun _ exited => exited⟩
  | cons index indices ih =>
      obtain ⟨middle, first, halted, same, exited, others⟩ := worker_exits index stopped
      obtain ⟨later, second, still, all, kept⟩ := ih halted
      refine ⟨later, first.trans second, still.trans same, ?_, ?_⟩
      · intro other member
        rcases List.mem_cons.mp member with rfl | inside
        · exact kept other exited
        · exact all other inside
      · intro other gone
        by_cases equal : other = index
        · rw [equal]
          exact kept index exited
        · apply kept other
          rw [others other equal]
          exact gone

theorem destructor_returns (stopped : state.stopped = true)
    (joining : state.destructor = .joining) :
    ∃ later, Run (poolSystem countWorkers) anyStep state later ∧
      later.destructor = .returned := by
  obtain ⟨middle, first, same, exited, _⟩ := workers_exit (List.finRange countWorkers) stopped
  have ready : middle.destructor = .joining ∧ ∀ index, middle.worker index = .exited :=
    ⟨same.trans joining, fun index => exited index (List.mem_finRange index)⟩
  have taken : poolStep .joinAll middle = some { middle with destructor := .returned } := by
    simp [poolStep, ready]
  exact ⟨_, first.tail .joinAll trivial taken, rfl⟩

theorem backlog_is_dropped {label : PoolLabel countWorkers} (given : PoolInvariant state)
    (taken : poolStep label state = some after) (backlog : ¬StopFindsNoBacklog label state) :
    (∃ job, ∀ later, Run (poolSystem countWorkers) anyStep after later →
      job < later.promised ∧ job ∉ later.executed) ∧
    ∃ later, Run (poolSystem countWorkers) anyStep after later ∧
      later.destructor = .returned := by
  have kept := pool_invariant_step label state after given taken
  rcases pool_step_cases taken with ⟨rfl, _⟩ | ⟨index, rfl, _⟩ | ⟨index, job, rest, rfl, _⟩ |
    ⟨index, job, rfl, _⟩ | ⟨rfl, _⟩ | ⟨rfl, entered, rfl⟩ | ⟨rfl, _⟩
  · exact absurd trivial backlog
  · exact absurd trivial backlog
  · exact absurd trivial backlog
  · exact absurd trivial backlog
  · exact absurd trivial backlog
  · obtain ⟨job, waits, promised⟩ : ∃ job, job ∈ state.handlers ∧ job < state.promised := by
      by_contra nobody
      push Not at nobody
      exact backlog nobody
    refine ⟨⟨job, fun later run => ?_⟩, destructor_returns rfl rfl⟩
    have dropped : Dropped job later := run.keeps dropped_step ⟨kept, rfl, waits, promised⟩
    exact ⟨dropped.promised, (dropped.invariant.jobs.unstarted job dropped.waits).1⟩
  · exact absurd trivial backlog

/-- In every run in which the service is never stopped before a promised job that has not
been started, the destructor returns only when each job that was added before it was
entered has been executed exactly once; and a stop that does not meet this condition
leaves a promised job behind for good, and the destructor can return without it. -/
theorem no_promised_job_dropped_without_backlog (countWorkers : Nat)
    (state : PoolState countWorkers)
    (reached : Reachable (poolSystem countWorkers) StopFindsNoBacklog state) :
    (state.destructor = .returned → ∀ job, job < state.promised → state.executed.count job = 1) ∧
    ∀ label next, (poolSystem countWorkers).step label state = some next →
      ¬StopFindsNoBacklog label state →
      (∃ job, ∀ later, Run (poolSystem countWorkers) anyStep next later →
        job < later.promised ∧ job ∉ later.executed) ∧
      ∃ later, Run (poolSystem countWorkers) anyStep next later ∧
        later.destructor = .returned := by
  have given : PoolInvariant state ∧ NoBacklog state := by
    apply reached.keeps
    · intro start begins
      rw [begins]
      exact ⟨pool_invariant_at_start, fun stopped => by cases stopped⟩
    · intro label before after ⟨invariant, clear⟩ allowed taken
      exact ⟨pool_invariant_step label before after invariant taken,
        no_backlog_step invariant.order clear allowed taken⟩
  refine ⟨promised_executed given.1 given.2, ?_⟩
  intro label next taken backlog
  exact backlog_is_dropped given.1 taken backlog

/-- One worker; both jobs have been started when the destructor stops the service. -/
theorem no_promised_job_dropped_without_backlog_two_jobs :
    ∃ state : PoolState 1, state.destructor = .returned ∧ state.promised = 2 ∧
      state.executed.count 1 = 1 := by
  let labels : List (PoolLabel 1) :=
    [.add, .add, .poll 0, .enterDestructor, .finish 0, .poll 0, .stop, .finish 0, .poll 0, .joinAll]
  obtain ⟨state, reached, returned, promised⟩ : ∃ state,
      Reachable (poolSystem 1) StopFindsNoBacklog state ∧
      state.destructor = .returned ∧ state.promised = 2 :=
    schedule_reaches labels rfl (by decide)
  have executed := (no_promised_job_dropped_without_backlog 1 state reached).1 returned 1
  exact ⟨state, returned, promised, executed (by rw [promised]; decide)⟩

/-- One worker runs the first of two jobs when the destructor stops the service. -/
theorem stop_before_second_job_drops_it :
    ¬∀ state : PoolState 1, Reachable (poolSystem 1) anyStep state →
      state.destructor = .returned → ∀ job, job < state.promised →
        state.executed.count job = 1 := by
  intro always
  let labels : List (PoolLabel 1) :=
    [.add, .add, .poll 0, .enterDestructor, .stop, .finish 0, .poll 0, .joinAll]
  obtain ⟨state, reached, returned, promised, executed⟩ : ∃ state,
      Reachable (poolSystem 1) anyStep state ∧
      state.destructor = .returned ∧ state.promised = 2 ∧ state.executed = [0] :=
    schedule_reaches labels rfl (by decide)
  have once := always state reached returned 1 (by rw [promised]; decide)
  rw [executed] at once
  cases once

end Schedulers.Actors
