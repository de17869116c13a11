import Schedulers.Threading.ExecutorsSteps

/-!
# The callers of a stopped executor

A job that is queued when its `io_service` is stopped is never run, and is destroyed
with the `io_service`. Its packaged task is not: the frame of `executors::post` owns
it too, and waits. So the promise is never broken and the caller waits for good. If
each `io_service` is stopped while no job is queued in it, no caller is left behind.
-/

namespace Schedulers.Threading

open Schedulers.TransitionSystem

set_option autoImplicit false

variable {Thread Executor : Type}

def LeftBehind (state : ExecutorsState Thread Executor) : Prop :=
  ∃ caller index, Waiting caller index state ∧ (state.executor index).lifetime = .destroyed

/-- `terminate_all` stops no `io_service` in which a job is queued. -/
def StopsWhenDrained : Permission (ExecutorsState Thread Executor) (ExecutorsLabel Thread Executor)
  | .stopNext thread, state =>
      ∀ index left, state.thread thread = .stopping (index :: left) →
        (state.executor index).lifetime = .held → (state.executor index).queue = []
  | _, _ => True

/-- A job that is not finished stands in one place, and its caller waits for it. -/
structure Placed (state : ExecutorsState Thread Executor) : Prop where
  once : ∀ index, (state.executor index).jobs.Nodup
  waiting : ∀ index, ∀ job ∈ (state.executor index).jobs, Waiting job index state
  posting : ∀ caller id, state.thread caller = .posting id → state.future caller = .pending

theorem Placed.place {state : ExecutorsState Thread Executor} {caller : Thread}
    {index other : Executor} (given : Placed state) (waits : Waiting caller index state)
    (listed : caller ∈ (state.executor other).jobs) : other = index := by
  have there := (given.waiting other caller listed).1
  rw [waits.1] at there
  cases there
  rfl

/-- Whoever stops the executors holds the mutex, and while nobody holds it no
registered executor is stopped. -/
structure Guarded (state : ExecutorsState Thread Executor) : Prop where
  stopping : ∀ thread left, state.thread thread = .stopping left → state.mutex = some thread
  registered : state.mutex = none → ∀ entry ∈ state.registry,
    (state.executor entry.2).stopped = false

theorem guarded_start (registry : List (Int × Executor)) :
    Guarded (ExecutorsState.start registry : ExecutorsState Thread Executor) where
  stopping _ _ stands := nomatch stands
  registered _ _ _ := rfl

/-- An executor that has been stopped with nothing left to start. -/
structure AsioExecutor.Drained (executor : AsioExecutor Thread) : Prop where
  stopped : executor.stopped = true → executor.queue = []
  exited : executor.runner = .exited → executor.stopped = true
  destroyed : executor.lifetime = .destroyed → executor.runner = .exited

theorem AsioExecutor.Drained.no_jobs {executor : AsioExecutor Thread} (given : executor.Drained)
    (exited : executor.runner = .exited) : executor.jobs = [] := by
  unfold AsioExecutor.jobs
  rw [exited]
  exact given.stopped (given.exited exited)

structure AsioExecutor.WillNotRun (job : Thread) (executor : AsioExecutor Thread) : Prop where
  stopped : executor.stopped = true
  unstarted : executor.runner ≠ .running job

section Steps

variable [DecidableEq Thread] [DecidableEq Executor]

variable {registry : List (Int × Executor)} {state next : ExecutorsState Thread Executor}
  {label : ExecutorsLabel Thread Executor}

theorem jobs_once_step (given : Placed state) (effect : StepEffect state label next)
    (index : Executor) : (next.executor index).jobs.Nodup := by
  rcases effect_jobs effect index with ⟨same, _⟩ | ⟨caller, id, _, point, _, _, appended⟩ |
    ⟨job, _, _, _, removed⟩ | ⟨thread, _, _, dropped⟩
  · rw [same]
    exact given.once index
  · have absent : caller ∉ (state.executor index).jobs := by
      intro listed
      have there := (given.waiting index caller listed).1
      rw [point] at there
      cases there
    rw [appended, List.nodup_append]
    refine ⟨given.once index, by simp, fun job listed other alone => ?_⟩
    rw [List.mem_singleton.mp alone]
    intro same
    exact absent (same ▸ listed)
  · have before := given.once index
    rw [removed] at before
    exact (List.nodup_cons.mp before).2
  · rw [dropped]
    exact List.nodup_nil

theorem jobs_waiting_step (given : Placed state) (effect : StepEffect state label next)
    {index : Executor} {job : Thread} (listed : job ∈ (next.executor index).jobs) :
    Waiting job index next := by
  rcases effect_jobs effect index with ⟨same, otherwise, _⟩ |
    ⟨caller, id, posted, point, waits, kept, appended⟩ | ⟨finished, label, runs, _, removed⟩ |
    ⟨thread, _, _, dropped⟩
  · rw [same] at listed
    apply effect_keeps_waiting effect (given.waiting index job listed)
    intro other finishes runs
    have elsewhere : job ∈ (state.executor other).jobs := running_listed runs
    have place := given.place (given.waiting index job listed) elsewhere
    exact otherwise (place ▸ finishes)
  · rw [appended] at listed
    rcases List.mem_append.mp listed with earlier | last
    · apply effect_keeps_waiting effect (given.waiting index job earlier)
      intro other finishes
      rw [posted] at finishes
      cases finishes
    · rw [List.mem_singleton.mp last]
      refine ⟨waits, ?_⟩
      rw [kept]
      exact given.posting caller id point
  · have before := given.once index
    rw [removed, List.nodup_cons] at before
    have earlier : job ∈ (state.executor index).jobs := by
      rw [removed]
      exact List.mem_cons_of_mem _ listed
    apply effect_keeps_waiting effect (given.waiting index job earlier)
    intro other finishes runsIt
    rw [label] at finishes
    cases finishes
    rw [runs] at runsIt
    cases runsIt
    exact before.1 listed
  · rw [dropped] at listed
    cases listed

theorem posting_step (given : Placed state) (effect : StepEffect state label next)
    {caller : Thread} {id : Int} (stands : next.thread caller = .posting id) :
    next.future caller = .pending := by
  cases effect with
  | posted thread other =>
      by_cases same : caller = thread
      · rw [same]
        exact Function.update_self ..
      · refine (Function.update_of_ne same _ _).trans (given.posting caller id ?_)
        exact (go_to_other state same _).symm.trans stands
  | queued thread other => exact given.posting caller id (before_go_to (by simp) stands)
  | threw thread other => exact given.posting caller id (before_go_to (by simp) stands)
  | got thread => exact given.posting caller id (before_go_to (by simp) stands)
  | locked thread => exact given.posting caller id (before_go_to (by simp) stands)
  | cleared thread => exact given.posting caller id (before_go_to (by simp) stands)
  | stopped thread => exact given.posting caller id (before_go_to (by simp) stands)
  | skipped thread => exact given.posting caller id (before_go_to (by simp) stands)
  | released thread => exact given.posting caller id (before_go_to (by simp) stands)
  | destroyed thread other =>
      have stood : state.thread caller = .posting id := before_go_to (by simp) stands
      simp [stood, CallerPoint.ownsTask, given.posting caller id stood]
  | started other => exact given.posting caller id stands
  | finished other job runs =>
      have listed : job ∈ (state.executor other).jobs := running_listed runs
      have different : caller ≠ job := by
        intro same
        have waits := (given.waiting other job listed).1
        rw [← same] at waits
        cases waits.symm.trans stands
      exact (Function.update_of_ne different _ _).trans (given.posting caller id stands)
  | exited other => exact given.posting caller id stands

theorem placed_step (given : Placed state) (effect : StepEffect state label next) :
    Placed next where
  once := jobs_once_step given effect
  waiting _ _ := jobs_waiting_step given effect
  posting _ _ := posting_step given effect

omit [DecidableEq Executor] in
theorem guarded_round (given : Guarded state) {thread : Thread} {index : Executor}
    {left : List Executor} (point : state.thread thread = .stopping (index :: left))
    (mutex : next.mutex = state.mutex)
    (moved : next.thread = (state.goTo thread (.stopping left)).thread) : Guarded next := by
  have owner : next.mutex = some thread := mutex.trans (given.stopping thread _ point)
  constructor
  · intro other rest stands
    by_cases same : other = thread
    · rw [same]
      exact owner
    · rw [moved, go_to_other state same] at stands
      exact mutex.trans (given.stopping other rest stands)
  · intro free
    cases owner.symm.trans free

theorem guarded_step (given : Guarded state) (effect : StepEffect state label next) :
    Guarded next := by
  by_cases outer : (∀ thread, label ≠ .terminateAll thread) ∧ ∀ thread, label ≠ .stopNext thread
  · obtain ⟨mutex, registered, flags⟩ := effect_unguarded effect outer.1 outer.2
    constructor
    · intro thread left stands
      rw [mutex]
      exact given.stopping thread left
        (stopping_before effect (outer.2 thread) (outer.1 thread) stands)
    · intro free entry listed
      rw [mutex] at free
      rw [registered] at listed
      rw [flags]
      exact given.registered free entry listed
  · cases effect with
    | locked thread point free =>
        refine ⟨fun other left stands => ?_, fun unlocked => by simp at unlocked⟩
        by_cases same : other = thread
        · rw [same]
        · have stood := given.stopping other left ((go_to_other state same _).symm.trans stands)
          rw [free] at stood
          cases stood
    | cleared thread point =>
        refine ⟨fun other left stands => ?_, fun _ entry listed => by cases listed⟩
        have stood : state.thread other = .stopping left := before_go_to (by simp) stands
        have owner := (given.stopping other left stood).symm.trans (given.stopping thread [] point)
        rw [Option.some.inj owner] at stands
        cases (go_to_self state thread .outside).symm.trans stands
    | stopped thread index left point => exact guarded_round given point rfl rfl
    | skipped thread index left point => exact guarded_round given point rfl rfl
    | _ => exact absurd ⟨by simp, by simp⟩ outer

theorem drained_step (guarded : Guarded state)
    (given : ∀ index, (state.executor index).Drained) (allowed : StopsWhenDrained label state)
    (effect : StepEffect state label next) : ∀ index, (next.executor index).Drained := by
  cases effect with
  | posted caller id => exact given
  | queued caller id other point free found held =>
      apply set_executor_all given
      constructor
      · obtain ⟨before, after, split, _⟩ := List.lookup_eq_some_iff.mp found
        intro stop
        have going := guarded.registered free (id, other) (by simp [split])
        cases going.symm.trans stop
      · exact (given other).exited
      · exact (given other).destroyed
  | threw caller id => exact given
  | got caller other => exact given
  | locked thread => exact given
  | cleared thread => exact given
  | stopped thread other left point held =>
      apply set_executor_all given
      constructor
      · intro _
        exact allowed other left point held
      · exact fun _ => rfl
      · exact (given other).destroyed
  | skipped thread other left => exact given
  | released thread other =>
      apply set_executor_all given
      constructor
      · exact (given other).stopped
      · exact (given other).exited
      · exact fun gone => nomatch gone
  | destroyed thread other point exited =>
      apply set_executor_all given
      constructor
      · exact fun _ => rfl
      · exact (given other).exited
      · exact fun _ => exited
  | started other job rest idle content going =>
      apply set_executor_all given
      constructor
      · intro stop
        cases going.symm.trans stop
      · exact fun exited => nomatch exited
      · intro gone
        cases idle.symm.trans ((given other).destroyed gone)
  | finished other job runs =>
      apply set_executor_all given
      constructor
      · exact (given other).stopped
      · exact fun exited => nomatch exited
      · intro gone
        cases runs.symm.trans ((given other).destroyed gone)
  | exited other idle stop =>
      apply set_executor_all given
      constructor
      · exact (given other).stopped
      · exact fun _ => stop
      · exact fun _ => rfl

theorem served_step (drained : ∀ index, (state.executor index).Drained)
    (given : ∀ caller index, Waiting caller index state → caller ∈ (state.executor index).jobs)
    (effect : StepEffect state label next) {caller : Thread} {index : Executor}
    (waits : Waiting caller index next) : caller ∈ (next.executor index).jobs := by
  rcases effect_jobs effect index with ⟨same, _, nobody⟩ |
    ⟨poster, id, posted, _, _, _, appended⟩ | ⟨job, finished, _, ready, removed⟩ |
    ⟨thread, destroyed, exited, _⟩
  · rw [same]
    apply given
    apply effect_waiting_before effect waits
    intro posts
    exact nobody caller posts waits.1
  · rw [appended, List.mem_append]
    by_cases same : caller = poster
    · right
      rw [same]
      exact List.mem_singleton_self poster
    · left
      apply given
      apply effect_waiting_before effect waits
      rw [posted]
      intro posts
      cases posts
      exact same rfl
  · have before := given caller index (effect_waiting_before effect waits (by simp [finished]))
    rw [removed] at before
    rcases List.mem_cons.mp before with same | listed
    · have pending := waits.2
      rw [same, ready] at pending
      cases pending
    · exact listed
  · have before := given caller index (effect_waiting_before effect waits (by simp [destroyed]))
    rw [(drained index).no_jobs exited] at before
    cases before

theorem will_not_run_step {job : Thread} {index : Executor}
    (given : (state.executor index).WillNotRun job) (effect : StepEffect state label next) :
    (next.executor index).WillNotRun job := by
  cases effect with
  | posted caller id => exact given
  | queued caller id other =>
      apply set_executor_at given
      intro here
      subst here
      exact ⟨given.stopped, given.unstarted⟩
  | threw caller id => exact given
  | got caller other => exact given
  | locked thread => exact given
  | cleared thread => exact given
  | stopped thread other left =>
      apply set_executor_at given
      intro here
      subst here
      exact ⟨rfl, given.unstarted⟩
  | skipped thread other left => exact given
  | released thread other =>
      apply set_executor_at given
      intro here
      subst here
      exact ⟨given.stopped, given.unstarted⟩
  | destroyed thread other =>
      apply set_executor_at given
      intro here
      subst here
      exact ⟨given.stopped, given.unstarted⟩
  | started other first rest idle content going =>
      apply set_executor_at given
      intro here
      subst here
      cases going.symm.trans given.stopped
  | finished other done =>
      apply set_executor_at given
      intro here
      subst here
      exact ⟨given.stopped, fun runs => nomatch runs⟩
  | exited other =>
      apply set_executor_at given
      intro here
      subst here
      exact ⟨given.stopped, fun runs => nomatch runs⟩

/-- The caller waits for a job that will not be run. -/
structure Doomed (caller : Thread) (index : Executor) (state : ExecutorsState Thread Executor) :
    Prop where
  waiting : Waiting caller index state
  unrun : (state.executor index).WillNotRun caller

theorem doomed_step {caller : Thread} {index : Executor} (placed : Placed state)
    (given : Doomed caller index state) (effect : StepEffect state label next) :
    Doomed caller index next := by
  constructor
  · apply effect_keeps_waiting effect given.waiting
    intro other _ runs
    have listed : caller ∈ (state.executor other).jobs := running_listed runs
    rw [placed.place given.waiting listed] at runs
    exact given.unrun.unstarted runs
  · exact will_not_run_step given.unrun effect

variable {permitted : Permission (ExecutorsState Thread Executor) (ExecutorsLabel Thread Executor)}

theorem placed_reachable (reached : Reachable (executorsSystem registry) permitted state) :
    Placed state := by
  apply reached.keeps
  · intro start same
    subst same
    constructor
    · exact fun _ => List.nodup_nil
    · exact fun _ _ listed => nomatch listed
    · exact fun _ _ _ => rfl
  · exact fun label before after given _ taken => placed_step given (step_effect taken)

structure Served (state : ExecutorsState Thread Executor) : Prop where
  guarded : Guarded state
  drained : ∀ index, (state.executor index).Drained
  listed : ∀ caller index, Waiting caller index state → caller ∈ (state.executor index).jobs

theorem served_reachable
    (reached : Reachable (executorsSystem registry) StopsWhenDrained state) : Served state := by
  apply reached.keeps
  · intro start same
    subst same
    constructor
    · exact guarded_start registry
    · intro index
      constructor
      · exact fun _ => rfl
      · exact fun exited => nomatch exited
      · exact fun gone => nomatch gone
    · exact fun _ _ waits => nomatch waits.1
  · intro label before after given allowed taken
    have effect := step_effect taken
    constructor
    · exact guarded_step given.guarded effect
    · exact drained_step given.guarded given.drained allowed effect
    · intro caller index
      exact served_step given.drained given.listed effect

theorem doomed_for_good {caller : Thread} {index : Executor}
    {later : ExecutorsState Thread Executor} (placed : Placed state)
    (doomed : Doomed caller index state)
    (run : Run (executorsSystem registry) permitted state later) : Doomed caller index later := by
  have both : Placed later ∧ Doomed caller index later := by
    apply run.keeps _ (And.intro placed doomed)
    intro label before after given _ taken
    have effect := step_effect taken
    exact ⟨placed_step given.1 effect, doomed_step given.1 given.2 effect⟩
  exact both.2

theorem early_stop_dooms (placed : Placed state) (early : ¬StopsWhenDrained label state)
    (effect : StepEffect state label next) : ∃ caller index, Doomed caller index next := by
  have keeps (caller : Thread) (index : Executor) (waits : Waiting caller index state)
      (unfinished : ∀ other, label ≠ .finishJob other) : Waiting caller index next :=
    effect_keeps_waiting effect waits (fun other finishes => absurd finishes (unfinished other))
  cases effect with
  | stopped thread index left point held =>
      cases content : (state.executor index).queue with
      | nil =>
          exfalso
          apply early
          intro other rest stands _
          rw [point] at stands
          cases stands
          exact content
      | cons caller rest =>
          have once := placed.once index
          have listed : caller ∈ (state.executor index).jobs := by
            unfold AsioExecutor.jobs
            split <;> simp [content]
          refine ⟨caller, index, keeps _ _ (placed.waiting index caller listed) (by simp), ?_⟩
          rw [set_executor_self]
          refine ⟨rfl, fun runs => ?_⟩
          change (state.executor index).runner = .running caller at runs
          rw [running_jobs runs, content] at once
          simp at once
  | skipped thread index left point gone =>
      exfalso
      apply early
      intro other rest stands held
      rw [point] at stands
      cases stands
      exact absurd held gone
  | cleared thread point =>
      exfalso
      apply early
      intro other rest stands
      rw [point] at stands
      cases stands
  | _ => exact absurd trivial early

/-- In every run in which each `io_service` is stopped while no job is queued in it no
caller is left behind, and a step that does not meet this condition leaves a caller
waiting in every later state. -/
theorem no_caller_left_behind_when_drained (registry : List (Int × Executor))
    (state : ExecutorsState Thread Executor)
    (reached : Reachable (executorsSystem registry) StopsWhenDrained state) :
    ¬LeftBehind state ∧
    ∀ label next, (executorsSystem registry).step label state = some next →
      ¬StopsWhenDrained label state →
      ∃ caller index, ∀ later, Run (executorsSystem registry) anyStep next later →
        Waiting caller index later := by
  constructor
  · intro ⟨caller, index, waits, gone⟩
    have served := served_reachable reached
    have listed := served.listed caller index waits
    rw [(served.drained index).no_jobs ((served.drained index).destroyed gone)] at listed
    cases listed
  · intro label next taken early
    have placed := placed_reachable reached
    have effect := step_effect taken
    obtain ⟨caller, index, doomed⟩ := early_stop_dooms placed early effect
    refine ⟨caller, index, fun later run => ?_⟩
    exact (doomed_for_good (placed_step placed effect) doomed run).waiting

end Steps

/-- The job is being run when the executor is stopped; its caller gets the value and
the executor is destroyed after that. -/
theorem no_caller_left_behind_job_started :
    ∃ state : ExecutorsState (Fin 2) Unit, (state.executor ()).lifetime = .destroyed ∧
      state.thread 0 = .outside ∧ state.future 0 = .value ∧ ¬LeftBehind state := by
  let system : System (ExecutorsState (Fin 2) Unit) (ExecutorsLabel (Fin 2) Unit) :=
    executorsSystem [((0 : Int), ())]
  let initial : ExecutorsState (Fin 2) Unit := .start [((0 : Int), ())]
  have posted : Run system StopsWhenDrained initial _ :=
    .tail (.post 0 0) (.refl initial) trivial rfl
  have queued : Run system StopsWhenDrained initial _ := .tail (.postTask 0) posted trivial rfl
  have started : Run system StopsWhenDrained initial _ := .tail (.startJob ()) queued trivial rfl
  have locked : Run system StopsWhenDrained initial _ :=
    .tail (.terminateAll 1) started trivial rfl
  have stopped : Run system StopsWhenDrained initial _ :=
    .tail (.stopNext 1) locked (fun _ _ _ _ => rfl) rfl
  have cleared : Run system StopsWhenDrained initial _ :=
    .tail (.stopNext 1) stopped (fun _ _ stands => nomatch stands) rfl
  have finished : Run system StopsWhenDrained initial _ :=
    .tail (.finishJob ()) cleared trivial rfl
  have answered : Run system StopsWhenDrained initial _ := .tail (.get 0) finished trivial rfl
  have exited : Run system StopsWhenDrained initial _ :=
    .tail (.exitRunner ()) answered trivial rfl
  have released : Run system StopsWhenDrained initial _ :=
    .tail (.release 1 ()) exited trivial rfl
  have destroyed : Run system StopsWhenDrained initial _ :=
    .tail (.destroy 1) released trivial rfl
  exact ⟨_, rfl, rfl, rfl, (no_caller_left_behind_when_drained _ _ ⟨_, rfl, destroyed⟩).1⟩

/-- A job is queued, the executor is stopped before it starts the job, joined and
destroyed, and the caller waits for its future. -/
theorem stop_with_queued_job_leaves_caller_behind :
    ¬∀ state : ExecutorsState (Fin 2) Unit,
      Reachable (executorsSystem [((0 : Int), ())]) anyStep state → ¬LeftBehind state := by
  intro always
  let labels : List (ExecutorsLabel (Fin 2) Unit) :=
    [.post 0 0, .postTask 0, .terminateAll 1, .stopNext 1, .stopNext 1, .exitRunner (),
      .release 1 (), .destroy 1]
  obtain ⟨state, reached, waits, gone⟩ : ∃ state : ExecutorsState (Fin 2) Unit,
      Reachable (executorsSystem [((0 : Int), ())]) anyStep state ∧
      (state.thread 0 = .waiting () ∧ state.future 0 = .pending) ∧
      (state.executor ()).lifetime = .destroyed :=
    schedule_reaches labels rfl (by decide)
  exact always state reached ⟨0, (), waits, gone⟩

end Schedulers.Threading
