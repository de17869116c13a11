import Schedulers.Threading.ExecutorsModel

/-!
# What a step of the executors does

Each step is inverted once: `StepEffect` lists the results with what the step found.
The lemmas after it say what a step does to the callers that wait, to the jobs of an
executor, to the mutex and to the flags.
-/

namespace Schedulers.Threading

open Schedulers.TransitionSystem

set_option autoImplicit false

variable {Thread Executor : Type}

def Waiting (caller : Thread) (index : Executor) (state : ExecutorsState Thread Executor) : Prop :=
  state.thread caller = .waiting index ∧ state.future caller = .pending

def AsioExecutor.jobs (executor : AsioExecutor Thread) : List Thread :=
  match executor.runner with
  | .running job => job :: executor.queue
  | _ => executor.queue

theorem jobs_enqueue (executor : AsioExecutor Thread) (job : Thread) :
    AsioExecutor.jobs { executor with queue := executor.queue ++ [job] } =
      executor.jobs ++ [job] := by
  unfold AsioExecutor.jobs
  cases executor.runner <;> rfl

theorem running_jobs {executor : AsioExecutor Thread} {job : Thread}
    (runs : executor.runner = .running job) : executor.jobs = job :: executor.queue := by
  unfold AsioExecutor.jobs
  rw [runs]

theorem running_listed {executor : AsioExecutor Thread} {job : Thread}
    (runs : executor.runner = .running job) : job ∈ executor.jobs := by
  rw [running_jobs runs]
  exact List.mem_cons_self

section Steps

variable [DecidableEq Thread] [DecidableEq Executor]

/-- The results of the steps, with what the step found. -/
inductive StepEffect (state : ExecutorsState Thread Executor) :
    ExecutorsLabel Thread Executor → ExecutorsState Thread Executor → Prop where
  | posted (caller : Thread) (id : Int) (point : state.thread caller = .outside) :
      StepEffect state (.post caller id)
        { state.goTo caller (.posting id) with
          future := Function.update state.future caller .pending }
  | queued (caller : Thread) (id : Int) (index : Executor)
      (point : state.thread caller = .posting id) (free : state.mutex = none)
      (found : state.registry.lookup id = some index)
      (held : (state.executor index).lifetime = .held) :
      StepEffect state (.postTask caller)
        ((state.goTo caller (.waiting index)).setExecutor index
          { state.executor index with queue := (state.executor index).queue ++ [caller] })
  | threw (caller : Thread) (id : Int) (point : state.thread caller = .posting id) :
      StepEffect state (.postTask caller) (state.goTo caller .outside)
  | got (caller : Thread) (index : Executor) (point : state.thread caller = .waiting index)
      (ready : state.future caller ≠ .pending) :
      StepEffect state (.get caller) (state.goTo caller .outside)
  | locked (thread : Thread) (point : state.thread thread = .outside)
      (free : state.mutex = none) :
      StepEffect state (.terminateAll thread)
        { state.goTo thread (.stopping (state.registry.map Prod.snd)) with mutex := some thread }
  | cleared (thread : Thread) (point : state.thread thread = .stopping []) :
      StepEffect state (.stopNext thread)
        { state.goTo thread .outside with registry := [], mutex := none, terminated := true }
  | stopped (thread : Thread) (index : Executor) (left : List Executor)
      (point : state.thread thread = .stopping (index :: left))
      (held : (state.executor index).lifetime = .held) :
      StepEffect state (.stopNext thread)
        ((state.goTo thread (.stopping left)).setExecutor index
          { state.executor index with stopped := true })
  | skipped (thread : Thread) (index : Executor) (left : List Executor)
      (point : state.thread thread = .stopping (index :: left))
      (gone : (state.executor index).lifetime ≠ .held) :
      StepEffect state (.stopNext thread) (state.goTo thread (.stopping left))
  | released (thread : Thread) (index : Executor) (point : state.thread thread = .outside)
      (held : (state.executor index).lifetime = .held) :
      StepEffect state (.release thread index)
        ((state.goTo thread (.releasing index)).setExecutor index
          { state.executor index with lifetime := .released })
  | destroyed (thread : Thread) (index : Executor) (point : state.thread thread = .releasing index)
      (exited : (state.executor index).runner = .exited) :
      StepEffect state (.destroy thread)
        { (state.goTo thread .outside).setExecutor index
            { state.executor index with queue := [], lifetime := .destroyed } with
          future := fun job =>
            if job ∈ (state.executor index).queue ∧ (state.thread job).ownsTask = false ∧
                state.future job = .pending then .brokenPromise
            else state.future job }
  | started (index : Executor) (job : Thread) (rest : List Thread)
      (idle : (state.executor index).runner = .idle)
      (content : (state.executor index).queue = job :: rest)
      (going : (state.executor index).stopped = false) :
      StepEffect state (.startJob index)
        (state.setExecutor index
          { state.executor index with queue := rest, runner := .running job })
  | finished (index : Executor) (job : Thread)
      (runs : (state.executor index).runner = .running job) :
      StepEffect state (.finishJob index)
        { state.setExecutor index { state.executor index with runner := .idle } with
          future := Function.update state.future job .value }
  | exited (index : Executor) (idle : (state.executor index).runner = .idle)
      (stop : (state.executor index).stopped = true) :
      StepEffect state (.exitRunner index)
        (state.setExecutor index { state.executor index with runner := .exited })

variable {registry : List (Int × Executor)} {state next : ExecutorsState Thread Executor}
  {label : ExecutorsLabel Thread Executor}

theorem step_effect (taken : (executorsSystem registry).step label state = some next) :
    StepEffect state label next := by
  cases label with
  | post caller id =>
      change stepPost caller id state = some next at taken
      unfold stepPost at taken
      split at taken <;> cases taken
      exact .posted caller id ‹_›
  | postTask caller =>
      change stepPostTask caller state = some next at taken
      unfold stepPostTask at taken
      split at taken
      case h_1 id point free =>
        split at taken
        case h_1 =>
          cases taken
          exact .threw caller id point
        case h_2 index found =>
          dsimp only at taken
          split_ifs at taken with held <;> cases taken
          · exact .queued caller id index point free found held
          · exact .threw caller id point
      case h_2 => cases taken
  | get caller =>
      change stepGet caller state = some next at taken
      unfold stepGet at taken
      split at taken
      case h_1 => cases taken
      case h_2 index point notPending =>
        cases taken
        exact .got caller index point notPending
      case h_3 => cases taken
  | terminateAll thread =>
      change stepTerminateAll thread state = some next at taken
      unfold stepTerminateAll at taken
      split at taken <;> cases taken
      exact .locked thread ‹_› ‹_›
  | stopNext thread =>
      change stepStopNext thread state = some next at taken
      unfold stepStopNext at taken
      split at taken
      case h_1 point =>
        cases taken
        exact .cleared thread point
      case h_2 index left point =>
        dsimp only at taken
        split_ifs at taken with held <;> cases taken
        · exact .stopped thread index left point held
        · exact .skipped thread index left point held
      case h_3 => cases taken
  | release thread index =>
      change stepRelease thread index state = some next at taken
      unfold stepRelease at taken
      split at taken
      case h_1 point terminated =>
        dsimp only at taken
        split_ifs at taken with held
        cases taken
        exact .released thread index point held
      case h_2 => cases taken
  | destroy thread =>
      change stepDestroy thread state = some next at taken
      unfold stepDestroy at taken
      split at taken
      case h_1 index point =>
        dsimp only at taken
        split_ifs at taken with exited
        cases taken
        exact .destroyed thread index point exited
      case h_2 => cases taken
  | startJob index =>
      change stepStartJob index state = some next at taken
      unfold stepStartJob at taken
      dsimp only at taken
      split at taken <;> cases taken
      exact .started index _ _ ‹_› ‹_› ‹_›
  | finishJob index =>
      change stepFinishJob index state = some next at taken
      unfold stepFinishJob at taken
      dsimp only at taken
      split at taken <;> cases taken
      exact .finished index _ ‹_›
  | exitRunner index =>
      change stepExitRunner index state = some next at taken
      unfold stepExitRunner at taken
      dsimp only at taken
      split at taken <;> cases taken
      exact .exited index ‹_› ‹_›

/-- Only a job that is finished makes a future ready for a caller that waits. -/
theorem effect_keeps_waiting {caller : Thread} {index : Executor}
    (effect : StepEffect state label next) (waits : Waiting caller index state)
    (unfinished : ∀ other, label = .finishJob other →
      (state.executor other).runner ≠ .running caller) :
    Waiting caller index next := by
  obtain ⟨there, pending⟩ := waits
  cases effect with
  | posted thread id point =>
      constructor
      · exact go_to_keeps (by simp [point]) there
      · have different : caller ≠ thread := by
          intro same
          rw [same, point] at there
          cases there
        exact (Function.update_of_ne different _ _).trans pending
  | queued thread id other point => exact ⟨go_to_keeps (by simp [point]) there, pending⟩
  | threw thread id point => exact ⟨go_to_keeps (by simp [point]) there, pending⟩
  | got thread other point ready =>
      have different : caller ≠ thread := by
        intro same
        subst same
        exact ready pending
      exact ⟨(go_to_other state different _).trans there, pending⟩
  | locked thread point => exact ⟨go_to_keeps (by simp [point]) there, pending⟩
  | cleared thread point => exact ⟨go_to_keeps (by simp [point]) there, pending⟩
  | stopped thread other left point => exact ⟨go_to_keeps (by simp [point]) there, pending⟩
  | skipped thread other left point => exact ⟨go_to_keeps (by simp [point]) there, pending⟩
  | released thread other point => exact ⟨go_to_keeps (by simp [point]) there, pending⟩
  | destroyed thread other point =>
      constructor
      · exact go_to_keeps (by simp [point]) there
      · simp [there, CallerPoint.ownsTask, pending]
  | started other job rest => exact ⟨there, pending⟩
  | finished other job runs =>
      have different : caller ≠ job := by
        intro same
        exact unfinished other rfl (same ▸ runs)
      exact ⟨there, (Function.update_of_ne different _ _).trans pending⟩
  | exited other => exact ⟨there, pending⟩

theorem effect_waiting_before {caller : Thread} {index : Executor}
    (effect : StepEffect state label next) (waits : Waiting caller index next)
    (notPosted : label ≠ .postTask caller) : Waiting caller index state := by
  obtain ⟨there, pending⟩ := waits
  cases effect with
  | posted thread id point =>
      have before := before_go_to (by simp) there
      have different : caller ≠ thread := by
        intro same
        rw [same, point] at before
        cases before
      exact ⟨before, (Function.update_of_ne different _ _).symm.trans pending⟩
  | queued thread id other point =>
      have different : caller ≠ thread := by
        intro same
        exact notPosted (congrArg _ same.symm)
      exact ⟨(go_to_other state different _).symm.trans there, pending⟩
  | threw thread id => exact ⟨before_go_to (by simp) there, pending⟩
  | got thread other => exact ⟨before_go_to (by simp) there, pending⟩
  | locked thread => exact ⟨before_go_to (by simp) there, pending⟩
  | cleared thread => exact ⟨before_go_to (by simp) there, pending⟩
  | stopped thread other left => exact ⟨before_go_to (by simp) there, pending⟩
  | skipped thread other left => exact ⟨before_go_to (by simp) there, pending⟩
  | released thread other => exact ⟨before_go_to (by simp) there, pending⟩
  | destroyed thread other =>
      constructor
      · exact before_go_to (by simp) there
      · by_contra ready
        simp [ready] at pending
  | started other job rest => exact ⟨there, pending⟩
  | finished other job =>
      have different : caller ≠ job := by
        intro same
        subst same
        simp at pending
      exact ⟨there, (Function.update_of_ne different _ _).symm.trans pending⟩
  | exited other => exact ⟨there, pending⟩

theorem effect_jobs (effect : StepEffect state label next) (index : Executor) :
    ((next.executor index).jobs = (state.executor index).jobs ∧ label ≠ .finishJob index ∧
      ∀ caller, label = .postTask caller → next.thread caller ≠ .waiting index) ∨
    (∃ caller id, label = .postTask caller ∧ state.thread caller = .posting id ∧
      next.thread caller = .waiting index ∧ next.future = state.future ∧
      (next.executor index).jobs = (state.executor index).jobs ++ [caller]) ∨
    (∃ job, label = .finishJob index ∧ (state.executor index).runner = .running job ∧
      next.future job = .value ∧
      (state.executor index).jobs = job :: (next.executor index).jobs) ∨
    (∃ thread, label = .destroy thread ∧ (state.executor index).runner = .exited ∧
      (next.executor index).jobs = []) := by
  cases effect with
  | posted caller id point => exact .inl ⟨rfl, by simp, by simp⟩
  | queued caller id other point free found held =>
      by_cases same : index = other
      · subst same
        right
        left
        refine ⟨caller, id, rfl, point, by simp, rfl, ?_⟩
        rw [set_executor_self]
        exact jobs_enqueue _ caller
      · left
        rw [set_executor_other _ same]
        refine ⟨rfl, by simp, fun poster posts => ?_⟩
        cases posts
        simpa using Ne.symm same
  | threw caller id => exact .inl ⟨rfl, by simp, by simp⟩
  | got caller other => exact .inl ⟨rfl, by simp, by simp⟩
  | locked thread => exact .inl ⟨rfl, by simp, by simp⟩
  | cleared thread => exact .inl ⟨rfl, by simp, by simp⟩
  | stopped thread other left =>
      left
      refine ⟨?_, by simp, by simp⟩
      apply set_executor_read AsioExecutor.jobs
      rfl
  | skipped thread other left => exact .inl ⟨rfl, by simp, by simp⟩
  | released thread other =>
      left
      refine ⟨?_, by simp, by simp⟩
      apply set_executor_read AsioExecutor.jobs
      rfl
  | destroyed thread other point exited =>
      by_cases same : index = other
      · subst same
        right
        right
        right
        refine ⟨thread, rfl, exited, ?_⟩
        simp [AsioExecutor.jobs, exited]
      · left
        refine ⟨?_, by simp, by simp⟩
        change AsioExecutor.jobs ((ExecutorsState.setExecutor _ _ _).executor index) = _
        rw [set_executor_other _ same]
        rfl
  | started other job rest idle content =>
      left
      refine ⟨?_, by simp, by simp⟩
      apply set_executor_read AsioExecutor.jobs
      simp [AsioExecutor.jobs, idle, content]
  | finished other job runs =>
      by_cases same : index = other
      · subst same
        right
        right
        left
        refine ⟨job, rfl, runs, by simp, ?_⟩
        simp [AsioExecutor.jobs, runs]
      · left
        refine ⟨?_, by simpa using Ne.symm same, by simp⟩
        change AsioExecutor.jobs ((ExecutorsState.setExecutor _ _ _).executor index) = _
        rw [set_executor_other _ same]
  | exited other idle =>
      left
      refine ⟨?_, by simp, by simp⟩
      apply set_executor_read AsioExecutor.jobs
      simp [AsioExecutor.jobs, idle]

/-- Only `terminate_all` takes the mutex, changes the registry and stops executors. -/
theorem effect_unguarded (effect : StepEffect state label next)
    (enters : ∀ thread, label ≠ .terminateAll thread)
    (continues : ∀ thread, label ≠ .stopNext thread) :
    next.mutex = state.mutex ∧ next.registry = state.registry ∧
      ∀ index, (next.executor index).stopped = (state.executor index).stopped := by
  cases effect with
  | posted caller id => exact ⟨rfl, rfl, fun _ => rfl⟩
  | queued caller id other => exact ⟨rfl, rfl, set_executor_read AsioExecutor.stopped rfl⟩
  | threw caller id => exact ⟨rfl, rfl, fun _ => rfl⟩
  | got caller other => exact ⟨rfl, rfl, fun _ => rfl⟩
  | locked thread => exact absurd rfl (enters thread)
  | cleared thread => exact absurd rfl (continues thread)
  | stopped thread other left => exact absurd rfl (continues thread)
  | skipped thread other left => exact absurd rfl (continues thread)
  | released thread other => exact ⟨rfl, rfl, set_executor_read AsioExecutor.stopped rfl⟩
  | destroyed thread other => exact ⟨rfl, rfl, set_executor_read AsioExecutor.stopped rfl⟩
  | started other job rest => exact ⟨rfl, rfl, set_executor_read AsioExecutor.stopped rfl⟩
  | finished other job => exact ⟨rfl, rfl, set_executor_read AsioExecutor.stopped rfl⟩
  | exited other => exact ⟨rfl, rfl, set_executor_read AsioExecutor.stopped rfl⟩

theorem stopping_before {thread : Thread} {left : List Executor}
    (effect : StepEffect state label next) (continues : label ≠ .stopNext thread)
    (enters : label ≠ .terminateAll thread) (stands : next.thread thread = .stopping left) :
    state.thread thread = .stopping left := by
  cases effect with
  | posted caller id => exact before_go_to (by simp) stands
  | queued caller id other => exact before_go_to (by simp) stands
  | threw caller id => exact before_go_to (by simp) stands
  | got caller other => exact before_go_to (by simp) stands
  | locked other =>
      have different : thread ≠ other := fun same => enters (congrArg _ same.symm)
      exact (go_to_other state different _).symm.trans stands
  | cleared other => exact before_go_to (by simp) stands
  | stopped other index =>
      have different : thread ≠ other := fun same => continues (congrArg _ same.symm)
      exact (go_to_other state different _).symm.trans stands
  | skipped other index =>
      have different : thread ≠ other := fun same => continues (congrArg _ same.symm)
      exact (go_to_other state different _).symm.trans stands
  | released other index => exact before_go_to (by simp) stands
  | destroyed other index => exact before_go_to (by simp) stands
  | started index job rest => exact stands
  | finished index job => exact stands
  | exited index => exact stands

end Steps

end Schedulers.Threading
