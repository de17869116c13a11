import Schedulers.Support.TransitionSystem
import Mathlib.Data.List.FinRange
import Mathlib.Logic.Function.Basic

/-!
# `AsioThreadPool` of `actors_cc98.h`

The workers run an `io_service` to which `add` posts the callables; `SingleWorker` is
a pool of one. The destructor stops the service and joins the workers. Of boost: `run`
takes the handlers in the order in which they were posted; once the service is stopped
it returns as soon as the handler in progress ends, and handlers that have not been
started are never run. Handlers do not throw.

A job is named by the number of the `add` call that posted it.
-/

namespace Schedulers.Actors

open Schedulers.TransitionSystem

set_option autoImplicit false

inductive WorkerPoint where
  | polling
  | running (job : Nat)
  | exited
  deriving DecidableEq, Repr

inductive PoolDestructor where
  | notEntered
  | entered
  | joining
  | returned
  deriving DecidableEq, Repr

/-- `posted` counts the `add` calls, `promised` those that returned before the destructor
was entered; `executed` has the handlers that have ended. -/
structure PoolState (countWorkers : Nat) where
  posted : Nat
  promised : Nat
  handlers : List Nat
  stopped : Bool
  worker : Fin countWorkers → WorkerPoint
  destructor : PoolDestructor
  executed : List Nat

inductive PoolLabel (countWorkers : Nat) where
  | add
  | poll (index : Fin countWorkers)
  | finish (index : Fin countWorkers)
  | enterDestructor
  | stop
  | joinAll
  deriving DecidableEq, Repr

variable {countWorkers : Nat}

/-- `m_io_service.post(f)`, by any thread or handler. -/
def PoolState.add (state : PoolState countWorkers) : PoolState countWorkers :=
  { state with
    posted := state.posted + 1
    promised := if state.destructor = .notEntered then state.posted + 1 else state.promised
    handlers := state.handlers ++ [state.posted] }

def PoolState.setWorker (state : PoolState countWorkers) (index : Fin countWorkers)
    (point : WorkerPoint) : PoolState countWorkers :=
  { state with worker := Function.update state.worker index point }

/-- The member `m_work` keeps `run` from returning while the service is not stopped. -/
def pollStep (index : Fin countWorkers) (state : PoolState countWorkers) :
    Option (PoolState countWorkers) :=
  match state.worker index with
  | .polling =>
      if state.stopped then some (state.setWorker index .exited)
      else
        match state.handlers with
        | [] => none
        | job :: rest => some { state.setWorker index (.running job) with handlers := rest }
  | _ => none

def finishStep (index : Fin countWorkers) (state : PoolState countWorkers) :
    Option (PoolState countWorkers) :=
  match state.worker index with
  | .running job =>
      some { state.setWorker index .polling with executed := state.executed ++ [job] }
  | _ => none

def poolStep : PoolLabel countWorkers → PoolState countWorkers → Option (PoolState countWorkers)
  | .add, state => if state.destructor = .returned then none else some state.add
  | .poll index, state => pollStep index state
  | .finish index, state => finishStep index state
  | .enterDestructor, state =>
      if state.destructor = .notEntered then some { state with destructor := .entered } else none
  | .stop, state =>
      if state.destructor = .entered then
        some { state with stopped := true, destructor := .joining }
      else none
  | .joinAll, state =>
      if state.destructor = .joining ∧ ∀ index, state.worker index = .exited then
        some { state with destructor := .returned }
      else none

def PoolState.start (countWorkers : Nat) : PoolState countWorkers where
  posted := 0
  promised := 0
  handlers := []
  stopped := false
  worker := fun _ => .polling
  destructor := .notEntered
  executed := []

def poolSystem (countWorkers : Nat) :
    System (PoolState countWorkers) (PoolLabel countWorkers) where
  initial state := state = .start countWorkers
  step := poolStep

/-- No job that was added before the destructor was entered is still to be started when
the destructor stops the service. -/
def StopFindsNoBacklog : Permission (PoolState countWorkers) (PoolLabel countWorkers)
  | .stop, state => ∀ job ∈ state.handlers, state.promised ≤ job
  | _, _ => True

instance : (label : PoolLabel countWorkers) → (state : PoolState countWorkers) →
    Decidable (StopFindsNoBacklog label state)
  | .stop, state => inferInstanceAs (Decidable (∀ job ∈ state.handlers, state.promised ≤ job))
  | .add, _ => isTrue trivial
  | .poll _, _ => isTrue trivial
  | .finish _, _ => isTrue trivial
  | .enterDestructor, _ => isTrue trivial
  | .joinAll, _ => isTrue trivial

/-- Every job posted is in one place: with the handlers to be started, with one worker or
among those executed. -/
structure JobsAccounted (state : PoolState countWorkers) : Prop where
  placed : ∀ job, job < state.posted ↔
    job ∈ state.handlers ∨ (∃ index, state.worker index = .running job) ∨ job ∈ state.executed
  handlersOnce : state.handlers.Nodup
  executedOnce : state.executed.Nodup
  unstarted : ∀ job ∈ state.handlers,
    job ∉ state.executed ∧ ∀ index, state.worker index ≠ .running job
  running : ∀ index job, state.worker index = .running job →
    job ∉ state.executed ∧ ∀ other, state.worker other = .running job → other = index

structure DestructorOrder (state : PoolState countWorkers) : Prop where
  promised : state.promised ≤ state.posted
  stopped : state.stopped = true ↔ state.destructor = .joining ∨ state.destructor = .returned
  returned : state.destructor = .returned → ∀ index, state.worker index = .exited

theorem accounted_add {state : PoolState countWorkers} (given : JobsAccounted state) :
    JobsAccounted state.add := by
  have fresh : state.posted ∉ state.handlers ∧
      (∀ index, state.worker index ≠ .running state.posted) ∧ state.posted ∉ state.executed := by
    have nowhere := (given.placed state.posted).not.mp (Nat.lt_irrefl _)
    push Not at nowhere
    exact nowhere
  constructor
  · intro job
    have before := given.placed job
    simp only [PoolState.add, List.mem_append, List.mem_singleton]
    rw [Nat.lt_succ_iff_lt_or_eq, before]
    tauto
  · exact given.handlersOnce.append (List.nodup_singleton _) (by simpa using fresh.1)
  · exact given.executedOnce
  · intro job member
    rcases List.mem_append.mp member with old | new
    · exact given.unstarted job old
    · rw [List.mem_singleton.mp new]
      exact ⟨fresh.2.2, fresh.2.1⟩
  · exact given.running

theorem accounted_exit {state : PoolState countWorkers} {index : Fin countWorkers}
    (polls : state.worker index = .polling) (given : JobsAccounted state) :
    JobsAccounted (state.setWorker index .exited) := by
  have same (other : Fin countWorkers) (job : Nat) :
      (state.setWorker index .exited).worker other = .running job ↔
        state.worker other = .running job := by
    by_cases equal : other = index
    · subst equal
      simp [PoolState.setWorker, polls]
    · simp [PoolState.setWorker, equal]
  constructor
  · intro job
    simp only [same]
    exact given.placed job
  · exact given.handlersOnce
  · exact given.executedOnce
  · intro job member
    simp only [ne_eq, same]
    exact given.unstarted job member
  · intro other job runs
    simp only [same] at runs ⊢
    exact given.running other job runs

theorem accounted_start_job {state : PoolState countWorkers} {index : Fin countWorkers}
    {job : Nat} {rest : List Nat} (polls : state.worker index = .polling)
    (contents : state.handlers = job :: rest) (given : JobsAccounted state) :
    JobsAccounted { state.setWorker index (.running job) with handlers := rest } := by
  have once := given.handlersOnce
  have unstarted := given.unstarted
  have placed := given.placed
  rw [contents] at once unstarted placed
  obtain ⟨absent, restOnce⟩ := List.nodup_cons.mp once
  obtain ⟨unexecuted, idle⟩ := unstarted job List.mem_cons_self
  have runs (other : Fin countWorkers) (any : Nat) :
      (state.setWorker index (.running job)).worker other = .running any ↔
        (other = index ∧ any = job) ∨ state.worker other = .running any := by
    by_cases equal : other = index
    · subst equal
      simp [PoolState.setWorker, polls, eq_comm]
    · simp [PoolState.setWorker, equal]
  constructor
  · intro any
    change any < state.posted ↔ any ∈ rest ∨
      (∃ other, (state.setWorker index (.running job)).worker other = .running any) ∨
        any ∈ state.executed
    rw [placed any, List.mem_cons]
    simp only [runs, exists_or, exists_and_right, exists_eq, true_and]
    tauto
  · exact restOnce
  · exact given.executedOnce
  · intro any member
    obtain ⟨unexecutedToo, idleToo⟩ := unstarted any (List.mem_cons_of_mem job member)
    refine ⟨unexecutedToo, fun other busy => ?_⟩
    rcases (runs other any).mp busy with ⟨_, same⟩ | before
    · exact absurd (same ▸ member) absent
    · exact idleToo other before
  · intro other any busy
    rcases (runs other any).mp busy with ⟨here, same⟩ | before
    · subst here same
      refine ⟨unexecuted, fun third also => ?_⟩
      rcases (runs third any).mp also with ⟨there, _⟩ | earlier
      · exact there
      · exact absurd earlier (idle third)
    · obtain ⟨unexecutedToo, alone⟩ := given.running other any before
      refine ⟨unexecutedToo, fun third also => ?_⟩
      rcases (runs third any).mp also with ⟨_, same⟩ | earlier
      · rw [same] at before
        exact absurd before (idle other)
      · exact alone third earlier

theorem accounted_finish {state : PoolState countWorkers} {index : Fin countWorkers} {job : Nat}
    (runsJob : state.worker index = .running job) (given : JobsAccounted state) :
    JobsAccounted { state.setWorker index .polling with executed := state.executed ++ [job] } := by
  obtain ⟨unexecuted, alone⟩ := given.running index job runsJob
  have runs (other : Fin countWorkers) (any : Nat) :
      (state.setWorker index .polling).worker other = .running any ↔
        state.worker other = .running any ∧ any ≠ job := by
    by_cases equal : other = index
    · subst equal
      simp [PoolState.setWorker, runsJob, eq_comm]
    · simp only [PoolState.setWorker, Function.update_of_ne equal]
      refine ⟨fun busy => ⟨busy, fun same => ?_⟩, And.left⟩
      rw [same] at busy
      exact equal (alone other busy)
  constructor
  · intro any
    change any < state.posted ↔ any ∈ state.handlers ∨
      (∃ other, (state.setWorker index .polling).worker other = .running any) ∨
        any ∈ state.executed ++ [job]
    rw [given.placed any]
    simp only [runs, List.mem_append, List.mem_singleton]
    by_cases same : any = job
    · subst same
      simp only [or_true, iff_true]
      exact .inr (.inl ⟨index, runsJob⟩)
    · simp [same]
  · exact given.handlersOnce
  · exact given.executedOnce.append (List.nodup_singleton job) (by simpa using unexecuted)
  · intro any member
    obtain ⟨unexecutedToo, idle⟩ := given.unstarted any member
    refine ⟨fun executed => ?_, fun other busy => idle other ((runs other any).mp busy).1⟩
    rcases List.mem_append.mp executed with before | now
    · exact unexecutedToo before
    · rw [List.mem_singleton.mp now] at idle
      exact idle index runsJob
  · intro other any busy
    obtain ⟨before, different⟩ := (runs other any).mp busy
    obtain ⟨unexecutedToo, aloneToo⟩ := given.running other any before
    refine ⟨fun executed => ?_, fun third also => aloneToo third ((runs third any).mp also).1⟩
    rcases List.mem_append.mp executed with earlier | now
    · exact unexecutedToo earlier
    · exact different (List.mem_singleton.mp now)

end Schedulers.Actors
