import Schedulers.Stlab.TaskSystemModel
import Schedulers.Support.Tally
import Mathlib.Data.Fintype.Prod
import Mathlib.Tactic.Common

/-!
# What becomes of a task

A task that `execute` was called with is in one place at any time: with the call, in one
queue, with one worker, or finished. Each queue is a FIFO, and a worker takes tasks only
from the `_spin / _count` owners from its own on; from 33 workers on that is its own
queue alone.
-/

namespace Schedulers.Stlab

open Schedulers.TransitionSystem Schedulers.Tally

set_option autoImplicit false

variable {count : Nat}

def TaskWorkerPoint.idle : TaskWorkerPoint → Prop
  | .running _ => False
  | _ => True

def ExecutePoint.pushes : ExecutePoint count → Nat
  | .pushing _ _ _ => 1
  | _ => 0

def TaskWorkerPoint.runs (f : Nat) (point : TaskWorkerPoint) : Nat :=
  if point = .running f then 1 else 0

namespace TaskSystemState

def queued (state : TaskSystemState count) (f : Nat) : Nat := tally (List.count f) state.queue

def beingRun (state : TaskSystemState count) (f : Nat) : Nat :=
  tally (TaskWorkerPoint.runs f) state.worker

def places (state : TaskSystemState count) (f : Nat) : Nat :=
  (state.call f).pushes + state.queued f + state.beingRun f + state.finished.count f

def timesTaken (state : TaskSystemState count) (f : Nat) : Nat :=
  (state.taken.map TakenTask.f).count f

def takenFrom (state : TaskSystemState count) (queue : ExecutorPriority × Fin count) :
    List Nat :=
  (state.taken.filter (·.queue = queue)).map TakenTask.f

end TaskSystemState

theorem runs_idle (point : TaskWorkerPoint) (idle : point.idle) (f : Nat) : point.runs f = 0 := by
  cases point <;> simp_all [TaskWorkerPoint.runs, TaskWorkerPoint.idle]

@[simp] theorem runs_running (f g : Nat) :
    (TaskWorkerPoint.running f).runs g = if f = g then 1 else 0 := by
  simp [TaskWorkerPoint.runs]

theorem next_visit_idle (count : Nat) (priority : ExecutorPriority) (n : Nat) :
    (nextVisit count priority n).idle := by
  unfold nextVisit
  split_ifs
  · trivial
  · split <;> trivial

theorem set_worker_runs (state : TaskSystemState count) (worker : Fin count)
    (point : TaskWorkerPoint) (f : Nat) :
    (state.setWorker worker point).beingRun f + (state.worker worker).runs f =
      state.beingRun f + point.runs f :=
  tally_update (TaskWorkerPoint.runs f) state.worker worker point

theorem wake_waiting {state : TaskSystemState count} {owner : Fin count}
    (waits : state.worker owner = .waiting) :
    state.wake owner = state.setWorker owner (.scanning 0 0) := by
  simp [TaskSystemState.wake, waits, TaskWorkerPoint.woken]

theorem wake_not_waiting {state : TaskSystemState count} {owner : Fin count}
    (waits : state.worker owner ≠ .waiting) : state.wake owner = state := by
  have still : (state.worker owner).woken = state.worker owner := by
    unfold TaskWorkerPoint.woken
    split
    · next waiting => exact absurd waiting waits
    · rfl
  simp [TaskSystemState.wake, TaskSystemState.setWorker, still]

variable [NeZero count] {state next : TaskSystemState count}

theorem reach_pos (count : Nat) [NeZero count] : 0 < reach count := by
  unfold reach spin
  have positive : 0 < count := Nat.pos_of_neZero count
  split_ifs with few
  · exact Nat.div_pos (by omega) positive
  · exact Nat.div_pos (Nat.le_refl _) positive

theorem next_visit_within {priority other : ExecutorPriority} {n m : Nat}
    (goesOn : nextVisit count priority n = .scanning other m) : m < reach count := by
  have positive := reach_pos count
  unfold nextVisit at goesOn
  split_ifs at goesOn with below
  · cases goesOn
    exact below
  · split at goesOn <;> cases goesOn <;> exact positive

inductive TaskSystemMove (state : TaskSystemState count) :
    TaskSystemLabel count → TaskSystemState count → Prop where
  | execute (priority : ExecutorPriority) :
      TaskSystemMove state (.execute priority)
        { state.setCall state.calls (.pushing priority state.index 0) with
          calls := state.calls + 1
          index := (state.index + 1) % unsignedRange }
  | retry (call : Nat) (priority : ExecutorPriority) (i n : Nat)
      (here : state.call call = .pushing priority i n) (below : n < reach count) :
      TaskSystemMove state (.tryPush call false) (state.setCall call (.pushing priority i (n + 1)))
  | enqueue (label : TaskSystemLabel count) (call : Nat) (priority : ExecutorPriority)
      (i n : Nat) (owner : Fin count) (called : label = .tryPush call true ∨ label = .push call)
      (here : state.call call = .pushing priority i n) :
      TaskSystemMove state label (state.enqueue call priority owner)
  | notify (call : Nat) (owner : Fin count) (here : state.call call = .notifying owner) :
      TaskSystemMove state (.notify call) ((state.wake owner).setCall call .returned)
  | dequeue (worker : Fin count) (priority : ExecutorPriority) (n f : Nat) (rest : List Nat)
      (here : state.worker worker = .scanning priority n)
      (first : state.queue (priority, ownerOf count worker n) = f :: rest) :
      TaskSystemMove state (.visit worker true)
        (state.dequeue worker priority (ownerOf count worker n) f rest)
  | scanOn (worker : Fin count) (locked : Bool) (priority : ExecutorPriority) (n : Nat)
      (here : state.worker worker = .scanning priority n)
      (missed : locked = true → state.queue (priority, ownerOf count worker n) = []) :
      TaskSystemMove state (.visit worker locked)
        (state.setWorker worker (nextVisit count priority n))
  | finish (worker : Fin count) (f : Nat) (here : state.worker worker = .running f) :
      TaskSystemMove state (.finish worker)
        { state.setWorker worker (.scanning 0 0) with finished := state.finished ++ [f] }
  | check (worker : Fin count) (here : state.worker worker = .locking) :
      TaskSystemMove state (.check worker)
        (state.setWorker worker (if state.done then .exited else .checked))
  | wait (worker : Fin count) (here : state.worker worker = .checked) :
      TaskSystemMove state (.wait worker) (state.setWorker worker .waiting)
  | wakeSpuriously (worker : Fin count) (here : state.worker worker = .waiting) :
      TaskSystemMove state (.wakeSpuriously worker) (state.setWorker worker (.scanning 0 0))
  | setDone (here : state.destructor = .notEntered) :
      TaskSystemMove state .setDone { state with done := true, destructor := .notifying 0 }
  | notifyNext (owner : Fin count) (here : state.destructor = .notifying owner) :
      TaskSystemMove state .notifyNext
        { state.wake owner with destructor := .notifying (owner + 1) }
  | join (notified : Nat) (here : state.destructor = .notifying notified)
      (all : count ≤ notified) :
      TaskSystemMove state .notifyNext { state with destructor := .joining }
  | joinAll (here : state.destructor = .joining)
      (exited : ∀ worker, state.worker worker = .exited) :
      TaskSystemMove state .joinAll { state with destructor := .returned }

theorem visit_moves {worker : Fin count} {locked : Bool}
    (taken : visitStep worker locked state = some next) :
    TaskSystemMove state (.visit worker locked) next := by
  unfold visitStep at taken
  split at taken
  · next priority n here =>
      dsimp only at taken
      split at taken
      · next f rest first =>
          cases taken
          exact .dequeue worker priority n f rest here first
      · next missed =>
          cases taken
          refine .scanOn worker _ priority n here ?_
          rintro rfl
          cases first : state.queue (priority, ownerOf count worker n) with
          | nil => rfl
          | cons f rest => exact absurd first (missed f rest rfl)
  · cases taken

theorem try_push_moves {call : Nat} {locked : Bool}
    (taken : tryPushStep call locked state = some next) :
    TaskSystemMove state (.tryPush call locked) next := by
  unfold tryPushStep at taken
  split at taken
  · next priority i n here =>
      split_ifs at taken with below holds
      · cases taken
        subst holds
        exact .enqueue _ call priority i n _ (.inl rfl) here
      · cases taken
        cases locked
        · exact .retry call priority i n here below
        · exact absurd rfl holds
  · cases taken

theorem task_system_step_moves {label : TaskSystemLabel count}
    (taken : taskSystemStep label state = some next) : TaskSystemMove state label next := by
  cases label with
  | execute priority =>
      simp only [taskSystemStep] at taken
      split_ifs at taken
      cases taken
      exact .execute priority
  | tryPush call locked => exact try_push_moves taken
  | push call =>
      simp only [taskSystemStep] at taken
      split at taken
      · next priority i n here =>
          split_ifs at taken
          cases taken
          exact .enqueue _ call priority i n _ (.inr rfl) here
      · cases taken
  | notify call =>
      simp only [taskSystemStep] at taken
      split at taken
      · next owner here =>
          cases taken
          exact .notify call owner here
      · cases taken
  | visit worker locked => exact visit_moves taken
  | finish worker =>
      simp only [taskSystemStep] at taken
      split at taken
      · next f here =>
          cases taken
          exact .finish worker f here
      · cases taken
  | check worker =>
      simp only [taskSystemStep] at taken
      split at taken
      · next here =>
          cases taken
          exact .check worker here
      · cases taken
  | wait worker =>
      simp only [taskSystemStep] at taken
      split at taken
      · next here =>
          cases taken
          exact .wait worker here
      · cases taken
  | wakeSpuriously worker =>
      simp only [taskSystemStep] at taken
      split at taken
      · next here =>
          cases taken
          exact .wakeSpuriously worker here
      · cases taken
  | setDone =>
      simp only [taskSystemStep] at taken
      split at taken
      · next here =>
          cases taken
          exact .setDone here
      · cases taken
  | notifyNext =>
      simp only [taskSystemStep] at taken
      split at taken
      · next notified here =>
          split_ifs at taken with below
          · cases taken
            exact .notifyNext ⟨notified, below⟩ here
          · cases taken
            exact .join notified here (Nat.not_lt.mp below)
      · cases taken
  | joinAll =>
      simp only [taskSystemStep] at taken
      split at taken
      · next here =>
          split_ifs at taken with exited
          cases taken
          exact .joinAll here exited
      · cases taken

structure Delivered (state : TaskSystemState count) : Prop where
  fresh : ∀ f, state.calls ≤ f → state.call f = .absent
  places : ∀ f, state.places f = if f < state.calls then 1 else 0
  starts : ∀ f, state.timesTaken f = state.beingRun f + state.finished.count f
  order : ∀ queue, state.pushed queue = state.takenFrom queue ++ state.queue queue
  scans : ∀ worker priority n, state.worker worker = .scanning priority n → n < reach count
  window : ∀ record ∈ state.taken, ∃ n < reach count,
    record.queue.2 = ownerOf count record.worker n

theorem Delivered.worker_moves (delivered : Delivered state) (worker : Fin count)
    (point : TaskWorkerPoint) (before : (state.worker worker).idle) (after : point.idle)
    (scans : ∀ priority n, point = .scanning priority n → n < reach count) :
    Delivered (state.setWorker worker point) := by
  obtain ⟨fresh, places, starts, order, inReach, window⟩ := delivered
  have still (f : Nat) : (state.setWorker worker point).beingRun f = state.beingRun f := by
    have moved := set_worker_runs state worker point f
    rw [runs_idle _ before, runs_idle _ after] at moved
    omega
  refine ⟨fresh, fun f => ?_, fun f => ?_, order, ?_, window⟩
  · refine Eq.trans ?_ (places f)
    simp only [TaskSystemState.places, still]
    rfl
  · rw [still]
    exact starts f
  · intro other priority n here
    by_cases same : other = worker
    · subst same
      simp only [TaskSystemState.setWorker, Function.update_self] at here
      exact scans priority n here
    · simp only [TaskSystemState.setWorker, Function.update_of_ne same] at here
      exact inReach other priority n here

theorem Delivered.call_moves (delivered : Delivered state) (call : Nat)
    (point : ExecutePoint count) (pushes : point.pushes = (state.call call).pushes)
    (called : call < state.calls) : Delivered (state.setCall call point) := by
  obtain ⟨fresh, places, starts, order, inReach, window⟩ := delivered
  refine ⟨fun f later => ?_, fun f => ?_, starts, order, inReach, window⟩
  · have different : f ≠ call := by
      rintro rfl
      exact absurd called (Nat.not_lt.mpr later)
    simp only [TaskSystemState.setCall, Function.update_of_ne different]
    exact fresh f later
  · refine Eq.trans ?_ (places f)
    by_cases same : f = call
    · subst same
      simp only [TaskSystemState.places, TaskSystemState.setCall, Function.update_self, pushes]
      rfl
    · simp only [TaskSystemState.places, TaskSystemState.setCall, Function.update_of_ne same]
      rfl

theorem Delivered.called (delivered : Delivered state) (call : Nat)
    (present : state.call call ≠ .absent) : call < state.calls := by
  by_contra outside
  exact present (delivered.fresh call (Nat.not_lt.mp outside))

theorem Delivered.execute (delivered : Delivered state) (priority : ExecutorPriority) :
    Delivered { state.setCall state.calls (.pushing priority state.index 0) with
      calls := state.calls + 1
      index := (state.index + 1) % unsignedRange } := by
  obtain ⟨fresh, places, starts, order, inReach, window⟩ := delivered
  refine ⟨fun f later => ?_, fun f => ?_, starts, order, inReach, window⟩
  · have later : state.calls + 1 ≤ f := later
    simp only [TaskSystemState.setCall, Function.update_of_ne (show f ≠ state.calls by omega)]
    exact fresh f (by omega)
  · have before := places f
    simp only [TaskSystemState.places, TaskSystemState.queued, TaskSystemState.beingRun,
      TaskSystemState.setCall] at before ⊢
    by_cases same : f = state.calls
    · subst same
      rw [fresh _ (Nat.le_refl _)] at before
      simp only [ExecutePoint.pushes, Nat.lt_irrefl, if_false, Function.update_self,
        Nat.lt_succ_self, if_true] at before ⊢
      omega
    · rw [Function.update_of_ne same, before]
      simp only [show f < state.calls + 1 ↔ f < state.calls by omega]

theorem Delivered.enqueue (delivered : Delivered state) {call : Nat}
    {priority : ExecutorPriority} {i n : Nat} (here : state.call call = .pushing priority i n)
    (owner : Fin count) : Delivered (state.enqueue call priority owner) := by
  have called := delivered.called call (by simp [here])
  obtain ⟨fresh, places, starts, order, inReach, window⟩ := delivered
  refine ⟨fun f later => ?_, fun f => ?_, starts, fun queue => ?_, inReach, window⟩
  · have different : f ≠ call := by
      rintro rfl
      exact absurd called (Nat.not_lt.mpr later)
    simp only [TaskSystemState.enqueue, TaskSystemState.setCall,
      Function.update_of_ne different]
    exact fresh f later
  · -- the call loses the task that the queue gains
    refine Eq.trans ?_ (places f)
    have moved := tally_update (List.count f) state.queue (priority, owner)
      (state.queue (priority, owner) ++ [call])
    simp only [TaskSystemState.places, TaskSystemState.queued, TaskSystemState.beingRun,
      TaskSystemState.enqueue, TaskSystemState.setCall, List.count_append,
      List.count_singleton] at moved ⊢
    by_cases same : f = call
    · subst same
      simp only [here, ExecutePoint.pushes, Function.update_self, beq_self_eq_true,
        if_true] at moved ⊢
      omega
    · have different : (call == f) = false := by simpa using Ne.symm same
      simp only [Function.update_of_ne same, different] at moved ⊢
      simp only [Bool.false_eq_true, if_false] at moved
      omega
  · have before := order queue
    by_cases same : queue = (priority, owner)
    · subst same
      simp only [TaskSystemState.enqueue, TaskSystemState.takenFrom, TaskSystemState.setCall,
        Function.update_self] at before ⊢
      rw [before, List.append_assoc]
    · simp only [TaskSystemState.enqueue, TaskSystemState.takenFrom, TaskSystemState.setCall,
        Function.update_of_ne same] at before ⊢
      exact before

theorem Delivered.dequeue (delivered : Delivered state) {worker : Fin count}
    {priority : ExecutorPriority} {n f : Nat} {rest : List Nat}
    (here : state.worker worker = .scanning priority n)
    (first : state.queue (priority, ownerOf count worker n) = f :: rest) :
    Delivered (state.dequeue worker priority (ownerOf count worker n) f rest) := by
  obtain ⟨fresh, places, starts, order, inReach, window⟩ := delivered
  have runs (g : Nat) := set_worker_runs state worker (.running f) g
  simp only [here, runs_idle (.scanning priority n) trivial, runs_running,
    Nat.add_zero] at runs
  refine ⟨fresh, fun g => ?_, fun g => ?_, fun queue => ?_, ?_, ?_⟩
  · refine Eq.trans ?_ (places g)
    have moved := tally_update (List.count g) state.queue (priority, ownerOf count worker n) rest
    have running := runs g
    rw [first, List.count_cons] at moved
    simp only [TaskSystemState.places, TaskSystemState.queued, TaskSystemState.beingRun,
      TaskSystemState.dequeue, TaskSystemState.setWorker, beq_iff_eq] at moved running ⊢
    omega
  · have before := starts g
    have running := runs g
    simp only [TaskSystemState.timesTaken, TaskSystemState.beingRun, TaskSystemState.dequeue,
      TaskSystemState.setWorker, List.map_append, List.count_append, List.map_cons, List.map_nil,
      List.count_singleton, beq_iff_eq] at before running ⊢
    omega
  · have before := order queue
    by_cases same : queue = (priority, ownerOf count worker n)
    · subst same
      rw [first] at before
      simp only [TaskSystemState.takenFrom, TaskSystemState.dequeue, TaskSystemState.setWorker,
        Function.update_self] at before ⊢
      simp [before]
    · have other : ¬(priority, ownerOf count worker n) = queue := fun equal => same equal.symm
      simp only [TaskSystemState.takenFrom, TaskSystemState.dequeue, TaskSystemState.setWorker,
        Function.update_of_ne same] at before ⊢
      simp [before, other]
  · intro other otherPriority m scans
    by_cases same : other = worker
    · subst same
      simp [TaskSystemState.dequeue, TaskSystemState.setWorker] at scans
    · simp only [TaskSystemState.dequeue, TaskSystemState.setWorker,
        Function.update_of_ne same] at scans
      exact inReach other otherPriority m scans
  · intro record member
    rcases List.mem_append.mp member with old | new
    · exact window record old
    · rw [List.mem_singleton] at new
      subst new
      exact ⟨n, inReach worker priority n here, rfl⟩

theorem Delivered.finish (delivered : Delivered state) {worker : Fin count} {f : Nat}
    (here : state.worker worker = .running f) :
    Delivered { state.setWorker worker (.scanning 0 0) with
      finished := state.finished ++ [f] } := by
  obtain ⟨fresh, places, starts, order, inReach, window⟩ := delivered
  have runs (g : Nat) := set_worker_runs state worker (.scanning 0 0) g
  simp only [here, runs_idle (.scanning 0 0) trivial, runs_running,
    Nat.add_zero] at runs
  refine ⟨fresh, fun g => ?_, fun g => ?_, order, ?_, window⟩
  · refine Eq.trans ?_ (places g)
    have running := runs g
    simp only [TaskSystemState.places, TaskSystemState.queued, TaskSystemState.beingRun,
      TaskSystemState.setWorker, List.count_append, List.count_singleton, beq_iff_eq]
      at running ⊢
    omega
  · have before := starts g
    have running := runs g
    simp only [TaskSystemState.timesTaken, TaskSystemState.beingRun, TaskSystemState.setWorker,
      List.count_append, List.count_singleton, beq_iff_eq] at before running ⊢
    omega
  · intro other priority n scans
    by_cases same : other = worker
    · subst same
      simp only [TaskSystemState.setWorker, Function.update_self] at scans
      cases scans
      exact reach_pos count
    · simp only [TaskSystemState.setWorker, Function.update_of_ne same] at scans
      exact inReach other priority n scans

theorem Delivered.wake (delivered : Delivered state) (owner : Fin count) :
    Delivered (state.wake owner) := by
  by_cases waits : state.worker owner = .waiting
  · rw [wake_waiting waits]
    refine delivered.worker_moves owner _ (by rw [waits]; trivial) trivial fun _ _ scans => ?_
    cases scans
    exact reach_pos count
  · rw [wake_not_waiting waits]
    exact delivered

theorem Delivered.moves (delivered : Delivered state) {label : TaskSystemLabel count}
    (moved : TaskSystemMove state label next) : Delivered next := by
  cases moved with
  | execute priority => exact delivered.execute priority
  | retry call priority i n here _ =>
      exact delivered.call_moves call _ (by rw [here]; rfl) (delivered.called call (by simp [here]))
  | enqueue _ call priority i n owner _ here => exact delivered.enqueue here owner
  | notify call owner here =>
      have woken := delivered.wake owner
      have here : (state.wake owner).call call = .notifying owner := here
      exact woken.call_moves call .returned (by rw [here]; rfl) (woken.called call (by simp [here]))
  | dequeue worker priority n f rest here first => exact delivered.dequeue here first
  | finish worker f here => exact delivered.finish here
  | scanOn worker _ priority n here _ =>
      exact delivered.worker_moves worker _ (by rw [here]; trivial)
        (next_visit_idle count priority n) fun _ _ => next_visit_within
  | check worker here =>
      refine delivered.worker_moves worker _ (by rw [here]; trivial) ?_ fun priority n scans => ?_
      · split <;> trivial
      · split at scans <;> cases scans
  | wait worker here =>
      exact delivered.worker_moves worker _ (by rw [here]; trivial) trivial (by simp)
  | wakeSpuriously worker here =>
      refine delivered.worker_moves worker _ (by rw [here]; trivial) trivial fun _ _ scans => ?_
      cases scans
      exact reach_pos count
  | notifyNext owner here =>
      obtain ⟨fresh, places, starts, order, inReach, window⟩ := delivered.wake owner
      exact ⟨fresh, places, starts, order, inReach, window⟩
  | setDone _ | join _ _ _ | joinAll _ _ =>
      obtain ⟨fresh, places, starts, order, inReach, window⟩ := delivered
      exact ⟨fresh, places, starts, order, inReach, window⟩

theorem delivered_start (count : Nat) [NeZero count] : Delivered (TaskSystemState.start count) := by
  refine ⟨fun _ _ => rfl, fun f => ?_, fun f => ?_, fun _ => rfl, ?_,
    by simp [TaskSystemState.start]⟩
  · have queues : (TaskSystemState.start count).queued f = 0 :=
      tally_zero_iff.mpr fun _ => rfl
    have workers : (TaskSystemState.start count).beingRun f = 0 :=
      tally_zero_iff.mpr fun _ => runs_idle (.scanning 0 0) trivial f
    simp only [TaskSystemState.places, queues, workers]
    rfl
  · have workers : (TaskSystemState.start count).beingRun f = 0 :=
      tally_zero_iff.mpr fun _ => runs_idle (.scanning 0 0) trivial f
    rw [workers]
    rfl
  · intro worker priority n scans
    cases scans
    exact reach_pos count

theorem delivered_reachable {permitted : Permission (TaskSystemState count) (TaskSystemLabel count)}
    (reached : Reachable (taskSystem count) permitted state) : Delivered state :=
  reached.keeps
    (fun start begins => by
      change start = _ at begins
      rw [begins]
      exact delivered_start count)
    fun _ _ _ delivered _ taken => delivered.moves (task_system_step_moves taken)

/-- No task is lost or run twice, and a queue is served in the order of the pushes. -/
theorem tasks_run_once_in_order (reached : Reachable (taskSystem count) anyStep state) :
    (∀ f, state.places f = if f < state.calls then 1 else 0) ∧
    (∀ f, state.timesTaken f = state.beingRun f + state.finished.count f) ∧
    ∀ queue, state.pushed queue = state.takenFrom queue ++ state.queue queue := by
  have delivered := delivered_reachable reached
  exact ⟨delivered.places, delivered.starts, delivered.order⟩

/-- Two calls for one queue: worker 1 steals the first task while worker 0 finds the
queue locked. -/
theorem tasks_run_once_in_order_stolen :
    ∃ state : TaskSystemState 2, state.queue (0, 0) = [2] ∧ state.taken = [⟨1, (0, 0), 0⟩] ∧
      (∀ f, state.places f = if f < state.calls then 1 else 0) ∧
      (∀ f, state.timesTaken f = state.beingRun f + state.finished.count f) ∧
      ∀ queue, state.pushed queue = state.takenFrom queue ++ state.queue queue := by
  obtain ⟨state, reached, queue, taken⟩ : ∃ state, Reachable (taskSystem 2) anyStep state ∧
      state.queue (0, 0) = [2] ∧ state.taken = [⟨1, (0, 0), 0⟩] :=
    schedule_reaches [.execute 0, .tryPush 0 true, .execute 0, .execute 0, .tryPush 2 true,
      .visit 1 true, .visit 1 true, .visit 0 false] rfl (by decide)
  exact ⟨state, queue, taken, tasks_run_once_in_order reached⟩

theorem reach_le (count : Nat) [NeZero count] : reach count ≤ 64 := by
  have positive : 0 < count := Nat.pos_of_neZero count
  unfold reach spin
  split_ifs
  · exact Nat.div_le_self 64 count
  · rw [Nat.div_self positive]
    omega

theorem reach_many {count : Nat} (many : 33 ≤ count) : reach count = 1 := by
  unfold reach spin
  split_ifs with few
  · exact Nat.div_eq_of_lt_le (by omega) (by omega)
  · exact Nat.div_self (by omega)

theorem owner_of_val (size : count ≤ unsignedRange) (worker : Fin count) {n : Nat}
    (within : n < reach count) : (ownerOf count worker n).val = (worker + n) % count := by
  have below := worker.isLt
  have short := reach_le count
  have noWrap : worker + n < unsignedRange := by
    by_cases few : count ≤ 32
    · simp only [unsignedRange]
      omega
    · rw [reach_many (by omega)] at within
      omega
  simp only [ownerOf, Fin.val_ofNat, Nat.mod_eq_of_lt noWrap]

theorem owner_of_self (size : count ≤ unsignedRange) (worker : Fin count) :
    ownerOf count worker 0 = worker := by
  apply Fin.ext
  rw [owner_of_val size worker (reach_pos count), Nat.add_zero, Nat.mod_eq_of_lt worker.isLt]

theorem owner_of_many (size : count ≤ unsignedRange) (many : 33 ≤ count) (worker : Fin count)
    {n : Nat} (within : n < reach count) : ownerOf count worker n = worker := by
  rw [reach_many many] at within
  rw [show n = 0 by omega]
  exact owner_of_self size worker

/-- A worker runs only tasks of the `_spin / _count` owners from its own on, and these are
all the owners just when there are at most eight. -/
theorem tasks_taken_within_reach (size : count ≤ unsignedRange)
    (reached : Reachable (taskSystem count) anyStep state) :
    (∀ record ∈ state.taken, ∃ n < reach count,
      record.queue.2.val = (record.worker + n) % count) ∧
    ((∀ worker owner : Fin count, ∃ n < reach count, owner.val = (worker + n) % count) ↔
      count ≤ 8) := by
  constructor
  · intro record member
    obtain ⟨n, within, owner⟩ := (delivered_reachable reached).window record member
    exact ⟨n, within, by rw [owner, owner_of_val size record.worker within]⟩
  · constructor
    · intro all
      -- the owner just past the reach of worker 0 is one that it does not get to
      by_contra many
      have short : reach count < count := by
        unfold reach spin
        split_ifs with few
        · have square := Nat.mul_le_mul (show 9 ≤ count by omega) (show 9 ≤ count by omega)
          exact (Nat.div_lt_iff_lt_mul (by omega)).mpr (by omega)
        · rw [Nat.div_self (by omega)]
          omega
      obtain ⟨n, within, equal⟩ := all ⟨0, by omega⟩ ⟨reach count, short⟩
      simp only [Nat.zero_add] at equal
      rw [Nat.mod_eq_of_lt (by omega)] at equal
      omega
    · intro few worker owner
      have positive : 0 < count := Nat.pos_of_neZero count
      have wide : count ≤ reach count := by
        have square := Nat.mul_le_mul few few
        unfold reach spin
        rw [if_pos (by omega)]
        exact (Nat.le_div_iff_mul_le positive).mpr (by omega)
      have ownerBelow := owner.isLt
      have workerBelow := worker.isLt
      by_cases after : worker.val ≤ owner.val
      · refine ⟨owner - worker, by omega, ?_⟩
        rw [show worker.val + (owner.val - worker.val) = owner.val by omega,
          Nat.mod_eq_of_lt ownerBelow]
      · refine ⟨owner + count - worker, by omega, ?_⟩
        rw [show worker.val + (owner.val + count - worker.val) = owner.val + count by omega,
          Nat.add_mod_right, Nat.mod_eq_of_lt ownerBelow]

theorem tasks_taken_within_reach_stolen :
    ∃ state : TaskSystemState 2, state.taken = [⟨1, (0, 0), 0⟩] ∧
      (∀ record ∈ state.taken, ∃ n < reach 2, record.queue.2.val = (record.worker + n) % 2) ∧
      ((∀ worker owner : Fin 2, ∃ n < reach 2, owner.val = (worker + n) % 2) ↔ 2 ≤ 8) := by
  obtain ⟨state, reached, taken⟩ : ∃ state, Reachable (taskSystem 2) anyStep state ∧
      state.taken = [⟨1, (0, 0), 0⟩] :=
    schedule_reaches [.execute 0, .tryPush 0 true, .visit 1 true, .visit 1 true] rfl (by decide)
  exact ⟨state, taken, tasks_taken_within_reach (by decide) reached⟩

/-- The steps in which the owner does not come to the end of its task. -/
def OwnerStaysBusy (owner : Fin count) :
    Permission (TaskSystemState count) (TaskSystemLabel count) :=
  fun label _ => label ≠ .finish owner

instance (owner : Fin count) (label : TaskSystemLabel count) (state : TaskSystemState count) :
    Decidable (OwnerStaysBusy owner label state) :=
  inferInstanceAs (Decidable (label ≠ .finish owner))

theorem busy_owner_step (size : count ≤ unsignedRange) (many : 33 ≤ count) {owner : Fin count}
    {f : Nat} {label : TaskSystemLabel count} (delivered : Delivered state)
    (busy : state.worker owner = .running f) (stays : label ≠ .finish owner)
    (moved : TaskSystemMove state label next) :
    next.worker owner = .running f ∧
      ∀ priority, state.queue (priority, owner) <+: next.queue (priority, owner) := by
  have others {worker : Fin count} {point : TaskWorkerPoint}
      (here : state.worker worker = point) (idle : point.idle) : owner ≠ worker := by
    rintro rfl
    rw [busy] at here
    subst here
    exact idle
  have awake (k : Fin count) : (state.wake k).worker owner = .running f := by
    by_cases same : owner = k
    · subst same
      simp [TaskSystemState.wake, TaskSystemState.setWorker, busy, TaskWorkerPoint.woken]
    · simp [TaskSystemState.wake, TaskSystemState.setWorker, Function.update_of_ne same, busy]
  cases moved with
  | execute | retry | setDone | join | joinAll =>
      exact ⟨busy, fun _ => List.prefix_refl _⟩
  | enqueue _ call priority i n k _ _ =>
      refine ⟨busy, fun p => ?_⟩
      simp only [TaskSystemState.enqueue, TaskSystemState.setCall]
      by_cases same : (p, owner) = (priority, k)
      · rw [same, Function.update_self]
        exact List.prefix_append _ _
      · rw [Function.update_of_ne same]
  | notify call k _ => exact ⟨awake k, fun _ => List.prefix_refl _⟩
  | notifyNext k _ => exact ⟨awake k, fun _ => List.prefix_refl _⟩
  | dequeue worker priority n g rest here _ =>
      have other := others here trivial
      have ownQueue := owner_of_many size many worker (delivered.scans worker priority n here)
      refine ⟨?_, fun p => ?_⟩
      · simpa [TaskSystemState.dequeue, TaskSystemState.setWorker, Function.update_of_ne other]
          using busy
      · simp only [TaskSystemState.dequeue, TaskSystemState.setWorker, ownQueue]
        rw [Function.update_of_ne (fun same => other (Prod.ext_iff.mp same).2)]
  | finish worker g here =>
      have other : owner ≠ worker := by
        rintro rfl
        exact stays rfl
      exact ⟨by simpa [TaskSystemState.setWorker, Function.update_of_ne other] using busy,
        fun _ => List.prefix_refl _⟩
  | scanOn worker _ priority n here _ =>
      have other := others here trivial
      exact ⟨by simpa [TaskSystemState.setWorker, Function.update_of_ne other] using busy,
        fun _ => List.prefix_refl _⟩
  | check worker here | wait worker here | wakeSpuriously worker here =>
      have other := others here trivial
      exact ⟨by simpa [TaskSystemState.setWorker, Function.update_of_ne other] using busy,
        fun _ => List.prefix_refl _⟩

/-- From 33 workers on nobody steals: while a worker is in a task, what is queued with it
stays queued, whatever all the others do. -/
theorem no_stealing_from_33_workers (size : count ≤ unsignedRange) (many : 33 ≤ count)
    {owner : Fin count} {f : Nat} (reached : Reachable (taskSystem count) anyStep state)
    (busy : state.worker owner = .running f)
    (run : Run (taskSystem count) (OwnerStaysBusy owner) state next) :
    next.worker owner = .running f ∧
      ∀ priority, state.queue (priority, owner) <+: next.queue (priority, owner) := by
  have kept : Delivered next ∧ next.worker owner = .running f ∧
      ∀ priority, state.queue (priority, owner) <+: next.queue (priority, owner) := by
    apply run.keeps _ (And.intro (delivered_reachable reached)
      (And.intro busy fun _ => List.prefix_refl _))
    rintro label now after ⟨delivered, here, grown⟩ stays taken
    have moved := task_system_step_moves taken
    obtain ⟨stillBusy, grows⟩ := busy_owner_step size many delivered here stays moved
    exact ⟨delivered.moves moved, stillBusy,
      fun priority => (grown priority).trans (grows priority)⟩
  exact kept.2

/-- Worker 32 finds its own queue empty and goes on to the next priority, past the task
that waits for worker 0. -/
theorem no_stealing_from_33_workers_queued :
    ∃ state next : TaskSystemState 33, state.queue (0, 0) = [33] ∧
      next.worker 32 = .scanning 1 0 ∧ next.worker 0 = .running 0 ∧
      ∀ priority, state.queue (priority, 0) <+: next.queue (priority, 0) := by
  obtain ⟨state, reached, busy, queued, scans, empty⟩ : ∃ state,
      Reachable (taskSystem 33) anyStep state ∧ state.worker 0 = .running 0 ∧
      state.queue (0, 0) = [33] ∧ state.worker 32 = .scanning 0 0 ∧
      state.queue (0, ownerOf 33 (32 : Fin 33) 0) = [] :=
    schedule_reaches ([.execute 0, .tryPush 0 true, .visit 0 true] ++
      List.replicate 33 (.execute 0) ++ [.tryPush 33 true]) rfl (by decide)
  have taken : taskSystemStep (.visit 32 true) state =
      some (state.setWorker 32 (.scanning 1 0)) := by
    simp only [taskSystemStep, visitStep, scans, empty]
    rfl
  have run : Run (taskSystem 33) (OwnerStaysBusy 0) state (state.setWorker 32 (.scanning 1 0)) :=
    .single (.visit 32 true) (by simp [OwnerStaysBusy]) taken
  exact ⟨state, _, queued, by simp [TaskSystemState.setWorker],
    no_stealing_from_33_workers (by decide) (by decide) reached busy run⟩

end Schedulers.Stlab
