import Schedulers.Stlab.TaskSystemDelivery
import Schedulers.Support.Progress
import Mathlib.Tactic.Common

/-!
# Notifications that nobody hears

A worker that has found nothing takes its mutex, reads `_done` and waits, but a notifier
does not take that mutex: between the worker's last look at its queue and its wait, a
notification is lost. With any number of workers a task can then stay in its queue while
all workers sleep, and the destructor can join a worker that never wakes. Where no
notification is lost that way and `try_pop` gets the lock of a worker's own queue
whenever there is something in it, the system comes to rest with every task run.
-/

namespace Schedulers.Stlab

open Schedulers.TransitionSystem Schedulers.Tally

set_option autoImplicit false

variable {count : Nat} {state next : TaskSystemState count}

def TaskSystemState.allWorkers (state : TaskSystemState count) (point : TaskWorkerPoint) :
    TaskSystemState count :=
  { state with worker := fun _ => point }

section LostNotifications

variable [NeZero count]

theorem run_each_worker {permitted : Permission (TaskSystemState count) (TaskSystemLabel count)}
    (before after : TaskWorkerPoint)
    (move : ∀ workers worker, workers worker = before →
      Run (taskSystem count) permitted { state with worker := workers }
        { state with worker := Function.update workers worker after })
    (here : ∀ worker, state.worker worker = before) :
    Run (taskSystem count) permitted state (state.allWorkers after) := by
  have first (moved : Nat) (within : moved ≤ count) :
      Run (taskSystem count) permitted state
        { state with worker := fun worker => if worker.val < moved then after else before } := by
    induction moved with
    | zero =>
        have same : state.worker = fun worker =>
            if worker.val < 0 then after else before := funext fun worker => by simp [here worker]
        rw [← same]
        exact .refl state
    | succ moved ih =>
        have step := move (fun worker => if worker.val < moved then after else before)
          ⟨moved, by omega⟩ (by simp)
        have workers : Function.update
            (fun worker : Fin count => if worker.val < moved then after else before)
            ⟨moved, by omega⟩ after =
            fun worker => if worker.val < moved + 1 then after else before := by
          funext worker
          by_cases same : worker = ⟨moved, by omega⟩
          · subst same
            simp
          · have different : worker.val ≠ moved := fun equal => same (Fin.ext equal)
            rw [Function.update_of_ne same]
            simp only [show worker.val < moved + 1 ↔ worker.val < moved by omega]
        rw [workers] at step
        exact (ih (by omega)).trans step
  have all := first count (Nat.le_refl count)
  have everyone : (fun worker : Fin count => if worker.val < count then after else before) =
      fun _ => after := funext fun worker => if_pos worker.isLt
  rw [everyone] at all
  exact all

theorem visit_empty (empty : ∀ queue, state.queue queue = []) {worker : Fin count}
    {points : Fin count → TaskWorkerPoint} {priority : ExecutorPriority} {n : Nat}
    (here : points worker = .scanning priority n) :
    Run (taskSystem count) anyStep { state with worker := points }
      { state with worker := Function.update points worker (nextVisit count priority n) } := by
  refine .single (.visit worker true) trivial ?_
  simp only [taskSystem, taskSystemStep, visitStep, here, empty]
  rfl

theorem scan_row (empty : ∀ queue, state.queue queue = []) (worker : Fin count)
    (priority : ExecutorPriority) (left : Nat) (points : Fin count → TaskWorkerPoint) (n : Nat)
    (here : points worker = .scanning priority n) (rest : n + left + 1 = reach count) :
    Run (taskSystem count) anyStep { state with worker := points }
      { state with
        worker := Function.update points worker (nextVisit count priority (reach count - 1)) } := by
  induction left generalizing points n with
  | zero =>
      rw [show reach count - 1 = n by omega]
      exact visit_empty empty here
  | succ left ih =>
      have visit := visit_empty empty here
      have goesOn : nextVisit count priority n = .scanning priority (n + 1) :=
        if_pos (by omega)
      rw [goesOn] at visit
      have rest := ih (Function.update points worker (.scanning priority (n + 1))) (n + 1)
        (by simp) (by omega)
      rw [Function.update_idem] at rest
      exact visit.trans rest

theorem scan_to_locking (state : TaskSystemState count) (empty : ∀ queue, state.queue queue = [])
    (points : Fin count → TaskWorkerPoint) (worker : Fin count)
    (here : points worker = .scanning 0 0) :
    Run (taskSystem count) anyStep { state with worker := points }
      { state with worker := Function.update points worker .locking } := by
  have positive := reach_pos count
  have ends : ¬reach count - 1 + 1 < reach count := by omega
  have high := scan_row empty worker 0 (reach count - 1) points 0 here (by omega)
  have medium := scan_row empty worker 1 (reach count - 1)
    (Function.update points worker (.scanning 1 0)) 0 (by simp) (by omega)
  have low := scan_row empty worker 2 (reach count - 1)
    (Function.update points worker (.scanning 2 0)) 0 (by simp) (by omega)
  simp only [nextVisit, if_neg ends, Function.update_idem] at high medium low
  exact (high.trans medium).trans low

theorem everyone_checked (count : Nat) [NeZero count] :
    Run (taskSystem count) anyStep (TaskSystemState.start count)
      ((TaskSystemState.start count).allWorkers .checked) := by
  refine run_each_worker (.scanning 0 0) .checked (fun points worker here => ?_) fun _ => rfl
  have locks := scan_to_locking (TaskSystemState.start count) (fun _ => rfl) points
    worker here
  refine locks.tail (.check worker) trivial ?_
  simp only [taskSystem, taskSystemStep, Function.update_self]
  simp [TaskSystemState.setWorker, TaskSystemState.start]

theorem everyone_waits (here : ∀ worker, state.worker worker = .checked) :
    Run (taskSystem count) anyStep state (state.allWorkers .waiting) := by
  refine run_each_worker .checked .waiting (fun points worker checked => ?_) here
  refine .single (.wait worker) trivial ?_
  simp only [taskSystem, taskSystemStep, checked]
  rfl

theorem everyone_waiting_settled (waiting : ∀ worker, state.worker worker = .waiting)
    (calls : ∀ call, state.call call = .absent ∨ state.call call = .returned)
    (destructor : state.destructor = .notEntered ∨ state.destructor = .joining) :
    Settled (taskSystem count) UnderWay state := by
  intro label allowed
  cases label with
  | execute | wakeSpuriously | setDone => exact absurd allowed id
  | tryPush call _ | push call | notify call =>
      rcases calls call with here | here <;> simp [taskSystem, taskSystemStep, tryPushStep, here]
  | visit worker _ | finish worker | check worker | wait worker =>
      simp [taskSystem, taskSystemStep, visitStep, waiting worker]
  | notifyNext | joinAll =>
      rcases destructor with here | here <;> simp [taskSystem, taskSystemStep, here, waiting]

/-- The task of a call that has returned, in its queue for ever. -/
theorem lost_notification_strands_task (count : Nat) [NeZero count]
    (priority : ExecutorPriority) :
    ∃ state, Reachable (taskSystem count) anyStep state ∧ state.call 0 = .returned ∧
      state.queue (priority, 0) = [0] ∧ (∀ worker, state.worker worker = .waiting) ∧
      state.destructor = .notEntered ∧ Settled (taskSystem count) UnderWay state := by
  have zero : ownerOf count 0 0 = 0 := Fin.ext (by simp [ownerOf])
  let ready := (TaskSystemState.start count).allWorkers .checked
  let called := { ready.setCall 0 (.pushing priority 0 0) with calls := 1, index := 1 }
  let queued := called.enqueue 0 priority 0
  let notified := queued.setCall 0 .returned
  have executes : Run (taskSystem count) anyStep ready called :=
    .single (.execute priority) trivial rfl
  have pushes : Run (taskSystem count) anyStep called queued := by
    refine .single (.tryPush 0 true) trivial ?_
    change tryPushStep 0 true called = some queued
    have here : called.call 0 = .pushing priority 0 0 := rfl
    simp only [tryPushStep, here, if_pos (reach_pos count), zero]
    rfl
  have notifies : Run (taskSystem count) anyStep queued notified := by
    refine .single (.notify 0) trivial ?_
    -- the owner has not begun to wait
    have unheard : queued.wake 0 = queued := wake_not_waiting fun waits => by cases waits
    have here : queued.call 0 = .notifying 0 := rfl
    simp only [taskSystem, taskSystemStep, here, unheard]
    rfl
  have waits : Run (taskSystem count) anyStep notified (notified.allWorkers .waiting) :=
    everyone_waits fun _ => rfl
  have run := ((((everyone_checked count).trans executes).trans pushes).trans notifies).trans waits
  refine ⟨notified.allWorkers .waiting, ⟨_, rfl, run⟩, rfl, ?_, fun _ => rfl, rfl, ?_⟩
  · change Function.update (fun _ => []) (priority, 0) ([] ++ [0]) (priority, 0) = [0]
    simp
  · refine everyone_waiting_settled (fun _ => rfl) (fun call => ?_) (.inl rfl)
    by_cases same : call = 0
    · exact .inr (by rw [same]; rfl)
    · refine .inl ?_
      simp [notified, queued, called, ready, TaskSystemState.allWorkers,
        TaskSystemState.enqueue, TaskSystemState.setCall, TaskSystemState.start, same]

theorem lost_notification_strands_task_four_workers :
    ∃ state : TaskSystemState 4, Reachable (taskSystem 4) anyStep state ∧
      state.call 0 = .returned ∧ state.queue (1, 0) = [0] ∧
      (∀ worker, state.worker worker = .waiting) ∧
      state.destructor = .notEntered ∧ Settled (taskSystem 4) UnderWay state :=
  lost_notification_strands_task 4 1

theorem notifies_unheard (state : TaskSystemState count) (left : Nat) (notified : Nat)
    (here : state.destructor = .notifying notified)
    (rest : notified + left = count) (checked : ∀ worker, state.worker worker = .checked) :
    Run (taskSystem count) anyStep state { state with destructor := .joining } := by
  induction left generalizing state notified with
  | zero =>
      refine .single .notifyNext trivial ?_
      simp only [taskSystem, taskSystemStep, here, dif_neg (show ¬notified < count by omega)]
  | succ left ih =>
      have unheard (owner : Fin count) : state.wake owner = state :=
        wake_not_waiting fun waits => by simp [checked] at waits
      have notifies : Run (taskSystem count) anyStep state
          { state with destructor := .notifying (notified + 1) } := by
        refine .single .notifyNext trivial ?_
        simp only [taskSystem, taskSystemStep, here, dif_pos (show notified < count by omega),
          unheard]
      exact notifies.trans
        (ih { state with destructor := .notifying (notified + 1) } (notified + 1) rfl
          (by omega) checked)

/-- The destructor joins workers that sleep for ever. -/
theorem lost_notification_hangs_destructor (count : Nat) [NeZero count] :
    ∃ state, Reachable (taskSystem count) anyStep state ∧ state.done = true ∧
      state.destructor = .joining ∧ (∀ worker, state.worker worker = .waiting) ∧
      Settled (taskSystem count) UnderWay state := by
  let ready := (TaskSystemState.start count).allWorkers .checked
  let done : TaskSystemState count := { ready with done := true, destructor := .notifying 0 }
  let joining : TaskSystemState count := { done with destructor := .joining }
  have sets : Run (taskSystem count) anyStep ready done := .single .setDone trivial rfl
  have notifies : Run (taskSystem count) anyStep done joining :=
    notifies_unheard done count 0 rfl (by omega) fun _ => rfl
  have waits : Run (taskSystem count) anyStep joining (joining.allWorkers .waiting) :=
    everyone_waits fun _ => rfl
  have run := (((everyone_checked count).trans sets).trans notifies).trans waits
  exact ⟨joining.allWorkers .waiting, ⟨_, rfl, run⟩, rfl, rfl, fun _ => rfl,
    everyone_waiting_settled (fun _ => rfl) (fun _ => .inl rfl) (.inr rfl)⟩

theorem lost_notification_hangs_destructor_four_workers :
    ∃ state : TaskSystemState 4, Reachable (taskSystem 4) anyStep state ∧ state.done = true ∧
      state.destructor = .joining ∧ (∀ worker, state.worker worker = .waiting) ∧
      Settled (taskSystem 4) UnderWay state :=
  lost_notification_hangs_destructor 4

end LostNotifications

/-- More than the steps from the first `try_pop` of a scan to the wait. -/
def roundPrice (count : Nat) : Nat := 3 * reach count + 3

def TaskWorkerPoint.price (count : Nat) : TaskWorkerPoint → Nat
  | .running _ => roundPrice count
  | .scanning priority n => (3 - priority.val) * reach count - n + 2
  | .locking => 2
  | .checked => 1
  | _ => 0

def ExecutePoint.price : ExecutePoint count → Nat
  | .pushing _ _ n => reach count - n + 1 + 2 * roundPrice count
  | .notifying _ => roundPrice count
  | _ => 0

def SystemDestructor.price (count : Nat) : SystemDestructor → Nat
  | .notifying notified => (count - notified) * roundPrice count + 2
  | .joining => 1
  | _ => 0

namespace TaskSystemState

def workersPrice (state : TaskSystemState count) : Nat :=
  tally (TaskWorkerPoint.price count) state.worker

def callsPrice (state : TaskSystemState count) : Nat :=
  ∑ call ∈ Finset.range state.calls, (state.call call).price

def queuedTasks (state : TaskSystemState count) : Nat := tally List.length state.queue

/-- No more steps than this are left without a new call. -/
def stepsLeft (state : TaskSystemState count) : Nat :=
  state.workersPrice + state.callsPrice + roundPrice count * state.queuedTasks +
    state.destructor.price count

end TaskSystemState

theorem set_worker_price (state : TaskSystemState count) (worker : Fin count)
    (point : TaskWorkerPoint) :
    (state.setWorker worker point).workersPrice + (state.worker worker).price count =
      state.workersPrice + point.price count :=
  tally_update (TaskWorkerPoint.price count) state.worker worker point

theorem set_call_price (state : TaskSystemState count) {call : Nat} (called : call < state.calls)
    (point : ExecutePoint count) :
    (state.setCall call point).callsPrice + (state.call call).price =
      state.callsPrice + point.price :=
  sum_update ExecutePoint.price state.call (Finset.mem_range.mpr called) point

theorem next_visit_price {priority : ExecutorPriority} {n : Nat} (within : n < reach count) :
    (nextVisit count priority n).price count <
      (TaskWorkerPoint.scanning priority n).price count := by
  have row : (3 - priority.val) * reach count =
      (2 - priority.val) * reach count + reach count := by
    rw [show 3 - priority.val = (2 - priority.val) + 1 by omega, Nat.succ_mul]
  unfold nextVisit
  split_ifs with goesOn
  · simp only [TaskWorkerPoint.price]
    omega
  · match priority with
    | 0 | 1 | 2 => simp [TaskWorkerPoint.price]; omega

theorem scanning_price (priority : ExecutorPriority) {n : Nat} (within : n < reach count) :
    2 < (TaskWorkerPoint.scanning priority n).price count := by
  have row : (3 - priority.val) * reach count =
      (2 - priority.val) * reach count + reach count := by
    rw [show 3 - priority.val = (2 - priority.val) + 1 by omega, Nat.succ_mul]
  simp only [TaskWorkerPoint.price]
  omega

theorem wake_price (state : TaskSystemState count) (owner : Fin count) :
    (state.wake owner).workersPrice < state.workersPrice + roundPrice count := by
  by_cases waits : state.worker owner = .waiting
  · have moved := set_worker_price state owner (.scanning 0 0)
    rw [waits] at moved
    rw [wake_waiting waits]
    simp [TaskWorkerPoint.price, roundPrice] at moved ⊢
    omega
  · rw [wake_not_waiting waits]
    simp [roundPrice]

/-- The worker will come to its own queue of that priority before it waits. -/
def Attentive (priority : ExecutorPriority) : TaskWorkerPoint → Prop
  | .running _ => True
  | .scanning current n => current < priority ∨ current = priority ∧ n = 0
  | _ => False

instance attentive_decidable (priority : ExecutorPriority) :
    (point : TaskWorkerPoint) → Decidable (Attentive priority point)
  | .running _ => isTrue trivial
  | .scanning current n =>
      inferInstanceAs (Decidable (current < priority ∨ current = priority ∧ n = 0))
  | .locking | .checked | .waiting | .exited => isFalse id

/-- A notification finds its owner waiting, or on the way to what is in its queues; and
`try_pop` of a worker's own queue does not fail while there is something in it. -/
def Watched : Permission (TaskSystemState count) (TaskSystemLabel count)
  | .notify call, state => ∀ owner, state.call call = .notifying owner →
      state.worker owner = .waiting ∨
        ∀ priority, state.queue (priority, owner) ≠ [] → Attentive priority (state.worker owner)
  | .visit worker locked, state => locked = false →
      ∀ priority, state.worker worker = .scanning priority 0 → state.queue (priority, worker) = []
  | _, _ => True

instance watched_decidable :
    (label : TaskSystemLabel count) → (state : TaskSystemState count) →
      Decidable (Watched label state)
  | .notify call, state => inferInstanceAs (Decidable (∀ owner,
      state.call call = .notifying owner → state.worker owner = .waiting ∨
        ∀ priority, state.queue (priority, owner) ≠ [] → Attentive priority (state.worker owner)))
  | .visit worker locked, state => inferInstanceAs (Decidable (locked = false → ∀ priority,
      state.worker worker = .scanning priority 0 → state.queue (priority, worker) = []))
  | .execute _, _ | .tryPush _ _, _ | .push _, _ | .finish _, _ | .check _, _ | .wait _, _
  | .wakeSpuriously _, _ | .setDone, _ | .notifyNext, _ | .joinAll, _ => isTrue trivial

/-- What is in a queue is about to be announced or about to be seen. -/
def Heard (state : TaskSystemState count) : Prop :=
  ∀ priority owner, state.queue (priority, owner) ≠ [] →
    (∃ call, state.call call = .notifying owner) ∨ Attentive priority (state.worker owner)

theorem attentive_start (priority : ExecutorPriority) : Attentive priority (.scanning 0 0) := by
  rcases Fin.eq_zero_or_eq_succ priority with rfl | ⟨k, rfl⟩
  · exact .inr ⟨rfl, rfl⟩
  · exact .inl (Fin.succ_pos k)

theorem attentive_next {priority current : ExecutorPriority} {n : Nat}
    (attentive : Attentive priority (.scanning current n)) (other : n = 0 → current ≠ priority) :
    Attentive priority (nextVisit count current n) := by
  have below : current < priority :=
    attentive.elim id fun ⟨same, first⟩ => absurd same (other first)
  unfold nextVisit
  split_ifs
  · exact .inl below
  · have lower : ∀ before after : ExecutorPriority, before < after →
        before = 0 ∧ after = 1 ∨ before = 0 ∧ after = 2 ∨ before = 1 ∧ after = 2 := by decide
    rcases lower current priority below with ⟨rfl, rfl⟩ | ⟨rfl, rfl⟩ | ⟨rfl, rfl⟩
    · exact .inr ⟨rfl, rfl⟩
    · exact .inl (by decide)
    · exact .inr ⟨rfl, rfl⟩

theorem Heard.worker_moves (heard : Heard state) (worker : Fin count) (point : TaskWorkerPoint)
    (attentive : ∀ priority, state.queue (priority, worker) ≠ [] →
      Attentive priority (state.worker worker) → Attentive priority point) :
    Heard (state.setWorker worker point) := by
  intro priority owner filled
  rcases heard priority owner filled with announced | seen
  · exact .inl announced
  · refine .inr ?_
    by_cases same : owner = worker
    · subst same
      simpa [TaskSystemState.setWorker] using attentive priority filled seen
    · simpa [TaskSystemState.setWorker, Function.update_of_ne same] using seen

theorem Heard.wake (heard : Heard state) (owner : Fin count) : Heard (state.wake owner) := by
  by_cases waits : state.worker owner = .waiting
  · rw [wake_waiting waits]
    exact heard.worker_moves owner _ fun priority _ _ => attentive_start priority
  · rw [wake_not_waiting waits]
    exact heard

theorem Heard.call_moves (heard : Heard state) {call : Nat} (point : ExecutePoint count)
    (before : ∀ owner, state.call call ≠ .notifying owner) :
    Heard (state.setCall call point) := by
  intro priority owner filled
  rcases heard priority owner filled with ⟨other, announces⟩ | seen
  · refine .inl ⟨other, ?_⟩
    have different : other ≠ call := by
      rintro rfl
      exact before owner announces
    simpa [TaskSystemState.setCall, Function.update_of_ne different] using announces
  · exact .inr seen

theorem Heard.enqueue (heard : Heard state) {call : Nat} {priority : ExecutorPriority} {i n : Nat}
    (here : state.call call = .pushing priority i n) (owner : Fin count) :
    Heard (state.enqueue call priority owner) := by
  intro p k filled
  by_cases same : k = owner
  · subst same
    exact .inl ⟨call, by simp [TaskSystemState.enqueue, TaskSystemState.setCall]⟩
  · have other : (p, k) ≠ (priority, owner) := fun equal => same (Prod.ext_iff.mp equal).2
    have filled : state.queue (p, k) ≠ [] := by
      simpa [TaskSystemState.enqueue, Function.update_of_ne other] using filled
    exact heard.call_moves (.notifying owner) (by simp [here]) p k filled

theorem Heard.notify (heard : Heard state) {call : Nat} {owner : Fin count}
    (here : state.call call = .notifying owner)
    (watched : state.worker owner = .waiting ∨
      ∀ priority, state.queue (priority, owner) ≠ [] → Attentive priority (state.worker owner)) :
    Heard ((state.wake owner).setCall call .returned) := by
  intro priority k filled
  by_cases same : k = owner
  · subst same
    refine .inr ?_
    rcases watched with waits | attentive
    · rw [wake_waiting waits]
      simpa [TaskSystemState.setCall, TaskSystemState.setWorker] using attentive_start priority
    · have seen := attentive priority filled
      have awake : state.worker k ≠ .waiting := fun waits => by simp [waits, Attentive] at seen
      rw [wake_not_waiting awake]
      exact seen
  · rcases heard.wake owner priority k filled with ⟨other, announces⟩ | seen
    · refine .inl ⟨other, ?_⟩
      have announces : state.call other = .notifying k := announces
      have different : other ≠ call := by
        rintro rfl
        rw [here] at announces
        cases announces
        exact same rfl
      simpa [TaskSystemState.setCall, TaskSystemState.wake, TaskSystemState.setWorker,
        Function.update_of_ne different] using announces
    · exact .inr seen

theorem Heard.dequeue (heard : Heard state) (worker : Fin count) (priority : ExecutorPriority)
    (owner : Fin count) {f : Nat} {rest : List Nat}
    (first : state.queue (priority, owner) = f :: rest) :
    Heard (state.dequeue worker priority owner f rest) := by
  have moved := heard.worker_moves worker (.running f) fun _ _ _ => trivial
  intro p k filled
  refine moved p k ?_
  by_cases same : (p, k) = (priority, owner)
  · change state.queue (p, k) ≠ []
    rw [same, first]
    simp
  · change state.queue (p, k) ≠ []
    simpa [TaskSystemState.dequeue, Function.update_of_ne same] using filled

variable [NeZero count]

theorem Heard.moves (heard : Heard state) (size : count ≤ unsignedRange)
    (delivered : Delivered state) {label : TaskSystemLabel count}
    (watched : Watched label state) (moved : TaskSystemMove state label next) : Heard next := by
  cases moved with
  | execute priority =>
      have absent := delivered.fresh state.calls (Nat.le_refl _)
      exact heard.call_moves (.pushing priority state.index 0) (by simp [absent])
  | retry call priority i n here _ => exact heard.call_moves _ (by simp [here])
  | enqueue _ call priority i n owner _ here => exact heard.enqueue here owner
  | notify call owner here => exact heard.notify here (watched owner here)
  | dequeue worker priority n f rest here first => exact heard.dequeue worker priority _ first
  | finish worker f here =>
      exact heard.worker_moves worker (.scanning 0 0) fun priority _ _ => attentive_start priority
  | scanOn worker locked priority n here missed =>
      refine heard.worker_moves worker _ fun p filled attentive => ?_
      rw [here] at attentive
      refine attentive_next attentive fun first same => ?_
      subst first same
      -- the worker has just looked into its own queue
      have own : ownerOf count worker 0 = worker := owner_of_self size worker
      cases locked with
      | false => exact filled (watched rfl priority here)
      | true =>
          have empty := missed rfl
          rw [own] at empty
          exact filled empty
  | check worker here | wait worker here =>
      refine heard.worker_moves worker _ fun p _ attentive => ?_
      rw [here] at attentive
      exact absurd attentive id
  | wakeSpuriously worker here =>
      exact heard.worker_moves worker (.scanning 0 0) fun priority _ _ => attentive_start priority
  | notifyNext owner here => exact heard.wake owner
  | setDone _ | join _ _ _ | joinAll _ _ => exact heard

theorem heard_reachable (size : count ≤ unsignedRange)
    (reached : Reachable (taskSystem count) Watched state) : Heard state := by
  have both : Delivered state ∧ Heard state := by
    apply reached.keeps
    · rintro _ rfl
      exact ⟨delivered_start count, fun _ _ filled => absurd rfl filled⟩
    · rintro label before after ⟨delivered, heard⟩ watched taken
      have moved := task_system_step_moves taken
      exact ⟨delivered.moves moved, heard.moves size delivered watched moved⟩
  exact both.2

theorem settled_worker (settled : Settled (taskSystem count) UnderWay state)
    (worker : Fin count) :
    (∀ f, state.worker worker ≠ .running f) ∧
      ∀ priority, ¬Attentive priority (state.worker worker) := by
  have running (f : Nat) : state.worker worker ≠ .running f := fun here => by
    have stuck := settled (.finish worker) trivial
    simp [taskSystem, taskSystemStep, here] at stuck
  refine ⟨running, fun priority attentive => ?_⟩
  cases here : state.worker worker with
  | running f => exact running f here
  | scanning current n =>
      have stuck := settled (.visit worker false) trivial
      simp [taskSystem, taskSystemStep, visitStep, here] at stuck
  | locking | checked | waiting | exited =>
      rw [here] at attentive
      exact attentive

theorem settled_call (settled : Settled (taskSystem count) UnderWay state) (call : Nat) :
    (∀ owner, state.call call ≠ .notifying owner) ∧ (state.call call).pushes = 0 := by
  refine ⟨fun owner here => ?_, ?_⟩
  · have stuck := settled (.notify call) trivial
    simp [taskSystem, taskSystemStep, here] at stuck
  · cases here : state.call call with
    | pushing priority i n =>
        by_cases below : n < reach count
        · have stuck := settled (.tryPush call true) trivial
          simp [taskSystem, taskSystemStep, tryPushStep, here, below] at stuck
        · have stuck := settled (.push call) trivial
          simp [taskSystem, taskSystemStep, here, below] at stuck
    | absent | notifying | returned => rfl

theorem settled_runs_all (size : count ≤ unsignedRange)
    (reached : Reachable (taskSystem count) Watched state)
    (settled : Settled (taskSystem count) UnderWay state) (f : Nat) (called : f < state.calls) :
    state.finished.count f = 1 := by
  have place := (delivered_reachable reached).places f
  have queues : state.queued f = 0 := by
    refine tally_zero_iff.mpr fun ⟨priority, owner⟩ => ?_
    by_contra inside
    have filled : state.queue (priority, owner) ≠ [] := fun empty => inside (by rw [empty]; rfl)
    rcases heard_reachable size reached priority owner filled with ⟨call, announces⟩ | seen
    · exact (settled_call settled call).1 owner announces
    · exact (settled_worker settled owner).2 priority seen
  have workers : state.beingRun f = 0 := by
    refine tally_zero_iff.mpr fun worker => ?_
    exact if_neg ((settled_worker settled worker).1 f)
  rw [TaskSystemState.places, (settled_call settled f).2, queues, workers, if_pos called] at place
  omega

theorem steps_left_less (delivered : Delivered state) {label : TaskSystemLabel count}
    (allowed : UnderWay label state) (moved : TaskSystemMove state label next) :
    next.stepsLeft < state.stepsLeft := by
  have worker_moves (worker : Fin count) (point : TaskWorkerPoint)
      (cheaper : point.price count < (state.worker worker).price count) :
      (state.setWorker worker point).stepsLeft < state.stepsLeft := by
    have price := set_worker_price state worker point
    change (state.setWorker worker point).workersPrice + state.callsPrice + _ + _ <
      state.workersPrice + state.callsPrice + _ + _
    exact Nat.add_lt_add_right (Nat.add_lt_add_right (by omega) _) _
  cases moved with
  | execute | wakeSpuriously | setDone => exact absurd allowed id
  | retry call priority i n here below =>
      have called := delivered.called call (by simp [here])
      have price := set_call_price state called (.pushing priority i (n + 1))
      rw [here] at price
      simp only [ExecutePoint.price] at price
      change state.workersPrice + (state.setCall call _).callsPrice + _ + _ <
        state.workersPrice + state.callsPrice + _ + _
      exact Nat.add_lt_add_right (Nat.add_lt_add_right (by omega) _) _
  | enqueue _ call priority i n owner _ here =>
      have called := delivered.called call (by simp [here])
      have price := set_call_price state called (.notifying owner)
      have longer := tally_update List.length state.queue (priority, owner)
        (state.queue (priority, owner) ++ [call])
      rw [here] at price
      simp only [ExecutePoint.price, List.length_append, List.length_singleton] at price longer
      have queued : (state.enqueue call priority owner).queuedTasks = state.queuedTasks + 1 := by
        simp only [TaskSystemState.queuedTasks, TaskSystemState.enqueue]
        omega
      simp only [TaskSystemState.stepsLeft, queued, Nat.mul_succ]
      change state.workersPrice + (state.setCall call (.notifying owner)).callsPrice + _ +
        state.destructor.price count < _
      omega
  | notify call owner here =>
      have woken := wake_price state owner
      have called := delivered.called call (by simp [here])
      have price := set_call_price (state.wake owner) called .returned
      change _ + ExecutePoint.price (state.call call) = state.callsPrice + 0 at price
      rw [here] at price
      simp only [ExecutePoint.price] at price
      change (state.wake owner).workersPrice + ((state.wake owner).setCall call _).callsPrice +
        _ + _ < state.workersPrice + state.callsPrice + _ + _
      exact Nat.add_lt_add_right (Nat.add_lt_add_right (by omega) _) _
  | dequeue worker priority n f rest here first =>
      have price := set_worker_price state worker (.running f)
      have cheap := scanning_price priority (delivered.scans worker priority n here)
      have shorter := tally_update List.length state.queue (priority, ownerOf count worker n) rest
      rw [here] at price
      rw [first, List.length_cons] at shorter
      have queued :
          (state.dequeue worker priority (ownerOf count worker n) f rest).queuedTasks + 1 =
          state.queuedTasks := by
        simp only [TaskSystemState.queuedTasks, TaskSystemState.dequeue]
        omega
      simp only [TaskSystemState.stepsLeft, ← queued, Nat.mul_succ]
      simp only [TaskWorkerPoint.price] at price
      change (state.setWorker worker (.running f)).workersPrice + state.callsPrice + _ +
        state.destructor.price count < _
      omega
  | finish worker f here =>
      refine worker_moves worker (.scanning 0 0) ?_
      rw [here]
      simp [TaskWorkerPoint.price, roundPrice]
  | scanOn worker _ priority n here _ =>
      refine worker_moves worker _ ?_
      rw [here]
      exact next_visit_price (delivered.scans worker priority n here)
  | check worker here =>
      refine worker_moves worker _ ?_
      rw [here]
      split <;> simp [TaskWorkerPoint.price]
  | wait worker here =>
      refine worker_moves worker _ ?_
      rw [here]
      simp [TaskWorkerPoint.price]
  | notifyNext owner here =>
      have woken := wake_price state owner
      have below := owner.isLt
      have nextPrice : (count - owner) * roundPrice count =
          (count - (owner + 1)) * roundPrice count + roundPrice count := by
        rw [show count - owner.val = (count - (owner + 1)) + 1 by omega, Nat.succ_mul]
      simp only [TaskSystemState.stepsLeft, here, SystemDestructor.price]
      change (state.wake owner).workersPrice + state.callsPrice +
        roundPrice count * state.queuedTasks + _ < _
      omega
  | join notified here _ =>
      simp only [TaskSystemState.stepsLeft, here, SystemDestructor.price]
      change state.workersPrice + state.callsPrice + roundPrice count * state.queuedTasks + 1 < _
      omega
  | joinAll here _ =>
      simp only [TaskSystemState.stepsLeft, here, SystemDestructor.price]
      change state.workersPrice + state.callsPrice + roundPrice count * state.queuedTasks + 0 < _
      omega

def TaskSystemRests (state : TaskSystemState count) (amount : Nat) : Prop :=
  Delivered state ∧ state.stepsLeft = amount

theorem task_system_lowers : Lowers (taskSystem count) UnderWay TaskSystemRests := by
  rintro label state next amount ⟨delivered, rfl⟩ allowed taken
  have moved := task_system_step_moves taken
  exact ⟨next.stepsLeft, steps_left_less delivered allowed moved, delivered.moves moved, rfl⟩

/-- With no new calls every run comes to an end, and when no notification has been lost
every task that `execute` was called with has then been run. -/
theorem watched_system_runs_every_task (size : count ≤ unsignedRange)
    (reached : Reachable (taskSystem count) anyStep state) :
    (∀ steps finish, CountedRun (taskSystem count) UnderWay steps state finish →
      steps ≤ state.stepsLeft) ∧
    (Reachable (taskSystem count) Watched state → Settled (taskSystem count) UnderWay state →
      ∀ f < state.calls, state.finished.count f = 1) := by
  refine ⟨fun steps finish run => ?_, settled_runs_all size⟩
  exact run.bounded task_system_lowers ⟨delivered_reachable reached, rfl⟩

/-- One worker runs the task, scans once more and waits. -/
theorem watched_system_runs_every_task_one_worker :
    ∃ state : TaskSystemState 1, state.calls = 1 ∧ state.worker 0 = .waiting ∧
      state.finished.count 0 = 1 := by
  obtain ⟨state, reached, waits, calls, returned, destructor⟩ : ∃ state,
      Reachable (taskSystem 1) Watched state ∧ state.worker 0 = .waiting ∧ state.calls = 1 ∧
      state.call 0 = .returned ∧ state.destructor = .notEntered :=
    schedule_reaches ([.execute 1, .tryPush 0 true, .notify 0] ++
      List.replicate 65 (.visit 0 true) ++ [.finish 0] ++ List.replicate 192 (.visit 0 true) ++
      [.check 0, .wait 0]) rfl (by decide +kernel)
  have settled : Settled (taskSystem 1) UnderWay state := by
    refine everyone_waiting_settled (fun worker => ?_) (fun call => ?_) (.inl destructor)
    · rw [Subsingleton.elim worker 0]
      exact waits
    · cases call with
      | zero => exact .inr returned
      | succ call => exact .inl ((delivered_reachable reached).fresh _ (by omega))
  obtain ⟨_, once⟩ := watched_system_runs_every_task (by decide) reached.unrestricted
  exact ⟨state, calls, waits, once reached settled 0 (by omega)⟩

end Schedulers.Stlab
