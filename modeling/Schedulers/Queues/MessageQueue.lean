import Schedulers.Support.NotifyMonitor

/-!
# `message_queue` of `safe_queue_cc11.h`

An unbounded queue on one mutex and one condition variable. Every `enqueue` notifies
one waiter while it holds the lock; `dequeue` waits as long as the queue is empty and
tests again after each wait. Both copies of the class, in `executors` and in `shadow`,
have this code. Copies of elements are taken not to throw.
-/

namespace Schedulers.Queues

open Schedulers.TransitionSystem Schedulers.ThreadCounting Schedulers.NotifyMonitor

set_option autoImplicit false

inductive MessageQueueCall (T : Type) where
  | enqueue (t : T)
  | dequeue
  deriving DecidableEq, Repr

/-- `dequeue` is the only call that waits, and has no local to remember. -/
inductive MessageQueueFrame where
  | dequeue
  deriving DecidableEq, Repr

inductive MessageQueueResult (T : Type) where
  | enqueued (t : T)
  | dequeued (val : T)
  deriving DecidableEq, Repr

variable {Thread T : Type}

abbrev MessageQueueSection (T : Type) :=
  NotifySection (List T) MessageQueueFrame (MessageQueueResult T)

def MessageQueue.enqueue (t : T) (q : List T) : MessageQueueSection T :=
  .leave (q ++ [t]) (.enqueued t) true

/-- `dequeue` from the test of its loop on. -/
def MessageQueue.dequeue (q : List T) : MessageQueueSection T :=
  match q with
  | [] => .wait [] .dequeue
  | val :: rest => .leave rest (.dequeued val) false

def messageQueue (T : Type) :
    NotifyingMonitor (List T) (MessageQueueCall T) MessageQueueFrame (MessageQueueResult T) where
  enter
    | .enqueue t, q => MessageQueue.enqueue t q
    | .dequeue, q => MessageQueue.dequeue q
  resume
    | .dequeue, q => MessageQueue.dequeue q

abbrev MessageQueueState (Thread T : Type) :=
  NotifyState Thread (List T) MessageQueueFrame (MessageQueueResult T)

abbrev MessageQueueLabel (Thread T : Type) := NotifyLabel Thread (MessageQueueCall T)

theorem message_queue_enter_serves (call : MessageQueueCall T) (q : List T) :
    Serves List.length q.length ((messageQueue T).enter call q) := by
  cases call with
  | enqueue t =>
      change (q ++ [t]).length ≤ q.length + 1
      simp
  | dequeue =>
      cases q with
      | nil => rfl
      | cons val rest => exact Nat.le_succ rest.length

theorem message_queue_resume_serves (frame : MessageQueueFrame) (q : List T) :
    Serves List.length (q.length - 1) ((messageQueue T).resume frame q) := by
  cases frame with
  | dequeue =>
      cases q with
      | nil => rfl
      | cons val rest => exact Nat.le_refl rest.length

variable [DecidableEq Thread]

abbrev messageQueueSystem (Thread T : Type) [DecidableEq Thread] :
    System (MessageQueueState Thread T) (MessageQueueLabel Thread T) :=
  (messageQueue T).system []

/-- While a thread waits un-notified there are at least as many woken threads that do
not have the mutex again yet as elements in the queue; so the queue is empty when
everybody in `dequeue` waits. -/
theorem message_queue_loses_no_wake_up (state : MessageQueueState Thread T)
    (reached : Reachable (messageQueueSystem Thread T) anyStep state) :
    ((∃ thread, (state.thread thread).isWaiting) →
      AtLeast state.shared.length WaiterPoint.isWoken state.thread) ∧
    ((∃ thread, (state.thread thread).isWaiting) →
      (∀ thread, state.thread thread ≠ .outside → (state.thread thread).isWaiting) →
        state.shared = []) := by
  have given : Served List.length state :=
    served_reachable message_queue_enter_serves message_queue_resume_serves reached
  have enough : (∃ thread, (state.thread thread).isWaiting) →
      AtLeast state.shared.length WaiterPoint.isWoken state.thread := by
    intro ⟨thread, waits⟩
    exact given.served ⟨thread, (given.waitSet thread).mpr waits⟩
  refine ⟨enough, fun somebody everybody => ?_⟩
  obtain ⟨threads, count, woken⟩ := enough somebody
  have none : threads = ∅ := by
    apply Finset.eq_empty_of_forall_notMem
    intro thread member
    have awake := woken thread member
    cases point : state.thread thread with
    | outside => simp [point, WaiterPoint.isWoken] at awake
    | waiting => simp [point, WaiterPoint.isWoken] at awake
    | woken =>
        have waits := everybody thread (by simp [point])
        simp [point, WaiterPoint.isWaiting] at waits
  rw [none, Finset.card_empty] at count
  exact List.eq_nil_of_length_eq_zero (Nat.le_zero.mp count)

/-- Two consumers wait and one element comes: one of them has been woken. -/
theorem message_queue_loses_no_wake_up_two_consumers :
    ∃ state : MessageQueueState Nat Nat, state.shared = [7] ∧
      (∃ thread, (state.thread thread).isWaiting) ∧
      AtLeast 1 WaiterPoint.isWoken state.thread := by
  let labels : List (MessageQueueLabel Nat Nat) :=
    [.enter 0 .dequeue none, .enter 1 .dequeue none, .enter 2 (.enqueue 7) (some 1)]
  obtain ⟨state, reached, contents, waits⟩ : ∃ state,
      Reachable (messageQueueSystem Nat Nat) anyStep state ∧
      state.shared = [7] ∧ state.thread 0 = .waiting .dequeue :=
    schedule_reaches labels rfl (by decide)
  have somebody : ∃ thread, (state.thread thread).isWaiting := by
    refine ⟨0, ?_⟩
    rw [waits]
    trivial
  have woken := (message_queue_loses_no_wake_up state reached).1 somebody
  rw [contents] at woken
  exact ⟨state, contents, somebody, woken⟩

end Schedulers.Queues
