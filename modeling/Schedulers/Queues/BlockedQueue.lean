import Schedulers.Queues.BoundedBlockedQueueOrder

/-!
# `BlockedQueue` of `test_pthread_safe_queue.cc`

An unbounded queue on one mutex and one condition variable. Only the `push` that
finds the queue empty broadcasts, after its unlock; `try_pop` waits as long as the
queue is empty and tests again after each wait. Copies of elements are taken not to
throw.
-/

namespace Schedulers.Queues

open Schedulers.TransitionSystem Schedulers.BroadcastMonitor Schedulers.FifoHistory

set_option autoImplicit false

inductive BlockedQueueCondition where
  | cond
  deriving DecidableEq, Repr

inductive BlockedQueueCall (T : Type) where
  | push (src : T)
  | tryPop
  deriving DecidableEq, Repr

/-- `try_pop` is the only call that waits, and has no local to remember. -/
inductive BlockedQueueFrame where
  | tryPop
  deriving DecidableEq, Repr

variable {Thread T : Type}

abbrev BlockedQueueSection (T : Type) :=
  Section (List T) BlockedQueueFrame BlockedQueueCondition (QueueResult T)

def BlockedQueue.push (src : T) (list : List T) : BlockedQueueSection T :=
  .leave (list ++ [src]) (.pushed src) (if list.isEmpty then [.cond] else [])

/-- `try_pop` from the test of its loop on. -/
def BlockedQueue.tryPop (list : List T) : BlockedQueueSection T :=
  match list with
  | [] => .wait [] .cond .tryPop
  | front :: rest => .leave rest (.popped front) []

def blockedQueue (T : Type) :
    Monitor (List T) (BlockedQueueCall T) BlockedQueueFrame BlockedQueueCondition
      (QueueResult T) where
  enter
    | .push src, list => BlockedQueue.push src list
    | .tryPop, list => BlockedQueue.tryPop list
  resume
    | .tryPop, list => BlockedQueue.tryPop list

abbrev BlockedQueueState (Thread T : Type) :=
  MonitorState Thread (List T) BlockedQueueFrame BlockedQueueCondition (QueueResult T)

abbrev BlockedQueueLabel (Thread T : Type) := MonitorLabel Thread (BlockedQueueCall T)

theorem blocked_push_covers (state : BlockedQueueState Thread T) (src : T) :
    Covers (· ≠ []) .cond state (BlockedQueue.push src state.shared) := by
  intro _ quiet
  left
  intro empty
  simp [empty] at quiet

theorem blocked_try_pop_covers (state : BlockedQueueState Thread T) :
    Covers (· ≠ []) .cond state (BlockedQueue.tryPop state.shared) := by
  cases content : state.shared with
  | nil => exact fun nonempty => absurd rfl nonempty
  | cons front rest =>
      intro _ _
      left
      rw [content]
      exact List.cons_ne_nil front rest

theorem blocked_enter_covers (state : BlockedQueueState Thread T) (call : BlockedQueueCall T) :
    Covers (· ≠ []) .cond state ((blockedQueue T).enter call state.shared) := by
  cases call with
  | push src => exact blocked_push_covers state src
  | tryPop => exact blocked_try_pop_covers state

theorem blocked_resume_covers (state : BlockedQueueState Thread T) (frame : BlockedQueueFrame) :
    Covers (· ≠ []) .cond state ((blockedQueue T).resume frame state.shared) := by
  cases frame with
  | tryPop => exact blocked_try_pop_covers state

abbrev BlockedQueueKeepsOrder (list : List T) (results : List (QueueResult T)) : Prop :=
  Fifo (queueEvents results) list

theorem blocked_push_orders {src : T} {list : List T} {results : List (QueueResult T)}
    (given : BlockedQueueKeepsOrder list results) :
    BlockedQueueKeepsOrder (BlockedQueue.push src list).shared
      ((BlockedQueue.push src list).results results) := by
  dsimp only [BlockedQueue.push, Section.shared, Section.results]
  rw [BlockedQueueKeepsOrder, queue_events_append]
  exact given.push src

theorem blocked_try_pop_orders {list : List T} {results : List (QueueResult T)}
    (given : BlockedQueueKeepsOrder list results) :
    BlockedQueueKeepsOrder (BlockedQueue.tryPop list).shared
      ((BlockedQueue.tryPop list).results results) := by
  cases list with
  | nil => exact given
  | cons front rest =>
      dsimp only [BlockedQueue.tryPop, Section.shared, Section.results]
      rw [BlockedQueueKeepsOrder, queue_events_append]
      exact given.pop

theorem blocked_enter_orders (call : BlockedQueueCall T) (list : List T)
    (results : List (QueueResult T)) (given : BlockedQueueKeepsOrder list results) :
    BlockedQueueKeepsOrder ((blockedQueue T).enter call list).shared
      (((blockedQueue T).enter call list).results results) := by
  cases call with
  | push src => exact blocked_push_orders given
  | tryPop => exact blocked_try_pop_orders given

theorem blocked_resume_orders (frame : BlockedQueueFrame) (list : List T)
    (results : List (QueueResult T)) (given : BlockedQueueKeepsOrder list results) :
    BlockedQueueKeepsOrder ((blockedQueue T).resume frame list).shared
      (((blockedQueue T).resume frame list).results results) := by
  cases frame with
  | tryPop => exact blocked_try_pop_orders given

variable [DecidableEq Thread]

abbrev blockedQueueSystem (Thread T : Type) [DecidableEq Thread] :
    System (BlockedQueueState Thread T) (BlockedQueueLabel Thread T) :=
  (blockedQueue T).system []

theorem blocked_queue_covered {state : BlockedQueueState Thread T}
    (reached : Reachable (blockedQueueSystem Thread T) anyStep state) :
    Covered (· ≠ []) .cond state := by
  apply reached.keeps
  · intro start begins nonempty
    rw [begins] at nonempty
    exact absurd rfl nonempty
  · intro label before after given _ taken
    apply covered_step _ _ given taken
    · intro _ call _
      exact blocked_enter_covers before call
    · intro _ frame _ _
      exact blocked_resume_covers before frame

/-- In every reachable state in which somebody waits before an element a broadcast is
still to be issued, and the calls completed so far have taken out what was put in,
in that order and each element once. -/
theorem blocked_queue_loses_no_wake_up (state : BlockedQueueState Thread T)
    (reached : Reachable (blockedQueueSystem Thread T) anyStep state) :
    (state.shared ≠ [] → Waiting .cond state → Pending .cond state) ∧
    (¬Pending .cond state → Waiting .cond state → state.shared = []) ∧
    Fifo (queueEvents state.results) state.shared ∧
    pops (queueEvents state.results) ++ state.shared = pushes (queueEvents state.results) := by
  have covered := blocked_queue_covered reached
  have ordered : BlockedQueueKeepsOrder state.shared state.results :=
    results_reachable .empty blocked_enter_orders blocked_resume_orders reached
  refine ⟨covered, ?_, ordered, ordered.in_order⟩
  intro silent waiting
  by_contra nonempty
  exact silent (covered nonempty waiting)

/-- A consumer waits, the queue is filled, and the producer has not broadcast yet. -/
theorem blocked_queue_loses_no_wake_up_before_broadcast :
    ∃ state : BlockedQueueState Nat Nat, state.shared = [7] ∧ Waiting .cond state ∧
      Pending .cond state := by
  let labels : List (BlockedQueueLabel Nat Nat) := [.enter 0 .tryPop, .enter 1 (.push 7)]
  obtain ⟨state, reached, contents, blocked⟩ : ∃ state,
      Reachable (blockedQueueSystem Nat Nat) anyStep state ∧
      state.shared = [7] ∧ state.thread 0 = .blocked .cond .tryPop :=
    schedule_reaches labels rfl (by decide)
  have waiting : Waiting .cond state := ⟨0, .tryPop, blocked⟩
  have covered := (blocked_queue_loses_no_wake_up state reached).1
  exact ⟨state, contents, waiting, covered (by simp [contents]) waiting⟩

end Schedulers.Queues
