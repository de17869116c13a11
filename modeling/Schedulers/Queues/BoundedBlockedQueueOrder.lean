import Schedulers.Support.FifoHistory
import Schedulers.Queues.BoundedBlockedQueueWakeups

/-!
# Capacity and order of the bounded queue

A waiter tests again after each wait, in the section in which it then adds or takes
its element. So each section alone keeps `size_` within the bound and the contents
in order, whatever the other threads did while the caller waited.
-/

namespace Schedulers.Queues

open Schedulers.TransitionSystem Schedulers.BroadcastMonitor Schedulers.FifoHistory

set_option autoImplicit false

variable {Thread T : Type} {maxSize : Int}

def QueueResult.event : QueueResult T → FifoEvent T
  | .pushed src => .pushed src
  | .popped dst => .popped dst

def queueEvents (results : List (QueueResult T)) : List (FifoEvent T) :=
  results.map QueueResult.event

structure QueueKeepsOrder (maxSize : Int) (queue : BoundedBlockedQueue T)
    (results : List (QueueResult T)) : Prop where
  within : WithinBound maxSize queue
  ordered : Fifo (queueEvents results) queue.list

@[simp] theorem queue_events_append (results : List (QueueResult T)) (result : QueueResult T) :
    queueEvents (results ++ [result]) = queueEvents results ++ [result.event] := by
  simp [queueEvents]

theorem push_section_orders {src : T} {wasEmpty : Bool} {queue : BoundedBlockedQueue T}
    {results : List (QueueResult T)} (given : QueueKeepsOrder maxSize queue results) :
    QueueKeepsOrder maxSize (pushSection maxSize src wasEmpty queue).shared
      ((pushSection maxSize src wasEmpty queue).results results) := by
  constructor
  · exact push_section_within src wasEmpty given.within
  · unfold pushSection
    by_cases full : queue.size = maxSize
    · rw [if_pos full]
      exact given.ordered
    · rw [if_neg full]
      dsimp only [Section.shared, Section.results]
      rw [queue_events_append]
      exact given.ordered.push src

theorem pop_section_orders {wasFull : Bool} {queue : BoundedBlockedQueue T}
    {results : List (QueueResult T)} (given : QueueKeepsOrder maxSize queue results) :
    QueueKeepsOrder maxSize (popSection wasFull queue).shared
      ((popSection wasFull queue).results results) := by
  constructor
  · exact pop_section_within wasFull given.within
  · have ordered := given.ordered
    unfold popSection
    cases content : queue.list with
    | nil => exact ordered
    | cons front rest =>
        rw [content] at ordered
        dsimp only [Section.shared, Section.results]
        rw [queue_events_append]
        exact ordered.pop

theorem enter_orders (call : QueueCall T) (queue : BoundedBlockedQueue T)
    (results : List (QueueResult T)) (given : QueueKeepsOrder maxSize queue results) :
    QueueKeepsOrder maxSize ((boundedBlockedQueue T maxSize).enter call queue).shared
      (((boundedBlockedQueue T maxSize).enter call queue).results results) := by
  cases call with
  | push src => exact push_section_orders given
  | pop => exact pop_section_orders given

theorem resume_orders (frame : QueueFrame T) (queue : BoundedBlockedQueue T)
    (results : List (QueueResult T)) (given : QueueKeepsOrder maxSize queue results) :
    QueueKeepsOrder maxSize ((boundedBlockedQueue T maxSize).resume frame queue).shared
      (((boundedBlockedQueue T maxSize).resume frame queue).results results) := by
  cases frame with
  | push src wasEmpty => exact push_section_orders given
  | pop wasFull => exact pop_section_orders given

theorem queue_keeps_order_at_start (positive : 1 ≤ maxSize) :
    QueueKeepsOrder maxSize (.empty : BoundedBlockedQueue T) [] where
  within := by
    refine ⟨rfl, ?_⟩
    change (0 : Int) ≤ maxSize
    omega
  ordered := .empty

variable [DecidableEq Thread]

/-- In every reachable state `size_` is the length of the list and within the
capacity, and the completed calls have taken the elements out in the order in which
they were put in, none lost and none twice. -/
theorem bounded_queue_within_capacity_in_order (maxSize : Int) (positive : 1 ≤ maxSize)
    (state : QueueState Thread T)
    (reached : Reachable (queueSystem Thread T maxSize) anyStep state) :
    state.shared.size = state.shared.list.length ∧
    0 ≤ state.shared.size ∧ state.shared.size ≤ maxSize ∧
    Fifo (queueEvents state.results) state.shared.list ∧
    pops (queueEvents state.results) ++ state.shared.list =
      pushes (queueEvents state.results) := by
  have given := results_reachable (queue_keeps_order_at_start positive) enter_orders
    resume_orders reached
  have counted := given.within.counted
  refine ⟨counted, ?_, given.within.bounded, given.ordered, given.ordered.in_order⟩
  rw [counted]
  exact Int.natCast_nonneg _

/-- Two producers fill and wait, a consumer takes the first element. -/
theorem bounded_queue_within_capacity_in_order_two_producers :
    ∃ state : QueueState Nat Nat, (1 : Int) ≤ 1 ∧ state.shared = { list := [20], size := 1 } ∧
      pops (queueEvents state.results) ++ [20] = pushes (queueEvents state.results) := by
  let labels : List (QueueLabel Nat Nat) :=
    [.enter 0 (.push 10), .enter 1 (.push 20), .enter 2 .pop, .broadcast 0, .broadcast 2,
      .resume 1]
  obtain ⟨state, reached, contents⟩ : ∃ state,
      Reachable (queueSystem Nat Nat 1) anyStep state ∧
      state.shared = { list := [20], size := 1 } :=
    schedule_reaches labels rfl (by decide)
  have ordered := bounded_queue_within_capacity_in_order 1 (by decide) state reached
  refine ⟨state, by decide, contents, ?_⟩
  simpa [contents] using ordered.2.2.2.2

end Schedulers.Queues
