import Schedulers.Support.BroadcastMonitor

/-!
# `BoundedBlockedQueue` of `test_pthread_safe_queue.cc`

A bounded queue on one mutex and two condition variables. `push` and `pop` sample
`was_empty` and `was_full` on entry, before they may have to wait, and broadcast
after the unlock if the sample says so. Copies of elements are taken not to throw.
-/

namespace Schedulers.Queues

open Schedulers.BroadcastMonitor

set_option autoImplicit false

/-- `list_` and `size_`, the data under `lock_`. -/
structure BoundedBlockedQueue (T : Type) where
  list : List T
  size : Int
  deriving DecidableEq, Repr

inductive QueueCondition where
  | rcond
  | wcond
  deriving DecidableEq, Repr

inductive QueueCall (T : Type) where
  | push (src : T)
  | pop
  deriving DecidableEq, Repr

inductive QueueFrame (T : Type) where
  | push (src : T) (wasEmpty : Bool)
  | pop (wasFull : Bool)
  deriving DecidableEq, Repr

inductive QueueResult (T : Type) where
  | pushed (src : T)
  | popped (dst : T)
  deriving DecidableEq, Repr

variable {T : Type}

abbrev QueueSection (T : Type) :=
  Section (BoundedBlockedQueue T) (QueueFrame T) QueueCondition (QueueResult T)

def BoundedBlockedQueue.empty : BoundedBlockedQueue T where
  list := []
  size := 0

/-- `push` from the test of its loop on. -/
def pushSection (maxSize : Int) (src : T) (wasEmpty : Bool) (queue : BoundedBlockedQueue T) :
    QueueSection T :=
  if queue.size = maxSize then .wait queue .wcond (.push src wasEmpty)
  else
    .leave { list := queue.list ++ [src], size := queue.size + 1 } (.pushed src)
      (if wasEmpty then [.rcond] else [])

/-- `pop` from the test of its loop on. -/
def popSection (wasFull : Bool) (queue : BoundedBlockedQueue T) : QueueSection T :=
  match queue.list with
  | [] => .wait queue .rcond (.pop wasFull)
  | front :: rest =>
      .leave { list := rest, size := queue.size - 1 } (.popped front)
        (if wasFull then [.wcond] else [])

def boundedBlockedQueue (T : Type) (maxSize : Int) :
    Monitor (BoundedBlockedQueue T) (QueueCall T) (QueueFrame T) QueueCondition
      (QueueResult T) where
  enter
    | .push src, queue => pushSection maxSize src queue.list.isEmpty queue
    | .pop, queue => popSection (queue.size = maxSize) queue
  resume
    | .push src wasEmpty, queue => pushSection maxSize src wasEmpty queue
    | .pop wasFull, queue => popSection wasFull queue

structure WithinBound (maxSize : Int) (queue : BoundedBlockedQueue T) : Prop where
  counted : queue.size = queue.list.length
  bounded : queue.size ≤ maxSize

theorem push_section_within {maxSize : Int} (src : T) (wasEmpty : Bool)
    {queue : BoundedBlockedQueue T} (given : WithinBound maxSize queue) :
    WithinBound maxSize (pushSection maxSize src wasEmpty queue).shared := by
  have counted := given.counted
  have bounded := given.bounded
  unfold pushSection
  by_cases full : queue.size = maxSize
  · rw [if_pos full]
    exact given
  · rw [if_neg full]
    constructor
    · simp [Section.shared, counted]
    · change queue.size + 1 ≤ maxSize
      omega

theorem pop_section_within {maxSize : Int} (wasFull : Bool) {queue : BoundedBlockedQueue T}
    (given : WithinBound maxSize queue) :
    WithinBound maxSize (popSection wasFull queue).shared := by
  have counted := given.counted
  have bounded := given.bounded
  unfold popSection
  cases content : queue.list with
  | nil => exact given
  | cons front rest =>
      rw [content] at counted
      constructor
      · simp [Section.shared, counted]
      · change queue.size - 1 ≤ maxSize
        omega

theorem enter_within {maxSize : Int} (call : QueueCall T) (queue : BoundedBlockedQueue T)
    (given : WithinBound maxSize queue) :
    WithinBound maxSize ((boundedBlockedQueue T maxSize).enter call queue).shared := by
  cases call with
  | push src => exact push_section_within src _ given
  | pop => exact pop_section_within _ given

theorem resume_within {maxSize : Int} (frame : QueueFrame T) (queue : BoundedBlockedQueue T)
    (given : WithinBound maxSize queue) :
    WithinBound maxSize ((boundedBlockedQueue T maxSize).resume frame queue).shared := by
  cases frame with
  | push src wasEmpty => exact push_section_within src wasEmpty given
  | pop wasFull => exact pop_section_within wasFull given

end Schedulers.Queues
