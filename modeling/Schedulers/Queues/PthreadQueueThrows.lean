import Schedulers.Queues.BlockedQueue
import Schedulers.Support.HandLockedMonitors

/-!
# Copies that throw in the queues of `test_pthread_safe_queue.cc`

`push`, `pop` and `try_pop` of `BoundedBlockedQueue` and `BlockedQueue`, statement by
statement. The mutex is locked and unlocked by hand, with a copy in between. The copy
comes before any change of the data, but nothing unlocks the mutex when it throws.
-/

namespace Schedulers.Queues

open Schedulers.TransitionSystem Schedulers.LockedCode Schedulers.CodeMonitors
open Schedulers.HandLockedMonitors

set_option autoImplicit false

inductive CopyException where
  | copyFailed
  deriving DecidableEq, Repr

variable {Thread T : Type}

abbrev BoundedBlockedCode (T Value : Type) :=
  Code (BoundedBlockedQueue T) QueueCondition CopyException Value

abbrev BoundedBlockedExit (T : Type) := Exit (QueueFrame T) QueueCondition (QueueResult T)

namespace BoundedBlockedQueue

/-- `while (get_size_() == maxSize_)` and what follows it -/
def pushLoop (maxSize : Int) (src : T) (wasEmpty : Bool) :
    BoundedBlockedCode T (BoundedBlockedExit T) := do
  if (← readShared).size = maxSize then
    unlock
    return .wait .wcond (.push src wasEmpty)
  let element ← copy .copyFailed src
  update fun queue => { queue with list := queue.list ++ [element] }
  update fun queue => { queue with size := queue.size + 1 }
  unlock
  return .leave (.pushed src) (if wasEmpty then [.all .rcond] else [])

def push (maxSize : Int) (src : T) : BoundedBlockedCode T (BoundedBlockedExit T) := do
  lock
  let wasEmpty := (← readShared).list.isEmpty
  pushLoop maxSize src wasEmpty

/-- `while (list_.empty())` and what follows it -/
def popLoop (wasFull : Bool) : BoundedBlockedCode T (BoundedBlockedExit T) := do
  match (← readShared).list with
  | [] =>
      unlock
      return .wait .rcond (.pop wasFull)
  | front :: rest =>
      let dst ← copy .copyFailed front
      update fun queue => { queue with list := rest }
      update fun queue => { queue with size := queue.size - 1 }
      unlock
      return .leave (.popped dst) (if wasFull then [.all .wcond] else [])

def pop (maxSize : Int) : BoundedBlockedCode T (BoundedBlockedExit T) := do
  lock
  let wasFull := decide ((← readShared).size = maxSize)
  popLoop wasFull

end BoundedBlockedQueue

def boundedBlockedCode (T : Type) (maxSize : Int) :
    CodeMonitor (BoundedBlockedQueue T) (QueueCall T) (QueueFrame T) QueueCondition CopyException
      (QueueResult T) where
  enter
    | .push src => BoundedBlockedQueue.push maxSize src
    | .pop => BoundedBlockedQueue.pop maxSize
  resume
    | .push src wasEmpty => do
        lock
        BoundedBlockedQueue.pushLoop maxSize src wasEmpty
    | .pop wasFull => do
        lock
        BoundedBlockedQueue.popLoop wasFull

def boundedBlockedWaits (T : Type) (maxSize : Int) :
    WaitTest (BoundedBlockedQueue T) (QueueCall T) (QueueFrame T) where
  call
    | .push _, queue => queue.size = maxSize
    | .pop, queue => queue.list = []
  frame
    | .push _ _, queue => queue.size = maxSize
    | .pop _, queue => queue.list = []

section Sections

variable {maxSize : Int} {memory : Memory (BoundedBlockedQueue T) QueueCondition}

theorem push_byHand (src : T) (wasEmpty : Bool) :
    ByHand .copyFailed (memory.shared.size = maxSize)
      (pushSection maxSize src wasEmpty memory.shared) memory
      ((do lock; BoundedBlockedQueue.pushLoop maxSize src wasEmpty :
        BoundedBlockedCode T (BoundedBlockedExit T)).run memory) := by
  obtain ⟨queue, locked, signals, copies⟩ := memory
  apply byHand_lock
  · rintro rfl succeeds
    by_cases full : queue.size = maxSize
    · simp [BoundedBlockedQueue.pushLoop, pushSection, full, sectionOutcome]
    · have copied : nextThrows copies = false := succeeds.resolve_left full
      cases wasEmpty <;>
        simp [BoundedBlockedQueue.pushLoop, pushSection, full, copied, sectionOutcome]
  · intro _ room throws
    simp [BoundedBlockedQueue.pushLoop, room, throws]

theorem pop_byHand (wasFull : Bool) :
    ByHand .copyFailed (memory.shared.list = []) (popSection wasFull memory.shared) memory
      ((do lock; BoundedBlockedQueue.popLoop wasFull :
        BoundedBlockedCode T (BoundedBlockedExit T)).run memory) := by
  obtain ⟨queue, locked, signals, copies⟩ := memory
  apply byHand_lock
  · rintro rfl succeeds
    cases content : queue.list with
    | nil => simp [BoundedBlockedQueue.popLoop, popSection, content, sectionOutcome]
    | cons front rest =>
        have copied : nextThrows copies = false := succeeds.resolve_left (by simp [content])
        cases wasFull <;>
          simp [BoundedBlockedQueue.popLoop, popSection, content, copied, sectionOutcome]
  · intro _ nonempty throws
    obtain ⟨front, rest, content⟩ : ∃ front rest, queue.list = front :: rest :=
      List.exists_cons_of_ne_nil nonempty
    have throwing : nextThrows copies = true := throws
    simp [BoundedBlockedQueue.popLoop, content, throwing]

end Sections

theorem bounded_blocked_byHand (maxSize : Int) :
    LockedByHand (boundedBlockedCode T maxSize) (boundedBlockedQueue T maxSize)
      (boundedBlockedWaits T maxSize) .copyFailed where
  enter call memory := by
    cases call with
    | push src =>
        have reads : ((boundedBlockedCode T maxSize).enter (.push src)).run memory = _ :=
          run_lock_read memory fun queue =>
            BoundedBlockedQueue.pushLoop maxSize src queue.list.isEmpty
        rw [reads]
        exact push_byHand src memory.shared.list.isEmpty
    | pop =>
        have reads : ((boundedBlockedCode T maxSize).enter .pop).run memory = _ :=
          run_lock_read memory fun queue =>
            BoundedBlockedQueue.popLoop (decide (queue.size = maxSize))
        rw [reads]
        exact pop_byHand (decide (memory.shared.size = maxSize))
  resume frame memory := by
    cases frame with
    | push src wasEmpty => exact push_byHand src wasEmpty
    | pop wasFull => exact pop_byHand wasFull

abbrev BlockedCode (T Value : Type) := Code (List T) BlockedQueueCondition CopyException Value

abbrev BlockedExit (T : Type) := Exit BlockedQueueFrame BlockedQueueCondition (QueueResult T)

namespace BlockedQueue

def pushCode (src : T) (wasEmpty : Bool) : BlockedCode T (BlockedExit T) := do
  let element ← copy .copyFailed src
  update fun list => list ++ [element]
  unlock
  return .leave (.pushed src) (if wasEmpty then [.all .cond] else [])

/-- `while (list_.empty())` and what follows it -/
def tryPopLoop : BlockedCode T (BlockedExit T) := do
  match (← readShared) with
  | [] =>
      unlock
      return .wait .cond .tryPop
  | front :: rest =>
      let dst ← copy .copyFailed front
      update fun _ => rest
      unlock
      return .leave (.popped dst) []

end BlockedQueue

def blockedCode (T : Type) :
    CodeMonitor (List T) (BlockedQueueCall T) BlockedQueueFrame BlockedQueueCondition CopyException
      (QueueResult T) where
  enter
    | .push src => do
        lock
        let wasEmpty := (← readShared).isEmpty
        BlockedQueue.pushCode src wasEmpty
    | .tryPop => do
        lock
        BlockedQueue.tryPopLoop
  resume
    | .tryPop => do
        lock
        BlockedQueue.tryPopLoop

def blockedWaits (T : Type) : WaitTest (List T) (BlockedQueueCall T) BlockedQueueFrame where
  call
    | .push _, _ => False
    | .tryPop, list => list = []
  frame
    | .tryPop, list => list = []

section Sections

variable {memory : Memory (List T) BlockedQueueCondition}

theorem blocked_push_byHand (src : T) :
    ByHand .copyFailed False (BlockedQueue.push src memory.shared) memory
      ((do lock; BlockedQueue.pushCode src memory.shared.isEmpty :
        BlockedCode T (BlockedExit T)).run memory) := by
  obtain ⟨list, locked, signals, copies⟩ := memory
  apply byHand_lock
  · rintro rfl succeeds
    have copied : nextThrows copies = false := succeeds.resolve_left id
    cases list <;> simp [BlockedQueue.pushCode, BlockedQueue.push, copied, sectionOutcome]
  · intro _ _ throws
    simp [BlockedQueue.pushCode, throws]

theorem blocked_try_pop_byHand :
    ByHand .copyFailed (memory.shared = []) (BlockedQueue.tryPop memory.shared) memory
      ((do lock; BlockedQueue.tryPopLoop : BlockedCode T (BlockedExit T)).run memory) := by
  obtain ⟨list, locked, signals, copies⟩ := memory
  apply byHand_lock
  · rintro rfl succeeds
    cases list with
    | nil => simp [BlockedQueue.tryPopLoop, BlockedQueue.tryPop, sectionOutcome]
    | cons front rest =>
        have copied : nextThrows copies = false := succeeds.resolve_left (by simp)
        simp [BlockedQueue.tryPopLoop, BlockedQueue.tryPop, copied, sectionOutcome]
  · intro _ nonempty throws
    obtain ⟨front, rest, rfl⟩ := List.exists_cons_of_ne_nil nonempty
    simp [BlockedQueue.tryPopLoop, throws]

end Sections

theorem blocked_byHand :
    LockedByHand (blockedCode T) (blockedQueue T) (blockedWaits T) .copyFailed where
  enter call memory := by
    cases call with
    | push src =>
        have reads : ((blockedCode T).enter (.push src)).run memory = _ :=
          run_lock_read memory fun list => BlockedQueue.pushCode src list.isEmpty
        rw [reads]
        exact blocked_push_byHand src
    | tryPop => exact blocked_try_pop_byHand
  resume frame memory := by
    cases frame with
    | tryPop => exact blocked_try_pop_byHand

variable [DecidableEq Thread]

/-- Without exceptions both codes do what the monitors without exceptions do. -/
theorem pthread_queues_refine (maxSize : Int) :
    (∀ state, Reachable ((boundedBlockedCode T maxSize).system .empty)
        (copiesSucceed (boundedBlockedWaits T maxSize)) state →
      ∃ plain, Reachable (queueSystem Thread T maxSize) anyStep plain ∧ StandsFor state plain) ∧
    ∀ state, Reachable ((blockedCode T).system []) (copiesSucceed (blockedWaits T)) state →
      ∃ plain, Reachable (blockedQueueSystem Thread T) anyStep plain ∧ StandsFor state plain :=
  ⟨fun _ reached => (bounded_blocked_byHand maxSize).refines reached,
    fun _ reached => blocked_byHand.refines reached⟩

/-- For both queues: a run leaves the mutex free and every section open exactly if none of
its copies throws under the lock. A call ends with the exception exactly if its copy
throws; the list and `size_` are then as before, and no later operation enters its
section any more. -/
theorem pthread_queues_usable_iff (maxSize : Int) :
    DisabledByThrow (boundedBlockedCode T maxSize) (boundedBlockedWaits T maxSize) .empty Thread ∧
    DisabledByThrow (blockedCode T) (blockedWaits T) [] Thread :=
  ⟨(bounded_blocked_byHand maxSize).disabledByThrow .empty, blocked_byHand.disabledByThrow []⟩

/-- The copy of the first `push` throws: the mutex stays locked, and a second thread cannot
enter `pop`. -/
theorem push_leaves_mutex_locked :
    ∃ state : MonitorState Nat (BoundedBlockedQueue Nat) (QueueFrame Nat) QueueCondition
        CopyException (QueueResult Nat),
      Reachable ((boundedBlockedCode Nat 2).system .empty) anyStep state ∧
      state.log = [(0, .error .copyFailed)] ∧ state.shared = .empty ∧ state.locked = true ∧
      state.thread 1 = .outside ∧
      ((boundedBlockedCode Nat 2).step (.enter 1 .pop [] []) state).isNone = true :=
  schedule_reaches [.enter 0 (.push 10) [true] []] rfl (by decide)

end Schedulers.Queues
