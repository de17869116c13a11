import Schedulers.Queues.BoundedTryQueue
import Schedulers.Support.CodeMonitors

/-!
# The blocking path of `bounded_try_queue`

All operations of the class, statement by statement, with the exceptions of element
copies. `concurent_bounded_try_queue` has the same code. A section that comes after a
wait owns the lock again, and the scope releases it. `m_q.push` of the `std::list` is
read as `push_back`.
-/

namespace Schedulers.Queues

open Schedulers.TransitionSystem Schedulers.LockedCode Schedulers.CodeMonitors

set_option autoImplicit false

structure BlockingTryQueue (T : Type) extends BoundedTryQueue T where
  mNblockedPop : Int
  mNblockedPush : Int
  mStopped : Bool
  deriving DecidableEq, Repr

inductive BlockingCondition where
  | mPopCv
  | mPushCv
  deriving DecidableEq, Repr

inductive BlockingException where
  | copyFailed
  | terminate
  deriving DecidableEq, Repr

/-- `popped` is what the destination holds at the call. -/
inductive BlockingCall (T : Type) where
  | tryPush (x : T)
  | tryPop (popped : T)
  | size
  | empty
  | stop (wait : Bool)
  | waitAndPop (popped : T)
  | waitAndPush (item : T)
  deriving DecidableEq, Repr

inductive BlockingFrame (T : Type) where
  | stopPop
  | stopPush
  | waitAndPop (popped : T)
  | waitAndPush (item : T)
  deriving DecidableEq, Repr

inductive BlockingResult (T : Type) where
  | tried (result : TryResult T)
  | stopped
  | waitedPop (popped : T)
  | waitedPush
  deriving DecidableEq, Repr

variable {T : Type}

abbrev QueueCode (T Value : Type) :=
  Code (BlockingTryQueue T) BlockingCondition BlockingException Value

abbrev QueueExit (T : Type) := Exit (BlockingFrame T) BlockingCondition (BlockingResult T)

namespace BlockingTryQueue

def start : BlockingTryQueue T where
  toBoundedTryQueue := .start
  mNblockedPop := 0
  mNblockedPush := 0
  mStopped := false

def empty : QueueCode T Bool := scopedLock do
  return (← readShared).mQ.isEmpty

def size : QueueCode T Nat := scopedLock do
  return (← readShared).mCurrentSize.toNat

def tryPush (cmSize : Int) (x : T) : QueueCode T Bool := do
  let tmp ← copy .copyFailed x
  scopedLock do
    if (← readShared).mCurrentSize = cmSize then
      return false
    update fun queue => { queue with mQ := queue.mQ ++ [tmp] }
    update fun queue => { queue with mCurrentSize := queue.mCurrentSize + 1 }
    return true

/-- The result and what is in the destination. -/
def tryPop (popped : T) : QueueCode T (Bool × T) := scopedLock do
  match (← readShared).mQ with
  | [] => return (false, popped)
  | front :: rest =>
      let assigned ← copy .copyFailed front
      update fun queue => { queue with mQ := rest }
      update fun queue => { queue with mCurrentSize := queue.mCurrentSize - 1 }
      return (true, assigned)

/-- `while (m_nblocked_push)` -/
def stopPushLoop : QueueCode T (QueueExit T) := do
  if (← readShared).mNblockedPush ≠ 0 then
    return .wait .mPushCv .stopPush
  return .leave .stopped []

/-- `while (m_nblocked_pop)` -/
def stopPopLoop : QueueCode T (QueueExit T) := do
  if (← readShared).mNblockedPop ≠ 0 then
    return .wait .mPopCv .stopPop
  stopPushLoop

def stop (wait : Bool) : QueueCode T (QueueExit T) := scopedLock do
  update fun queue => { queue with mStopped := true }
  notify (.all .mPopCv)
  notify (.all .mPushCv)
  if wait then
    stopPopLoop
  else
    return .leave .stopped []

/-- `while (!m_stopped && m_q.empty())` and what follows it -/
def waitAndPopLoop (popped : T) : QueueCode T (QueueExit T) := do
  let queue ← readShared
  match queue.mStopped, queue.mQ with
  | false, [] => return .wait .mPopCv (.waitAndPop popped)
  | true, _ =>
      update fun queue => { queue with mNblockedPop := queue.mNblockedPop - 1 }
      notify (.all .mPopCv)
      raise .terminate
  | false, front :: rest =>
      update fun queue => { queue with mNblockedPop := queue.mNblockedPop - 1 }
      let assigned ← copy .copyFailed front
      update fun queue => { queue with mQ := rest }
      notify (.one .mPushCv)
      return .leave (.waitedPop assigned) []

def waitAndPop (popped : T) : QueueCode T (QueueExit T) := scopedLock do
  update fun queue => { queue with mNblockedPop := queue.mNblockedPop + 1 }
  waitAndPopLoop popped

/-- `while (!m_stopped && m_q.size() == size())` and what follows it: the call of `size`
in the condition takes `m_mtx`, which the caller has. -/
def waitAndPushLoop (item : T) : QueueCode T (QueueExit T) := do
  let queue ← readShared
  if !queue.mStopped then
    let current ← size
    if queue.mQ.length = current then
      return .wait .mPushCv (.waitAndPush item)
  update fun queue => { queue with mNblockedPush := queue.mNblockedPush - 1 }
  if (← readShared).mStopped then
    notify (.all .mPushCv)
    raise .terminate
  let element ← copy .copyFailed item
  update fun queue => { queue with mQ := queue.mQ ++ [element] }
  return .leave .waitedPush [.one .mPopCv]

def waitAndPush (item : T) : QueueCode T (QueueExit T) := scopedLock do
  update fun queue => { queue with mNblockedPush := queue.mNblockedPush + 1 }
  waitAndPushLoop item

end BlockingTryQueue

def returning (result : TryResult T) : QueueExit T := .leave (.tried result) []

def blockingTryQueue (T : Type) (cmSize : Int) :
    CodeMonitor (BlockingTryQueue T) (BlockingCall T) (BlockingFrame T) BlockingCondition
      BlockingException (BlockingResult T) where
  enter
    | .tryPush x => do return returning (.tryPush (← BlockingTryQueue.tryPush cmSize x))
    | .tryPop popped => do
        let done ← BlockingTryQueue.tryPop popped
        return returning (.tryPop done.1 done.2)
    | .size => do return returning (.size (← BlockingTryQueue.size))
    | .empty => do return returning (.empty (← BlockingTryQueue.empty))
    | .stop wait => BlockingTryQueue.stop wait
    | .waitAndPop popped => BlockingTryQueue.waitAndPop popped
    | .waitAndPush item => BlockingTryQueue.waitAndPush item
  resume
    | .stopPop => scopedLock BlockingTryQueue.stopPopLoop
    | .stopPush => scopedLock BlockingTryQueue.stopPushLoop
    | .waitAndPop popped => scopedLock (BlockingTryQueue.waitAndPopLoop popped)
    | .waitAndPush item => scopedLock (BlockingTryQueue.waitAndPushLoop item)

section Runs

variable (memory : Memory (BlockingTryQueue T) BlockingCondition)

theorem run_empty (free : memory.locked = false) :
    BlockingTryQueue.empty.run memory = .ok memory.shared.mQ.isEmpty memory := by
  obtain ⟨queue, locked, signals, copies⟩ := memory
  subst free
  simp [BlockingTryQueue.empty, run_scopedLock]

theorem run_size (free : memory.locked = false) :
    BlockingTryQueue.size.run memory = .ok memory.shared.mCurrentSize.toNat memory := by
  obtain ⟨queue, locked, signals, copies⟩ := memory
  subst free
  simp [BlockingTryQueue.size, run_scopedLock]

theorem run_try_push (cmSize : Int) (x : T) (free : memory.locked = false) :
    (BlockingTryQueue.tryPush cmSize x).run memory =
      if nextThrows memory.copies then
        .error (.thrown .copyFailed) { memory with copies := memory.copies.tail }
      else if memory.shared.mCurrentSize = cmSize then
        .ok false { memory with copies := memory.copies.tail }
      else
        .ok true { memory with
          shared := { memory.shared with
            mQ := memory.shared.mQ ++ [x]
            mCurrentSize := memory.shared.mCurrentSize + 1 }
          copies := memory.copies.tail } := by
  obtain ⟨queue, locked, signals, copies⟩ := memory
  subst free
  unfold BlockingTryQueue.tryPush
  by_cases throws : nextThrows copies = true
  · simp [throws]
  · by_cases full : queue.mCurrentSize = cmSize
    · simp [throws, full, run_scopedLock]
    · simp [throws, full, run_scopedLock]

theorem run_try_pop (popped : T) (free : memory.locked = false) :
    (BlockingTryQueue.tryPop popped).run memory =
      match memory.shared.mQ with
      | [] => .ok (false, popped) memory
      | front :: rest =>
          if nextThrows memory.copies then
            .error (.thrown .copyFailed) { memory with copies := memory.copies.tail }
          else
            .ok (true, front) { memory with
              shared := { memory.shared with
                mQ := rest
                mCurrentSize := memory.shared.mCurrentSize - 1 }
              copies := memory.copies.tail } := by
  obtain ⟨queue, locked, signals, copies⟩ := memory
  subst free
  unfold BlockingTryQueue.tryPop
  cases content : queue.mQ with
  | nil => simp [content, run_scopedLock]
  | cons front rest =>
      by_cases throws : nextThrows copies = true
      · simp [content, throws, run_scopedLock]
      · simp [content, throws, run_scopedLock]

/-- Without an exception the code does what `BoundedTryQueue.tryPush` does. -/
theorem run_try_push_succeeds (cmSize : Int) (x : T) (free : memory.locked = false)
    (succeeds : nextThrows memory.copies = false) :
    ∃ accepted, (memory.shared.toBoundedTryQueue.tryPush cmSize [x]).2 = .tryPush accepted ∧
      (BlockingTryQueue.tryPush cmSize x).run memory = .ok accepted { memory with
        shared := { memory.shared with
          toBoundedTryQueue := (memory.shared.toBoundedTryQueue.tryPush cmSize [x]).1 }
        copies := memory.copies.tail } := by
  rw [run_try_push memory cmSize x free, succeeds, BoundedTryQueue.tryPush]
  by_cases full : memory.shared.mCurrentSize = cmSize
  · simp only [full, if_true]
    exact ⟨false, rfl, rfl⟩
  · simp only [full, if_false]
    exact ⟨true, rfl, rfl⟩

theorem run_try_pop_succeeds (popped : T) (free : memory.locked = false)
    (succeeds : nextThrows memory.copies = false) :
    ∃ found assigned copies,
      (memory.shared.toBoundedTryQueue.tryPop popped).2 = .tryPop found assigned ∧
      (BlockingTryQueue.tryPop popped).run memory = .ok (found, assigned) { memory with
        shared := { memory.shared with
          toBoundedTryQueue := (memory.shared.toBoundedTryQueue.tryPop popped).1 }
        copies := copies } := by
  rw [run_try_pop memory popped free, succeeds, BoundedTryQueue.tryPop]
  cases content : memory.shared.mQ with
  | nil => exact ⟨false, popped, memory.copies, rfl, rfl⟩
  | cons front rest => exact ⟨true, front, memory.copies.tail, rfl, rfl⟩

theorem run_stop_push_loop :
    released (BlockingTryQueue.stopPushLoop.run memory) =
      .ok (if memory.shared.mNblockedPush ≠ 0 then .wait .mPushCv .stopPush else .leave .stopped [])
        { memory with locked := false } := by
  unfold BlockingTryQueue.stopPushLoop
  by_cases pushes : memory.shared.mNblockedPush = 0 <;> simp [pushes]

theorem run_stop_pop_loop :
    released (BlockingTryQueue.stopPopLoop.run memory) =
      if memory.shared.mNblockedPop ≠ 0 then
        .ok (.wait .mPopCv .stopPop) { memory with locked := false }
      else released (BlockingTryQueue.stopPushLoop.run memory) := by
  unfold BlockingTryQueue.stopPopLoop
  by_cases pops : memory.shared.mNblockedPop = 0 <;> simp [pops]

theorem run_wait_and_pop_loop (popped : T) :
    released ((BlockingTryQueue.waitAndPopLoop popped).run memory) =
      match memory.shared.mStopped, memory.shared.mQ with
      | false, [] => .ok (.wait .mPopCv (.waitAndPop popped)) { memory with locked := false }
      | true, _ => .error (.thrown .terminate) { memory with
          shared := { memory.shared with mNblockedPop := memory.shared.mNblockedPop - 1 }
          locked := false
          signals := memory.signals ++ [.all .mPopCv] }
      | false, front :: rest =>
          if nextThrows memory.copies then
            .error (.thrown .copyFailed) { memory with
              shared := { memory.shared with mNblockedPop := memory.shared.mNblockedPop - 1 }
              locked := false
              copies := memory.copies.tail }
          else
            .ok (.leave (.waitedPop front) []) { memory with
              shared := { memory.shared with
                mQ := rest
                mNblockedPop := memory.shared.mNblockedPop - 1 }
              locked := false
              signals := memory.signals ++ [.one .mPushCv]
              copies := memory.copies.tail } := by
  unfold BlockingTryQueue.waitAndPopLoop
  cases stopped : memory.shared.mStopped with
  | true => simp [stopped]
  | false =>
      cases content : memory.shared.mQ with
      | nil => simp [stopped, content]
      | cons front rest =>
          by_cases throws : nextThrows memory.copies = true
          · simp [stopped, content, throws]
          · simp [stopped, content, throws]

/-- `wait_and_push` never gets past its loop: it stays in `size` with the mutex, or the
queue is stopped. -/
theorem run_wait_and_push_loop (item : T) (held : memory.locked = true) :
    released ((BlockingTryQueue.waitAndPushLoop item).run memory) =
      if memory.shared.mStopped then
        .error (.thrown .terminate) { memory with
          shared := { memory.shared with mNblockedPush := memory.shared.mNblockedPush - 1 }
          locked := false
          signals := memory.signals ++ [.all .mPushCv] }
      else .error .stuck memory := by
  unfold BlockingTryQueue.waitAndPushLoop
  cases stopped : memory.shared.mStopped with
  | true => simp [stopped]
  | false => simp [stopped, BlockingTryQueue.size, run_scopedLock_held _ _ held]

end Runs

theorem every_section_restores (cmSize : Int) :
    EverySection (blockingTryQueue T cmSize) Restores := by
  constructor
  · intro call memory
    cases call with
    | tryPush x =>
        apply restores_map
        apply restores_copy_bind
        exact restores_scopedLock _
    | tryPop popped => exact restores_map _ (restores_scopedLock _ memory)
    | size => exact restores_map _ (restores_scopedLock _ memory)
    | empty => exact restores_map _ (restores_scopedLock _ memory)
    | stop wait => exact restores_scopedLock _ memory
    | waitAndPop popped => exact restores_scopedLock _ memory
    | waitAndPush item => exact restores_scopedLock _ memory
  · intro frame memory
    cases frame <;> exact restores_scopedLock _ memory

abbrev BlockingState (Thread T : Type) :=
  MonitorState Thread (BlockingTryQueue T) (BlockingFrame T) BlockingCondition BlockingException
    (BlockingResult T)

abbrev BlockingLabel (Thread T : Type) := MonitorLabel Thread (BlockingCall T)

abbrev blockingQueueSystem (Thread T : Type) [DecidableEq Thread] (cmSize : Int) :
    System (BlockingState Thread T) (BlockingLabel Thread T) :=
  (blockingTryQueue T cmSize).system .start

end Schedulers.Queues
