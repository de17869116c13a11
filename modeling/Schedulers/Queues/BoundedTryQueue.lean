import Schedulers.Support.FifoHistory
import Schedulers.Support.LockedObjects

/-!
# `bounded_try_queue` of `data_structures.h`

A bounded queue whose calls never wait. `concurent_try_queue` and
`concurent_bounded_try_queue` have the same code. `try_push` builds its list of one
element before it takes the lock; everything else is done in one locked section. The
capacity test compares the counter `m_current_size`, not the list. Copies of elements
are taken not to throw.
-/

namespace Schedulers.Queues

open Schedulers.TransitionSystem Schedulers.LockedObjects Schedulers.FifoHistory

set_option autoImplicit false

structure BoundedTryQueue (T : Type) where
  mQ : List T
  mCurrentSize : Int
  deriving DecidableEq, Repr

/-- `popped` is what the destination of `try_pop` holds. -/
inductive TryCall (T : Type) where
  | tryPush (x : T)
  | tryPop (popped : T)
  | size
  | empty
  deriving DecidableEq, Repr

inductive TryRequest (T : Type) where
  | tryPush (tmp : List T)
  | tryPop (popped : T)
  | size
  | empty
  deriving DecidableEq, Repr

inductive TryResult (T : Type) where
  | tryPush (accepted : Bool)
  | tryPop (found : Bool) (popped : T)
  | size (elements : Nat)
  | empty (isEmpty : Bool)
  deriving DecidableEq, Repr

variable {Thread T : Type} {cmSize : Int}

def BoundedTryQueue.start : BoundedTryQueue T where
  mQ := []
  mCurrentSize := 0

def BoundedTryQueue.tryPush (cmSize : Int) (tmp : List T) (queue : BoundedTryQueue T) :
    BoundedTryQueue T × TryResult T :=
  if queue.mCurrentSize = cmSize then (queue, .tryPush false)
  else
    ({ mQ := queue.mQ ++ tmp, mCurrentSize := queue.mCurrentSize + 1 }, .tryPush true)

def BoundedTryQueue.tryPop (popped : T) (queue : BoundedTryQueue T) :
    BoundedTryQueue T × TryResult T :=
  match queue.mQ with
  | [] => (queue, .tryPop false popped)
  | front :: rest =>
      ({ mQ := rest, mCurrentSize := queue.mCurrentSize - 1 }, .tryPop true front)

/-- The counter is converted to `std::size_t`; it is never negative. -/
def BoundedTryQueue.size (queue : BoundedTryQueue T) : BoundedTryQueue T × TryResult T :=
  (queue, .size queue.mCurrentSize.toNat)

def BoundedTryQueue.empty (queue : BoundedTryQueue T) : BoundedTryQueue T × TryResult T :=
  (queue, .empty queue.mQ.isEmpty)

def boundedTryQueue (T : Type) (cmSize : Int) :
    LockedObject (BoundedTryQueue T) (TryCall T) (TryRequest T) (TryResult T) where
  prepare
    | .tryPush x => .tryPush [x]
    | .tryPop popped => .tryPop popped
    | .size => .size
    | .empty => .empty
  locked
    | .tryPush tmp, queue => queue.tryPush cmSize tmp
    | .tryPop popped, queue => queue.tryPop popped
    | .size, queue => queue.size
    | .empty, queue => queue.empty

abbrev TryQueueState (Thread T : Type) :=
  ObjectState Thread (BoundedTryQueue T) (TryCall T) (TryRequest T) (TryResult T)

abbrev TryQueueLabel (Thread T : Type) := ObjectLabel Thread (TryCall T)

/-- A list that cannot outgrow its capacity. -/
structure BoundedFifo (capacity : Nat) (T : Type) where
  contents : List T
  bounded : contents.length ≤ capacity

variable {capacity : Nat}

def BoundedFifo.start (capacity : Nat) (T : Type) : BoundedFifo capacity T where
  contents := []
  bounded := Nat.zero_le capacity

def BoundedFifo.tryPush (x : T) (fifo : BoundedFifo capacity T) :
    BoundedFifo capacity T × TryResult T :=
  if room : fifo.contents.length < capacity then
    ({ contents := fifo.contents ++ [x]
       bounded := by
        rw [List.length_append]
        exact room }, .tryPush true)
  else (fifo, .tryPush false)

def BoundedFifo.tryPop (popped : T) (fifo : BoundedFifo capacity T) :
    BoundedFifo capacity T × TryResult T :=
  match fifo with
  | ⟨[], _⟩ => (fifo, .tryPop false popped)
  | ⟨front :: rest, bounded⟩ =>
      ({ contents := rest, bounded := Nat.le_of_succ_le bounded }, .tryPop true front)

def boundedFifo (capacity : Nat) (T : Type) :
    Sequential (BoundedFifo capacity T) (TryCall T) (TryResult T)
  | .tryPush x, fifo => fifo.tryPush x
  | .tryPop popped, fifo => fifo.tryPop popped
  | .size, fifo => (fifo, .size fifo.contents.length)
  | .empty, fifo => (fifo, .empty fifo.contents.isEmpty)

def tryEvent : TryCall T × TryResult T → Option (FifoEvent T)
  | (.tryPush x, .tryPush true) => some (.pushed x)
  | (.tryPop _, .tryPop true front) => some (.popped front)
  | _ => none

def tryEvents (effects : List (TryCall T × TryResult T)) : List (FifoEvent T) :=
  effects.filterMap tryEvent

theorem try_events_event {effects : List (TryCall T × TryResult T)}
    {effect : TryCall T × TryResult T} {event : FifoEvent T} (is : tryEvent effect = some event) :
    tryEvents (effects ++ [effect]) = tryEvents effects ++ [event] := by
  simp [tryEvents, is]

theorem try_events_quiet {effects : List (TryCall T × TryResult T)}
    {effect : TryCall T × TryResult T} (quiet : tryEvent effect = none) :
    tryEvents (effects ++ [effect]) = tryEvents effects := by
  simp [tryEvents, quiet]

theorem bounded_fifo_in_order {effects : List (TryCall T × TryResult T)}
    {fifo : BoundedFifo capacity T}
    (explained : Explains (boundedFifo capacity T) (.start capacity T) effects fifo) :
    Fifo (tryEvents effects) fifo.contents := by
  induction explained with
  | start => exact .empty
  | @call effects fifo before call ih =>
      cases call with
      | tryPush x =>
          by_cases room : fifo.contents.length < capacity
          · simp only [boundedFifo, BoundedFifo.tryPush, dif_pos room]
            rw [try_events_event rfl]
            exact ih.push x
          · simp only [boundedFifo, BoundedFifo.tryPush, dif_neg room]
            rw [try_events_quiet rfl]
            exact ih
      | tryPop popped =>
          obtain ⟨contents, bounded⟩ := fifo
          cases contents with
          | nil =>
              rw [try_events_quiet rfl]
              exact ih
          | cons front rest =>
              rw [try_events_event rfl]
              exact ih.pop
      | size =>
          rw [try_events_quiet rfl]
          exact ih
      | empty =>
          rw [try_events_quiet rfl]
          exact ih

structure Represents (queue : BoundedTryQueue T) (fifo : BoundedFifo capacity T) : Prop where
  contents : queue.mQ = fifo.contents
  counted : queue.mCurrentSize = fifo.contents.length

theorem Represents.full_iff (positive : 1 ≤ cmSize) {queue : BoundedTryQueue T}
    {fifo : BoundedFifo cmSize.toNat T} (given : Represents queue fifo) :
    queue.mCurrentSize = cmSize ↔ ¬fifo.contents.length < cmSize.toNat := by
  have counted := given.counted
  have bounded := fifo.bounded
  omega

theorem try_push_implements (positive : 1 ≤ cmSize) (x : T) {queue : BoundedTryQueue T}
    {fifo : BoundedFifo cmSize.toNat T} (given : Represents queue fifo) :
    Represents (queue.tryPush cmSize [x]).1 (fifo.tryPush x).1 ∧
      (queue.tryPush cmSize [x]).2 = (fifo.tryPush x).2 := by
  unfold BoundedTryQueue.tryPush BoundedFifo.tryPush
  by_cases room : fifo.contents.length < cmSize.toNat
  · have unfilled : queue.mCurrentSize ≠ cmSize := by
      intro full
      exact (given.full_iff positive).mp full room
    rw [if_neg unfilled, dif_pos room]
    refine ⟨⟨?_, ?_⟩, rfl⟩
    · simp [given.contents]
    · simp [given.counted]
  · rw [if_pos ((given.full_iff positive).mpr room), dif_neg room]
    exact ⟨given, rfl⟩

theorem try_pop_implements (popped : T) {queue : BoundedTryQueue T}
    {fifo : BoundedFifo capacity T} (given : Represents queue fifo) :
    Represents (queue.tryPop popped).1 (fifo.tryPop popped).1 ∧
      (queue.tryPop popped).2 = (fifo.tryPop popped).2 := by
  have contents := given.contents
  have counted := given.counted
  unfold BoundedTryQueue.tryPop
  obtain ⟨elements, bounded⟩ := fifo
  cases elements with
  | nil =>
      simp only [contents]
      exact ⟨given, rfl⟩
  | cons front rest =>
      simp only [contents]
      refine ⟨⟨rfl, ?_⟩, rfl⟩
      simp [BoundedFifo.tryPop, counted]

theorem bounded_try_queue_implements (positive : 1 ≤ cmSize) :
    Implements (boundedTryQueue T cmSize) .start (boundedFifo cmSize.toNat T)
      (.start cmSize.toNat T) Represents where
  start := ⟨rfl, rfl⟩
  locked call queue fifo given := by
    cases call with
    | tryPush x => exact try_push_implements positive x given
    | tryPop popped => exact try_pop_implements popped given
    | size =>
        refine ⟨given, ?_⟩
        simp [boundedTryQueue, BoundedTryQueue.size, boundedFifo, given.counted]
    | empty =>
        refine ⟨given, ?_⟩
        simp [boundedTryQueue, BoundedTryQueue.empty, boundedFifo, given.contents]

theorem try_push_answers (x : T) {queue : BoundedTryQueue T}
    (counted : queue.mCurrentSize = queue.mQ.length) :
    ∃ accepted, (queue.tryPush cmSize [x]).2 = .tryPush accepted ∧
      (accepted = false ↔ (queue.mQ.length : Int) = cmSize) ∧
      (accepted = false → (queue.tryPush cmSize [x]).1 = queue) ∧
      (accepted = true → (queue.tryPush cmSize [x]).1.mQ = queue.mQ ++ [x]) := by
  unfold BoundedTryQueue.tryPush
  by_cases full : queue.mCurrentSize = cmSize
  · rw [if_pos full]
    exact ⟨false, rfl, by simp [← counted, full], fun _ => rfl, by simp⟩
  · rw [if_neg full]
    exact ⟨true, rfl, by simp [← counted, full], by simp, fun _ => rfl⟩

theorem try_pop_answers (popped : T) (queue : BoundedTryQueue T) :
    ∃ found value, (queue.tryPop popped).2 = .tryPop found value ∧
      (found = false ↔ queue.mQ = []) ∧
      (found = false → (queue.tryPop popped).1 = queue ∧ value = popped) ∧
      (found = true → queue.mQ = value :: (queue.tryPop popped).1.mQ) := by
  unfold BoundedTryQueue.tryPop
  cases contents : queue.mQ with
  | nil => exact ⟨false, popped, rfl, by simp, by simp, by simp⟩
  | cons front rest => exact ⟨true, front, rfl, by simp, by simp, by simp⟩

variable [DecidableEq Thread]

abbrev tryQueueSystem (Thread T : Type) [DecidableEq Thread] (cmSize : Int) :
    System (TryQueueState Thread T) (TryQueueLabel Thread T) :=
  (boundedTryQueue T cmSize).system .start

/-- In every reachable state the counter is the length of the list and within the
capacity; the sections in lock order are a run of a bounded FIFO, each within its own
call; a call that fails does so for the reason its name gives and changes nothing; and
what has come out, followed by what is inside, is what has gone in. -/
theorem bounded_try_queue_is_linearizable (cmSize : Int) (positive : 1 ≤ cmSize)
    (state : TryQueueState Thread T)
    (reached : Reachable (tryQueueSystem Thread T cmSize) anyStep state) :
    (state.data.mCurrentSize = state.data.mQ.length ∧ state.data.mCurrentSize ≤ cmSize) ∧
    (∀ thread x request next, state.thread thread = .locking (.tryPush x) request →
      (tryQueueSystem Thread T cmSize).step (.locked thread) state = some next →
      ∃ accepted, next.thread thread = .returning (.tryPush x) (.tryPush accepted) ∧
        (accepted = false ↔ (state.data.mQ.length : Int) = cmSize) ∧
        (accepted = false → next.data = state.data) ∧
        (accepted = true → next.data.mQ = state.data.mQ ++ [x])) ∧
    (∀ thread popped request next, state.thread thread = .locking (.tryPop popped) request →
      (tryQueueSystem Thread T cmSize).step (.locked thread) state = some next →
      ∃ found value, next.thread thread = .returning (.tryPop popped) (.tryPop found value) ∧
        (found = false ↔ state.data.mQ = []) ∧
        (found = false → next.data = state.data ∧ value = popped) ∧
        (found = true → state.data.mQ = value :: next.data.mQ)) ∧
    pops (tryEvents state.effects) ++ state.data.mQ = pushes (tryEvents state.effects) ∧
    (∀ thread, CallTrace (boundedTryQueue T cmSize) (state.trace thread) (state.thread thread)) ∧
    ∃ fifo, Explains (boundedFifo cmSize.toNat T) (.start cmSize.toNat T) state.effects fifo ∧
      fifo.contents = state.data.mQ := by
  obtain ⟨traces, fifo, explained, represented⟩ :=
    (bounded_try_queue_implements positive).linearizable reached
  have contents := represented.contents
  have counted : state.data.mCurrentSize = state.data.mQ.length := by
    rw [contents]
    exact represented.counted
  refine ⟨⟨counted, ?_⟩, ?_, ?_, ?_, traces, fifo, explained, contents.symm⟩
  · have bounded := fifo.bounded
    rw [represented.counted]
    omega
  · intro thread x request next point taken
    obtain ⟨data, answer⟩ := locked_step (traces thread) point taken
    rw [data, answer]
    obtain ⟨accepted, result, full, same, grown⟩ := @try_push_answers _ cmSize x _ counted
    refine ⟨accepted, ?_, full, same, grown⟩
    exact congrArg (CallPoint.returning _) result
  · intro thread popped request next point taken
    obtain ⟨data, answer⟩ := locked_step (traces thread) point taken
    rw [data, answer]
    obtain ⟨found, value, result, empty, same, taken⟩ := try_pop_answers popped state.data
    refine ⟨found, value, ?_, empty, same, taken⟩
    exact congrArg (CallPoint.returning _) result
  · rw [contents]
    exact (bounded_fifo_in_order explained).in_order

/-- One place; the second of two producers finds it taken. -/
theorem bounded_try_queue_is_linearizable_second_push :
    ∃ state : TryQueueState Nat Nat, (1 : Int) ≤ 1 ∧
      state.data = { mQ := [10], mCurrentSize := 1 } ∧
      state.thread 1 = .locking (.tryPush 20) (.tryPush [20]) ∧
      pops (tryEvents state.effects) ++ [10] = pushes (tryEvents state.effects) ∧
      ∀ next, (tryQueueSystem Nat Nat 1).step (.locked 1) state = some next →
        next.data = state.data := by
  let labels : List (TryQueueLabel Nat Nat) :=
    [.invoke 0 (.tryPush 10), .invoke 1 (.tryPush 20), .prepare 0, .prepare 1, .locked 0]
  obtain ⟨state, reached, contents, point⟩ : ∃ state,
      Reachable (tryQueueSystem Nat Nat 1) anyStep state ∧
      state.data = { mQ := [10], mCurrentSize := 1 } ∧
      state.thread 1 = .locking (.tryPush 20) (.tryPush [20]) :=
    schedule_reaches labels rfl (by decide)
  obtain ⟨_, push, _, ordered, _⟩ :=
    bounded_try_queue_is_linearizable 1 (by decide) state reached
  refine ⟨state, by decide, contents, point, ?_, ?_⟩
  · simpa [contents] using ordered
  · intro next taken
    obtain ⟨accepted, _, full, same, _⟩ := push 1 20 _ next point taken
    exact same (full.mpr (by simp [contents]))

end Schedulers.Queues
