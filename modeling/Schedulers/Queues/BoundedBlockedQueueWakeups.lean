import Schedulers.Queues.BoundedBlockedQueueModel

/-!
# Wake-ups of the bounded queue

`was_empty` is sampled before a producer may wait for room. While it waits, the
queue can run empty and a consumer can block; the producer then adds the one
element and tells nobody, since the queue was full when it looked. The same holds
of `was_full`. Unless a stale sample meets a blocked thread, no wake-up is lost.
-/

namespace Schedulers.Queues

open Schedulers.TransitionSystem Schedulers.BroadcastMonitor

set_option autoImplicit false

variable {Thread T : Type} {maxSize : Int}

abbrev QueueState (Thread T : Type) :=
  MonitorState Thread (BoundedBlockedQueue T) (QueueFrame T) QueueCondition (QueueResult T)

abbrev QueueLabel (Thread T : Type) := MonitorLabel Thread (QueueCall T)

def Readable (queue : BoundedBlockedQueue T) : Prop := queue.list ≠ []

def Writable (maxSize : Int) (queue : BoundedBlockedQueue T) : Prop := queue.size < maxSize

/-- A thread whose sample went stale while it waited does not complete its call past
a thread that is blocked on the other side and that nobody is about to wake. -/
def SampleHolds (maxSize : Int) : Permission (QueueState Thread T) (QueueLabel Thread T)
  | .resume thread, state =>
      (∀ src, state.thread thread = .woken (.push src false) →
        state.shared.list = [] → state.shared.size ≠ maxSize →
          Waiting .rcond state → Pending .rcond state) ∧
      (state.thread thread = .woken (.pop false) →
        state.shared.list ≠ [] → state.shared.size = maxSize →
          Waiting .wcond state → Pending .wcond state)
  | _, _ => True

theorem push_covers_readers {state : QueueState Thread T} {src : T} {wasEmpty : Bool}
    (sampled : state.shared.list = [] → state.shared.size ≠ maxSize → wasEmpty = false →
      Waiting .rcond state → Pending .rcond state) :
    Covers Readable .rcond state (pushSection maxSize src wasEmpty state.shared) := by
  unfold pushSection
  by_cases full : state.shared.size = maxSize
  · rw [if_pos full]
    exact fun readable => ⟨by simp, readable⟩
  · rw [if_neg full]
    intro _ quiet
    by_cases empty : state.shared.list = []
    · right
      cases wasEmpty with
      | true => simp at quiet
      | false =>
          by_cases waiting : Waiting .rcond state
          · exact .inr (sampled empty full rfl waiting)
          · exact .inl waiting
    · exact .inl empty

theorem push_covers_writers {state : QueueState Thread T} {src : T} {wasEmpty : Bool} :
    Covers (Writable maxSize) .wcond state (pushSection maxSize src wasEmpty state.shared) := by
  unfold pushSection
  by_cases full : state.shared.size = maxSize
  · rw [if_pos full]
    intro writable
    exact absurd full (Int.ne_of_lt writable)
  · rw [if_neg full]
    intro writable _
    left
    change state.shared.size + 1 < maxSize at writable
    change state.shared.size < maxSize
    omega

theorem pop_covers_readers {state : QueueState Thread T} {wasFull : Bool} :
    Covers Readable .rcond state (popSection wasFull state.shared) := by
  unfold popSection
  cases content : state.shared.list with
  | nil => exact fun readable => absurd content readable
  | cons front rest =>
      intro _ _
      left
      simp [Readable, content]

theorem pop_covers_writers {state : QueueState Thread T} {wasFull : Bool}
    (within : WithinBound maxSize state.shared)
    (sampled : state.shared.list ≠ [] → state.shared.size = maxSize → wasFull = false →
      Waiting .wcond state → Pending .wcond state) :
    Covers (Writable maxSize) .wcond state (popSection wasFull state.shared) := by
  unfold popSection
  cases content : state.shared.list with
  | nil => exact fun writable => ⟨by simp, writable⟩
  | cons front rest =>
      intro _ quiet
      by_cases full : state.shared.size = maxSize
      · right
        cases wasFull with
        | true => simp at quiet
        | false =>
            by_cases waiting : Waiting .wcond state
            · exact .inr (sampled (by simp [content]) full rfl waiting)
            · exact .inl waiting
      · left
        have bounded := within.bounded
        change state.shared.size < maxSize
        omega

theorem enter_covers_readers (maxSize : Int) (state : QueueState Thread T) (call : QueueCall T) :
    Covers Readable .rcond state ((boundedBlockedQueue T maxSize).enter call state.shared) := by
  cases call with
  | push src =>
      apply push_covers_readers
      intro empty _ sample
      simp [empty] at sample
  | pop => exact pop_covers_readers

theorem enter_covers_writers {state : QueueState Thread T}
    (within : WithinBound maxSize state.shared) (call : QueueCall T) :
    Covers (Writable maxSize) .wcond state
      ((boundedBlockedQueue T maxSize).enter call state.shared) := by
  cases call with
  | push src => exact push_covers_writers
  | pop =>
      apply pop_covers_writers within
      intro _ full sample
      simp [full] at sample

variable [DecidableEq Thread]

abbrev queueSystem (Thread T : Type) [DecidableEq Thread] (maxSize : Int) :
    System (QueueState Thread T) (QueueLabel Thread T) :=
  (boundedBlockedQueue T maxSize).system .empty

/-- Nothing is under way and a consumer is blocked before an element, or a producer
before room. -/
def LostWakeup (maxSize : Int) (state : QueueState Thread T) : Prop :=
  Quiescent (boundedBlockedQueue T maxSize) state ∧
    ((Waiting .rcond state ∧ Readable state.shared) ∨
      (Waiting .wcond state ∧ Writable maxSize state.shared))

structure WakeupsPending (maxSize : Int) (state : QueueState Thread T) : Prop where
  within : WithinBound maxSize state.shared
  readers : Covered Readable .rcond state
  writers : Covered (Writable maxSize) .wcond state

theorem wakeups_pending_step {state next : QueueState Thread T} {label : QueueLabel Thread T}
    (given : WakeupsPending maxSize state) (allowed : SampleHolds maxSize label state)
    (taken : (queueSystem Thread T maxSize).step label state = some next) :
    WakeupsPending maxSize next := by
  constructor
  · exact shared_step enter_within resume_within given.within taken
  · apply covered_step _ _ given.readers taken
    · exact fun thread call _ => enter_covers_readers maxSize state call
    · intro thread frame same point
      subst same
      cases frame with
      | push src wasEmpty =>
          apply push_covers_readers
          intro empty room stale
          subst stale
          exact allowed.1 src point empty room
      | pop wasFull => exact pop_covers_readers
  · apply covered_step _ _ given.writers taken
    · exact fun thread call _ => enter_covers_writers given.within call
    · intro thread frame same point
      subst same
      cases frame with
      | push src wasEmpty => exact push_covers_writers
      | pop wasFull =>
          apply pop_covers_writers given.within
          intro present full stale
          subst stale
          exact allowed.2 point present full

theorem wakeups_pending_reachable (positive : 1 ≤ maxSize) {state : QueueState Thread T}
    (reached : Reachable (queueSystem Thread T maxSize) (SampleHolds maxSize) state) :
    WakeupsPending maxSize state := by
  apply reached.keeps
  · intro start same
    subst same
    constructor
    · constructor
      · rfl
      · change (0 : Int) ≤ maxSize
        omega
    · exact fun readable => absurd rfl readable
    · intro _ ⟨thread, frame, blocked⟩
      cases blocked
  · exact fun label before after given allowed taken => wakeups_pending_step given allowed taken

theorem perform_leave_silent {state : QueueState Thread T} {thread : Thread}
    {frame : QueueFrame T} (point : state.thread thread = .woken frame) (condition : QueueCondition)
    (waiting : Waiting condition state) (quiet : ¬Pending condition state)
    (queue : BoundedBlockedQueue T) (result : QueueResult T) :
    Waiting condition (perform state thread (.leave queue result [])) ∧
      ¬Pending condition (perform state thread (.leave queue result [])) := by
  constructor
  · obtain ⟨waiter, remembered, blocked⟩ := waiting
    have different : waiter ≠ thread := by
      intro same
      rw [same, point] at blocked
      cases blocked
    exact ⟨waiter, remembered, by rw [perform_other state different]; exact blocked⟩
  · intro ⟨announcer, announces⟩
    by_cases same : announcer = thread
    · subst same
      simp [perform, ThreadPoint.leaving, ThreadPoint.announces] at announces
    · rw [perform_other state same] at announces
      exact quiet ⟨announcer, announces⟩

/-- A step that does not meet the condition does lose a wake-up: it leaves a thread
blocked before an element or before room, and nobody about to wake it. -/
theorem stale_sample_uncovers {state next : QueueState Thread T} {label : QueueLabel Thread T}
    (stale : ¬SampleHolds maxSize label state)
    (taken : (queueSystem Thread T maxSize).step label state = some next) :
    ¬(Covered Readable .rcond next ∧ Covered (Writable maxSize) .wcond next) := by
  intro ⟨readers, writers⟩
  cases label with
  | resume thread =>
      apply stale
      constructor
      · intro src point empty room waiting
        by_contra quiet
        have left : next = perform state thread
            (.leave { list := state.shared.list ++ [src], size := state.shared.size + 1 }
              (.pushed src) []) := by
          simpa [queueSystem, Monitor.system, Monitor.step, point, boundedBlockedQueue,
            pushSection, room] using taken.symm
        have silent := perform_leave_silent point .rcond waiting quiet
          { list := state.shared.list ++ [src], size := state.shared.size + 1 } (.pushed src)
        rw [← left] at silent
        apply silent.2 (readers _ silent.1)
        rw [left, perform_shared]
        simp [Readable, Section.shared]
      · intro point present full waiting
        by_contra quiet
        obtain ⟨front, rest, content⟩ := List.exists_cons_of_ne_nil present
        have left : next = perform state thread
            (.leave { list := rest, size := state.shared.size - 1 } (.popped front) []) := by
          simpa [queueSystem, Monitor.system, Monitor.step, point, boundedBlockedQueue,
            popSection, content] using taken.symm
        have silent := perform_leave_silent point .wcond waiting quiet
          { list := rest, size := state.shared.size - 1 } (.popped front)
        rw [← left] at silent
        apply silent.2 (writers _ silent.1)
        rw [left, perform_shared]
        change state.shared.size - 1 < maxSize
        omega
  | enter thread call => exact stale trivial
  | broadcast thread => exact stale trivial
  | spurious thread => exact stale trivial

/-- In every run in which no stale sample meets a blocked thread no wake-up is lost,
and a step that does not meet this condition loses one at once. -/
theorem no_wakeup_lost_without_stale_sample (positive : 1 ≤ maxSize) (state : QueueState Thread T)
    (reached : Reachable (queueSystem Thread T maxSize) (SampleHolds maxSize) state) :
    ¬LostWakeup maxSize state ∧
    ∀ label next, (queueSystem Thread T maxSize).step label state = some next →
      ¬SampleHolds maxSize label state →
      (Waiting .rcond next ∧ Readable next.shared ∧ ¬Pending .rcond next) ∨
        (Waiting .wcond next ∧ Writable maxSize next.shared ∧ ¬Pending .wcond next) := by
  have pending := wakeups_pending_reachable positive reached
  constructor
  · intro ⟨quiet, lost⟩
    rcases lost with ⟨waiting, readable⟩ | ⟨waiting, writable⟩
    · exact pending.readers.not_waiting quiet readable waiting
    · exact pending.writers.not_waiting quiet writable waiting
  · intro label next taken stale
    have uncovered := stale_sample_uncovers stale taken
    simp only [Covered, not_and_or, Classical.not_imp] at uncovered
    rcases uncovered with ⟨readable, waiting, quiet⟩ | ⟨writable, waiting, quiet⟩
    · exact .inl ⟨waiting, readable, quiet⟩
    · exact .inr ⟨waiting, writable, quiet⟩

/-- A consumer that waits for an element is woken by the one that comes. -/
theorem no_wakeup_lost_consumer_woken :
    ∃ state : QueueState (Fin 2) Nat, state.log = [(0, .pushed 7), (1, .popped 7)] ∧
      ¬LostWakeup 2 state := by
  let initial : QueueState (Fin 2) Nat :=
    { shared := .empty, thread := fun _ => .outside, log := [] }
  have waits : Run (queueSystem (Fin 2) Nat 2) (SampleHolds 2) initial _ :=
    .tail (.enter 1 .pop) (.refl initial) trivial rfl
  have pushed : Run (queueSystem (Fin 2) Nat 2) (SampleHolds 2) initial _ :=
    .tail (.enter 0 (.push 7)) waits trivial rfl
  have woken : Run (queueSystem (Fin 2) Nat 2) (SampleHolds 2) initial _ :=
    .tail (.broadcast 0) pushed trivial rfl
  have popped : Run (queueSystem (Fin 2) Nat 2) (SampleHolds 2) initial _ :=
    .tail (.resume 1) woken
      ⟨fun _ point => (by cases point), fun _ _ full => absurd full (by decide)⟩ rfl
  exact ⟨_, rfl, (no_wakeup_lost_without_stale_sample (by decide) _ ⟨_, rfl, popped⟩).1⟩

/-- The queue holds one element and is full. A producer waits for room; one consumer
takes the element and another blocks; the producer adds its element and, having
found the queue not empty when it came, wakes nobody. -/
theorem stale_was_empty_loses_wakeup :
    ¬∀ state : QueueState (Fin 4) Nat,
      Reachable (queueSystem (Fin 4) Nat 1) anyStep state → ¬LostWakeup 1 state := by
  intro always
  let labels : List (QueueLabel (Fin 4) Nat) :=
    [.enter 0 (.push 1), .broadcast 0, .enter 1 (.push 2), .enter 2 .pop, .enter 3 .pop,
      .broadcast 2, .resume 1]
  obtain ⟨state, reached, quiet, blocked, content⟩ : ∃ state : QueueState (Fin 4) Nat,
      Reachable (queueSystem (Fin 4) Nat 1) anyStep state ∧
      (∀ thread, ((queueSystem (Fin 4) Nat 1).step (.resume thread) state).isNone ∧
        ((queueSystem (Fin 4) Nat 1).step (.broadcast thread) state).isNone) ∧
      state.thread 3 = .blocked .rcond (.pop false) ∧ state.shared.list = [2] :=
    schedule_reaches labels rfl (by decide)
  apply always state reached
  refine ⟨fun thread => ?_, .inl ⟨⟨3, _, blocked⟩, by simp [Readable, content]⟩⟩
  exact ⟨Option.isNone_iff_eq_none.mp (quiet thread).1,
    Option.isNone_iff_eq_none.mp (quiet thread).2⟩

end Schedulers.Queues
