import Schedulers.Queues.BlockingTryQueueModel

/-!
# The counter on the blocking path of `bounded_try_queue`

`wait_and_pop` takes an element out of the list and leaves `m_current_size` as it is;
`wait_and_push` calls `size()` with the mutex in its hands and stays there. Neither does
what its sibling does, in any state of a queue that is not stopped.
-/

namespace Schedulers.Queues

open Schedulers.TransitionSystem Schedulers.LockedCode Schedulers.CodeMonitors

set_option autoImplicit false

variable {Thread T : Type} {cmSize : Int} {queue : BlockingTryQueue T}

/-- A call that finds the mutex free, and whose copies do not throw. -/
def runAlone (cmSize : Int) (call : BlockingCall T) (queue : BlockingTryQueue T) :
    SectionOutcome (BlockingTryQueue T) (BlockingFrame T) BlockingCondition BlockingException
      (BlockingResult T) :=
  ((blockingTryQueue T cmSize).enter call).run
    { shared := queue, locked := false, signals := [], copies := [] }

def SameQueue (left right : Memory (BlockingTryQueue T) BlockingCondition) : Prop :=
  left.shared.mQ = right.shared.mQ ∧ left.shared.mCurrentSize = right.shared.mCurrentSize

/-- On a queue that is not empty `wait_and_pop` does what `try_pop` does. -/
def PopAgrees (cmSize : Int) (queue : BlockingTryQueue T) : Prop :=
  ∀ popped, queue.mQ ≠ [] → ∃ front waited tried,
    runAlone cmSize (.waitAndPop popped) queue = .ok (.leave (.waitedPop front) []) waited ∧
    runAlone cmSize (.tryPop popped) queue = .ok (returning (.tryPop true front)) tried ∧
    SameQueue waited tried

/-- On a queue with room `wait_and_push` does what a `try_push` does that succeeds. -/
def PushAgrees (cmSize : Int) (queue : BlockingTryQueue T) : Prop :=
  ∀ item, (queue.mQ.length : Int) < cmSize → ∃ signals waited tried,
    runAlone cmSize (.waitAndPush item) queue = .ok (.leave .waitedPush signals) waited ∧
    runAlone cmSize (.tryPush item) queue = .ok (returning (.tryPush true)) tried ∧
    SameQueue waited tried

structure BlockingAgrees (cmSize : Int) (queue : BlockingTryQueue T) : Prop where
  pop : PopAgrees cmSize queue
  push : PushAgrees cmSize queue
  counted : queue.mCurrentSize = queue.mQ.length

theorem wait_and_pop_alone (popped : T) (running : queue.mStopped = false) {front : T}
    {rest : List T} (content : queue.mQ = front :: rest) :
    runAlone cmSize (.waitAndPop popped) queue = .ok (.leave (.waitedPop front) []) {
      shared := { queue with mQ := rest, mNblockedPop := queue.mNblockedPop + 1 - 1 }
      locked := false
      signals := [.one .mPushCv]
      copies := [] } := by
  change (scopedLock _).run _ = _
  rw [run_scopedLock _ _ rfl, EStateM.run_bind, run_update]
  dsimp only
  rw [run_wait_and_pop_loop]
  simp [running, content, nextThrows]

theorem try_pop_alone (popped : T) {front : T} {rest : List T}
    (content : queue.mQ = front :: rest) :
    runAlone cmSize (.tryPop popped) queue = .ok (returning (.tryPop true front)) {
      shared := { queue with mQ := rest, mCurrentSize := queue.mCurrentSize - 1 }
      locked := false
      signals := []
      copies := [] } := by
  change (_ <$> BlockingTryQueue.tryPop popped).run _ = _
  rw [run_map, run_try_pop _ _ rfl]
  simp [content, nextThrows]

theorem wait_and_push_alone (item : T) (running : queue.mStopped = false) :
    runAlone cmSize (.waitAndPush item) queue = .error .stuck {
      shared := { queue with mNblockedPush := queue.mNblockedPush + 1 }
      locked := true
      signals := []
      copies := [] } := by
  change (scopedLock _).run _ = _
  rw [run_scopedLock _ _ rfl, EStateM.run_bind, run_update]
  dsimp only
  rw [run_wait_and_push_loop _ _ rfl]
  simp [running]

def isWaitedPop : Except BlockingException (BlockingResult T) → Bool
  | .ok (.waitedPop _) => true
  | _ => false

def waitedPops (log : List (Thread × Except BlockingException (BlockingResult T))) : Nat :=
  log.countP fun entry => isWaitedPop entry.2

theorem waited_pops_append
    (log ended : List (Thread × Except BlockingException (BlockingResult T))) :
    waitedPops (log ++ ended) = waitedPops log + waitedPops ended :=
  List.countP_append

/-- What a section does to the list and the counter, and how many elements it delivers
through `wait_and_pop`. -/
inductive QueueEffect (cmSize : Int) : BoundedTryQueue T → BoundedTryQueue T → Nat → Prop where
  | none (queue : BoundedTryQueue T) : QueueEffect cmSize queue queue 0
  | tryPush (x : T) (queue : BoundedTryQueue T) (room : queue.mCurrentSize ≠ cmSize) :
      QueueEffect cmSize queue
        { mQ := queue.mQ ++ [x], mCurrentSize := queue.mCurrentSize + 1 } 0
  | tryPop (front : T) (rest : List T) (size : Int) :
      QueueEffect cmSize { mQ := front :: rest, mCurrentSize := size }
        { mQ := rest, mCurrentSize := size - 1 } 0
  | waitAndPop (front : T) (rest : List T) (size : Int) :
      QueueEffect cmSize { mQ := front :: rest, mCurrentSize := size }
        { mQ := rest, mCurrentSize := size } 1

theorem QueueEffect.counted {queue after : BoundedTryQueue T} {delivered : Nat}
    (effect : QueueEffect cmSize queue after delivered) :
    after.mCurrentSize - after.mQ.length =
      queue.mCurrentSize - queue.mQ.length + delivered := by
  cases effect with
  | none => simp
  | tryPush =>
      simp only [List.length_append, List.length_singleton]
      omega
  | tryPop =>
      simp only [List.length_cons]
      omega
  | waitAndPop =>
      simp only [List.length_cons]
      omega

theorem QueueEffect.bounded {queue after : BoundedTryQueue T} {delivered : Nat}
    (effect : QueueEffect cmSize queue after delivered) (given : queue.mCurrentSize ≤ cmSize) :
    after.mCurrentSize ≤ cmSize := by
  cases effect with
  | none => exact given
  | tryPush x queue room =>
      change queue.mCurrentSize + 1 ≤ cmSize
      omega
  | tryPop front rest size =>
      change size ≤ cmSize at given
      change size - 1 ≤ cmSize
      omega
  | waitAndPop => exact given

def HasEffect (cmSize : Int) (thread : Thread) (queue : BoundedTryQueue T)
    (outcome : SectionOutcome (BlockingTryQueue T) (BlockingFrame T) BlockingCondition
      BlockingException (BlockingResult T)) : Prop :=
  QueueEffect cmSize queue (memoryAfter outcome).shared.toBoundedTryQueue
    (waitedPops (endedWith thread outcome))

section Sections

variable (thread : Thread) (memory : Memory (BlockingTryQueue T) BlockingCondition)

theorem scopedLock_effect (body : QueueCode T (QueueExit T))
    (given : HasEffect cmSize thread memory.shared.toBoundedTryQueue
      (released (body.run { memory with locked := true }))) :
    HasEffect cmSize thread memory.shared.toBoundedTryQueue ((scopedLock body).run memory) := by
  cases held : memory.locked with
  | true =>
      rw [run_scopedLock_held memory body held]
      exact .none _
  | false =>
      rw [run_scopedLock memory body held]
      exact given

theorem returning_effect {Value : Type} {code : QueueCode T Value} {result : Value → TryResult T}
    (effect : QueueEffect cmSize memory.shared.toBoundedTryQueue
      (memoryAfter (code.run memory)).shared.toBoundedTryQueue 0) :
    HasEffect cmSize thread memory.shared.toBoundedTryQueue
      (((fun value => returning (result value)) <$> code).run memory) := by
  rw [run_map]
  revert effect
  rcases code.run memory with ⟨value, after⟩ | ⟨_ | _, after⟩ <;> exact id

theorem try_push_effect (x : T) :
    QueueEffect cmSize memory.shared.toBoundedTryQueue
      (memoryAfter ((BlockingTryQueue.tryPush cmSize x).run memory)).shared.toBoundedTryQueue
      0 := by
  cases held : memory.locked with
  | true =>
      by_cases throws : nextThrows memory.copies = true
      · simpa [BlockingTryQueue.tryPush, throws, memoryAfter] using .none _
      · simpa [BlockingTryQueue.tryPush, throws, run_scopedLock_held, held, memoryAfter] using
          .none _
  | false =>
      rw [run_try_push memory cmSize x held]
      split_ifs with throws full
      · exact .none _
      · exact .none _
      · exact .tryPush x _ full

theorem try_pop_effect (popped : T) :
    QueueEffect cmSize memory.shared.toBoundedTryQueue
      (memoryAfter ((BlockingTryQueue.tryPop popped).run memory)).shared.toBoundedTryQueue 0 := by
  obtain ⟨⟨⟨list, size⟩, _, _, _⟩, locked, signals, copies⟩ := memory
  cases locked with
  | true =>
      rw [BlockingTryQueue.tryPop, run_scopedLock_held _ _ rfl]
      exact .none _
  | false =>
      rw [run_try_pop _ popped rfl]
      cases list with
      | nil => exact .none _
      | cons front rest =>
          dsimp only
          split_ifs with throws
          · exact .none _
          · exact .tryPop front rest size

theorem size_effect :
    QueueEffect cmSize memory.shared.toBoundedTryQueue
      (memoryAfter (BlockingTryQueue.size.run memory)).shared.toBoundedTryQueue 0 := by
  cases held : memory.locked with
  | true =>
      rw [BlockingTryQueue.size, run_scopedLock_held _ _ held]
      exact .none _
  | false =>
      rw [run_size memory held]
      exact .none _

theorem empty_effect :
    QueueEffect cmSize memory.shared.toBoundedTryQueue
      (memoryAfter (BlockingTryQueue.empty.run memory)).shared.toBoundedTryQueue 0 := by
  cases held : memory.locked with
  | true =>
      rw [BlockingTryQueue.empty, run_scopedLock_held _ _ held]
      exact .none _
  | false =>
      rw [run_empty memory held]
      exact .none _

variable {memory} {queue : BoundedTryQueue T}

theorem stop_push_loop_effect (same : memory.shared.toBoundedTryQueue = queue) :
    HasEffect cmSize thread queue (released (BlockingTryQueue.stopPushLoop.run memory)) := by
  subst same
  rw [run_stop_push_loop]
  split_ifs <;> exact .none _

theorem stop_pop_loop_effect (same : memory.shared.toBoundedTryQueue = queue) :
    HasEffect cmSize thread queue (released (BlockingTryQueue.stopPopLoop.run memory)) := by
  rw [run_stop_pop_loop]
  split_ifs
  · subst same
    exact .none _
  · exact stop_push_loop_effect thread same

theorem stop_effect (wait : Bool) :
    HasEffect cmSize thread memory.shared.toBoundedTryQueue
      ((BlockingTryQueue.stop wait).run memory) := by
  apply scopedLock_effect
  cases wait with
  | true => exact stop_pop_loop_effect thread rfl
  | false => exact .none _

theorem wait_and_pop_loop_effect (popped : T) (same : memory.shared.toBoundedTryQueue = queue) :
    HasEffect cmSize thread queue
      (released ((BlockingTryQueue.waitAndPopLoop popped).run memory)) := by
  subst same
  rw [run_wait_and_pop_loop]
  obtain ⟨⟨⟨list, size⟩, _, _, stopped⟩, locked, signals, copies⟩ := memory
  cases stopped with
  | true => exact .none _
  | false =>
      cases list with
      | nil => exact .none _
      | cons front rest =>
          dsimp only
          split_ifs with throws
          · exact .none _
          · exact .waitAndPop front rest size

theorem wait_and_push_loop_effect (item : T) (held : memory.locked = true)
    (same : memory.shared.toBoundedTryQueue = queue) :
    HasEffect cmSize thread queue
      (released ((BlockingTryQueue.waitAndPushLoop item).run memory)) := by
  subst same
  rw [run_wait_and_push_loop memory item held]
  split_ifs <;> exact .none _

end Sections

theorem every_section_effect (cmSize : Int) (thread : Thread) :
    EverySection (blockingTryQueue T cmSize) fun memory outcome =>
      HasEffect cmSize thread memory.shared.toBoundedTryQueue outcome := by
  constructor
  · intro call memory
    cases call with
    | tryPush x => exact returning_effect thread memory (try_push_effect memory x)
    | tryPop popped => exact returning_effect thread memory (try_pop_effect memory popped)
    | size => exact returning_effect thread memory (size_effect memory)
    | empty => exact returning_effect thread memory (empty_effect memory)
    | stop wait => exact stop_effect thread wait
    | waitAndPop popped =>
        exact scopedLock_effect thread memory _ (wait_and_pop_loop_effect thread popped rfl)
    | waitAndPush item =>
        exact scopedLock_effect thread memory _ (wait_and_push_loop_effect thread item rfl rfl)
  · intro frame memory
    cases frame with
    | stopPop => exact scopedLock_effect thread memory _ (stop_pop_loop_effect thread rfl)
    | stopPush => exact scopedLock_effect thread memory _ (stop_push_loop_effect thread rfl)
    | waitAndPop popped =>
        exact scopedLock_effect thread memory _ (wait_and_pop_loop_effect thread popped rfl)
    | waitAndPush item =>
        exact scopedLock_effect thread memory _ (wait_and_push_loop_effect thread item rfl rfl)

variable [DecidableEq Thread]

theorem effect_invariant (fact : BoundedTryQueue T → Nat → Prop) (atStart : fact .start 0)
    (kept : ∀ queue after delivered before, QueueEffect cmSize queue after delivered →
      fact queue before → fact after (before + delivered))
    {state : BlockingState Thread T}
    (reached : Reachable (blockingQueueSystem Thread T cmSize) anyStep state) :
    fact state.shared.toBoundedTryQueue (waitedPops state.log) := by
  let holds : BlockingTryQueue T → List (Thread × Except BlockingException (BlockingResult T)) →
      Prop := fun queue log => fact queue.toBoundedTryQueue (waitedPops log)
  have given : holds state.shared state.log := by
    apply section_invariant atStart _ reached
    intro thread log
    have effects := every_section_effect (T := T) cmSize thread
    constructor
    · intro call memory before
      have after := kept _ _ _ _ (effects.1 call memory) before
      rwa [← waited_pops_append] at after
    · intro frame memory before
      have after := kept _ _ _ _ (effects.2 frame memory) before
      rwa [← waited_pops_append] at after
  exact given

/-- In every reachable state the counter is ahead of the list by the number of elements
that `wait_and_pop` has delivered. -/
theorem counter_ahead {state : BlockingState Thread T}
    (reached : Reachable (blockingQueueSystem Thread T cmSize) anyStep state) :
    state.shared.mCurrentSize = state.shared.mQ.length + waitedPops state.log := by
  apply effect_invariant (fun queue delivered => queue.mCurrentSize = queue.mQ.length + delivered)
    rfl _ reached
  intro queue after delivered before effect given
  have moved := effect.counted
  omega

section Agreement

variable (cmSize : Int) (queue : BlockingTryQueue T)

theorem pop_agrees_iff (running : queue.mStopped = false) :
    PopAgrees cmSize queue ↔ queue.mQ = [] := by
  constructor
  · intro agrees
    cases content : queue.mQ with
    | nil => rfl
    | cons front rest =>
        obtain ⟨_, waited, tried, popped, pulled, _, sizes⟩ := agrees front (by simp [content])
        rw [wait_and_pop_alone front running content] at popped
        rw [try_pop_alone front content] at pulled
        cases popped
        cases pulled
        simp at sizes
        omega
  · intro nothing _ something
    exact absurd nothing something

theorem push_agrees_iff (item : T) (running : queue.mStopped = false) :
    PushAgrees cmSize queue ↔ cmSize ≤ queue.mQ.length := by
  constructor
  · intro agrees
    by_contra room
    obtain ⟨_, _, _, pushed, _⟩ := agrees item (by omega)
    rw [wait_and_push_alone item running] at pushed
    cases pushed
  · intro full _ room
    omega

end Agreement

/-- In every reachable state of a queue that is not stopped: `wait_and_pop` agrees with
`try_pop` only where there is nothing to pop, `wait_and_push` with `try_push` only where
there is no room, and the counter with the list only before the first `wait_and_pop`
delivers; so all of it holds nowhere. -/
theorem blocking_path_never_agrees (cmSize : Int) (sized : 1 ≤ cmSize) (item : T)
    (state : BlockingState Thread T)
    (reached : Reachable (blockingQueueSystem Thread T cmSize) anyStep state)
    (running : state.shared.mStopped = false) :
    ¬ BlockingAgrees cmSize state.shared ∧
    (PopAgrees cmSize state.shared ↔ state.shared.mQ = []) ∧
    (PushAgrees cmSize state.shared ↔ cmSize ≤ state.shared.mQ.length) ∧
    (state.shared.mCurrentSize = state.shared.mQ.length ↔ waitedPops state.log = 0) := by
  have pops := pop_agrees_iff cmSize state.shared running
  have pushes := push_agrees_iff cmSize state.shared item running
  refine ⟨?_, pops, pushes, ?_⟩
  · intro agrees
    have nothing := pops.mp agrees.pop
    have full := pushes.mp agrees.push
    simp only [nothing, List.length_nil] at full
    omega
  · have ahead := counter_ahead reached
    omega

/-- A queue for two elements into which one was pushed. -/
theorem blocking_path_never_agrees_one :
    ∃ state : BlockingState Nat Nat, state.shared.mQ = [10] ∧
      ¬ BlockingAgrees 2 state.shared ∧ ¬ PopAgrees 2 state.shared := by
  obtain ⟨state, reached, content, running⟩ : ∃ state,
      Reachable (blockingQueueSystem Nat Nat 2) anyStep state ∧
        state.shared.mQ = [10] ∧ state.shared.mStopped = false :=
    schedule_reaches [.enter 0 (.tryPush 10) [] []] rfl (by decide)
  obtain ⟨disagrees, pops, _⟩ :=
    blocking_path_never_agrees 2 (by decide) 10 state reached running
  refine ⟨state, content, disagrees, ?_⟩
  intro agrees
  simp [content] at pops
  exact pops agrees

/-- There `wait_and_pop` leaves an empty list that is counted as one element, and
`wait_and_push` stays in the mutex it holds. -/
theorem blocking_path_disagrees :
    ∃ state : BlockingState Nat Nat, Reachable (blockingQueueSystem Nat Nat 2) anyStep state ∧
      state.shared.mStopped = false ∧ state.shared.mQ = [10] ∧
      (memoryAfter (runAlone 2 (.waitAndPop 0) state.shared)).shared.mQ = [] ∧
      (memoryAfter (runAlone 2 (.waitAndPop 0) state.shared)).shared.mCurrentSize = 1 ∧
      (memoryAfter (runAlone 2 (.tryPop 0) state.shared)).shared.mCurrentSize = 0 ∧
      isStuck (runAlone 2 (.waitAndPush 11) state.shared) = true ∧
      ¬ BlockingAgrees 2 state.shared := by
  obtain ⟨state, reached, running, content, facts⟩ : ∃ state,
      Reachable (blockingQueueSystem Nat Nat 2) anyStep state ∧
        state.shared.mStopped = false ∧ state.shared.mQ = [10] ∧
        (memoryAfter (runAlone 2 (.waitAndPop 0) state.shared)).shared.mQ = [] ∧
        (memoryAfter (runAlone 2 (.waitAndPop 0) state.shared)).shared.mCurrentSize = 1 ∧
        (memoryAfter (runAlone 2 (.tryPop 0) state.shared)).shared.mCurrentSize = 0 ∧
        isStuck (runAlone 2 (.waitAndPush 11) state.shared) = true :=
    schedule_reaches [.enter 0 (.tryPush 10) [] []] rfl (by decide)
  refine ⟨state, reached, running, content, facts.1, facts.2.1, facts.2.2.1, facts.2.2.2, ?_⟩
  intro agrees
  have nothing := (pop_agrees_iff 2 state.shared running).mp agrees.pop
  simp [content] at nothing

end Schedulers.Queues
