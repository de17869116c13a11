import Schedulers.Queues.BlockingTryQueueCounter
import Schedulers.Queues.BoundedBlockedQueueWakeups

/-!
# Which capacities hold

The constructors of `bounded_try_queue` and `BoundedBlockedQueue` take any `int`, and both
queues call themselves full where their counter equals it. The counter starts at zero: a
capacity below is never met, and the queue grows without a bound (until the counter, an
`int` in the source, overflows).
-/

namespace Schedulers.Queues

open Schedulers.TransitionSystem Schedulers.LockedCode Schedulers.CodeMonitors

set_option autoImplicit false

variable {State Label : Type}

/-- No run stores more elements than the size, or any where the size is negative. -/
def CapacityHolds (system : System State Label) (elements : State → Nat) (size : Int) : Prop :=
  ∀ state, Reachable system anyStep state → (elements state : Int) ≤ max size 0

def Unbounded (system : System State Label) (elements : State → Nat) : Prop :=
  ∀ count, ∃ state, Reachable system anyStep state ∧ elements state = count

theorem capacity_dichotomy {system : System State Label} {elements : State → Nat} {size : Int}
    (holds : 0 ≤ size → CapacityHolds system elements size)
    (grows : size < 0 → Unbounded system elements) :
    (CapacityHolds system elements size ↔ 0 ≤ size) ∧
      (Unbounded system elements ↔ size < 0) := by
  have exclusive : CapacityHolds system elements size → ¬Unbounded system elements := by
    intro capacity unbounded
    obtain ⟨state, reached, count⟩ := unbounded (size.toNat + 1)
    have bound := capacity state reached
    omega
  refine ⟨⟨?_, holds⟩, ⟨?_, grows⟩⟩
  · intro capacity
    by_contra negative
    exact exclusive capacity (grows (by omega))
  · intro unbounded
    by_contra accepted
    exact exclusive (holds (by omega)) unbounded

variable {Thread T : Type} [DecidableEq Thread] {size : Int}

theorem blocking_queue_capacity (accepted : 0 ≤ size) :
    CapacityHolds (blockingQueueSystem Thread T size) (fun state => state.shared.mQ.length)
      size := by
  intro state reached
  have ahead := counter_ahead reached
  have bounded : state.shared.mCurrentSize ≤ size := by
    apply effect_invariant (fun queue _ => queue.mCurrentSize ≤ size) accepted _ reached
    intro queue after delivered before effect given
    exact effect.bounded given
  simp only
  omega

theorem blocking_queue_push {state : BlockingState Thread T} {thread : Thread} (size : Int)
    (item : T) (outside : state.thread thread = .outside) (free : state.locked = false)
    (room : state.shared.mCurrentSize ≠ size) :
    ∃ next, (blockingTryQueue T size).step (.enter thread (.tryPush item) [] []) state = some next ∧
      next.thread thread = .outside ∧ next.locked = false ∧
      next.shared.mQ.length = state.shared.mQ.length + 1 := by
  have ran : ((blockingTryQueue T size).enter (.tryPush item)).run (state.memory []) =
      .ok (returning (.tryPush true)) { state.memory [] with
        shared := { state.shared with
          mQ := state.shared.mQ ++ [item]
          mCurrentSize := state.shared.mCurrentSize + 1 } } := by
    change (_ <$> BlockingTryQueue.tryPush size item).run _ = _
    rw [run_map, run_try_push _ size item free]
    simp [MonitorState.memory, nextThrows, room]
  refine ⟨finish state thread []
    (((blockingTryQueue T size).enter (.tryPush item)).run (state.memory [])), ?_, ?_⟩
  · simp only [CodeMonitor.step, outside]
    exact takeSection_eq_some.mpr ⟨fun _ => free, rfl⟩
  · rw [ran]
    exact ⟨finish_thread_self .., free, by simp [finish, memoryAfter]⟩

theorem blocking_queue_grows (thread : Thread) (item : T) (negative : size < 0) (count : Nat) :
    ∃ state : BlockingState Thread T, Reachable (blockingQueueSystem Thread T size) anyStep state ∧
      state.thread thread = .outside ∧ state.locked = false ∧ state.shared.mQ.length = count := by
  induction count with
  | zero => exact ⟨.start .start, ⟨_, rfl, .refl _⟩, rfl, rfl, rfl⟩
  | succ count induction =>
      obtain ⟨state, reached, outside, free, elements⟩ := induction
      have ahead := counter_ahead reached
      obtain ⟨next, taken, after, stillFree, grown⟩ :=
        blocking_queue_push size item outside free (by omega)
      refine ⟨next, reached.next (.enter thread (.tryPush item) [] []) trivial taken, after,
        stillFree, ?_⟩
      rw [grown, elements]

theorem blocked_queue_capacity (accepted : 0 ≤ size) :
    CapacityHolds (queueSystem Thread T size) (fun state => state.shared.list.length) size := by
  intro state reached
  let within : BoundedBlockedQueue T → List (QueueResult T) → Prop := fun queue _ =>
    WithinBound size queue
  have given : within state.shared state.results := by
    apply BroadcastMonitor.results_reachable _ _ _ reached
    · exact ⟨rfl, accepted⟩
    · intro call queue _ given
      exact enter_within call queue given
    · intro frame queue _ given
      exact resume_within frame queue given
  have counted := given.counted
  have bounded := given.bounded
  simp only
  omega

theorem blocked_queue_push {state : QueueState Thread T} {thread : Thread} (item : T)
    (reached : Reachable (queueSystem Thread T size) anyStep state)
    (outside : state.thread thread = .outside) (room : state.shared.size ≠ size) :
    ∃ next : QueueState Thread T, Reachable (queueSystem Thread T size) anyStep next ∧
      next.thread thread = .outside ∧
      next.shared = { list := state.shared.list ++ [item], size := state.shared.size + 1 } := by
  have done : (boundedBlockedQueue T size).enter (.push item) state.shared =
      .leave { list := state.shared.list ++ [item], size := state.shared.size + 1 } (.pushed item)
        (if state.shared.list.isEmpty then [.rcond] else []) := if_neg room
  have taken : (boundedBlockedQueue T size).step (.enter thread (.push item)) state = some _ :=
    BroadcastMonitor.step_enter (QueueCall.push item) outside
  rw [done] at taken
  have pushed : Reachable (queueSystem Thread T size) anyStep _ :=
    reached.next (.enter thread (.push item)) trivial taken
  exact BroadcastMonitor.leaving_gets_outside _ pushed (Function.update_self ..)

theorem blocked_queue_grows (thread : Thread) (item : T) (negative : size < 0) (count : Nat) :
    ∃ state : QueueState Thread T, Reachable (queueSystem Thread T size) anyStep state ∧
      state.thread thread = .outside ∧ state.shared.list.length = count ∧
      state.shared.size = count := by
  induction count with
  | zero => exact ⟨_, ⟨_, rfl, .refl _⟩, rfl, rfl, rfl⟩
  | succ count induction =>
      obtain ⟨state, reached, outside, elements, counted⟩ := induction
      obtain ⟨next, after, stillOutside, shared⟩ :=
        blocked_queue_push item reached outside (by omega)
      refine ⟨next, after, stillOutside, ?_, ?_⟩
      · simp [shared, elements]
      · simp [shared, counted]

theorem blocking_queue_unbounded (thread : Thread) (item : T) (negative : size < 0) :
    Unbounded (blockingQueueSystem Thread T size) fun state => state.shared.mQ.length := by
  intro count
  obtain ⟨state, reached, _, _, elements⟩ := blocking_queue_grows thread item negative count
  exact ⟨state, reached, elements⟩

theorem blocked_queue_unbounded (thread : Thread) (item : T) (negative : size < 0) :
    Unbounded (queueSystem Thread T size) fun state => state.shared.list.length := by
  intro count
  obtain ⟨state, reached, _, elements, _⟩ := blocked_queue_grows thread item negative count
  exact ⟨state, reached, elements⟩

/-- Both queues hold every size from zero on, and grow without a bound below zero. -/
theorem capacity_holds_iff (thread : Thread) (item : T) (size : Int) :
    ((CapacityHolds (blockingQueueSystem Thread T size) (fun state => state.shared.mQ.length)
        size ↔ 0 ≤ size) ∧
      (Unbounded (blockingQueueSystem Thread T size) (fun state => state.shared.mQ.length) ↔
        size < 0)) ∧
    (CapacityHolds (queueSystem Thread T size) (fun state => state.shared.list.length) size ↔
        0 ≤ size) ∧
      (Unbounded (queueSystem Thread T size) (fun state => state.shared.list.length) ↔
        size < 0) :=
  ⟨capacity_dichotomy blocking_queue_capacity (blocking_queue_unbounded thread item),
    capacity_dichotomy blocked_queue_capacity (blocked_queue_unbounded thread item)⟩

/-- A queue of size -1 takes an element, and a second one. -/
theorem negative_capacity_exceeded :
    ∃ state : BlockingState Nat Nat,
      Reachable (blockingQueueSystem Nat Nat (-1)) anyStep state ∧
      state.shared.mQ = [10, 20] ∧ ¬(state.shared.mQ.length : Int) ≤ max (-1) 0 :=
  schedule_reaches [.enter 0 (.tryPush 10) [] [], .enter 0 (.tryPush 20) [] []] rfl (by decide)

end Schedulers.Queues
