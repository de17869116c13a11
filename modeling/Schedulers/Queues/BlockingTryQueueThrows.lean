import Schedulers.Queues.BlockingTryQueueModel

/-!
# Copies that throw in `try_push` and `try_pop`

`try_push` copies before it takes the lock, and `try_pop` assigns before it changes the
list or the counter; the scoped lock releases the mutex in both cases. A call that ends
with the exception has done nothing.
-/

namespace Schedulers.Queues

open Schedulers.TransitionSystem Schedulers.LockedCode Schedulers.CodeMonitors

set_option autoImplicit false

variable {Thread T : Type} {cmSize : Int}

def BlockingCall.Tries : BlockingCall T → Prop
  | .tryPush _ => True
  | .tryPop _ => True
  | _ => False

section Sections

variable {memory after : Memory (BlockingTryQueue T) BlockingCondition}
  {exception : BlockingException}

/-- Nothing but the answers of the copies has changed. -/
def Untouched (memory after : Memory (BlockingTryQueue T) BlockingCondition) : Prop :=
  after.shared = memory.shared ∧ after.locked = memory.locked ∧ after.signals = memory.signals

theorem try_push_throws (x : T)
    (ran : (BlockingTryQueue.tryPush cmSize x).run memory = .error (.thrown exception) after) :
    Untouched memory after := by
  by_cases throws : nextThrows memory.copies = true
  · simp only [BlockingTryQueue.tryPush, EStateM.run_bind, run_copy, throws, if_true,
      EStateM.Result.error.injEq] at ran
    rw [← ran.2]
    exact ⟨rfl, rfl, rfl⟩
  · cases held : memory.locked with
    | true =>
        simp [BlockingTryQueue.tryPush, throws, run_scopedLock_held, held] at ran
    | false =>
        rw [run_try_push memory cmSize x held, if_neg throws] at ran
        split_ifs at ran

theorem try_pop_throws (popped : T)
    (ran : (BlockingTryQueue.tryPop popped).run memory = .error (.thrown exception) after) :
    Untouched memory after := by
  cases held : memory.locked with
  | true =>
      rw [BlockingTryQueue.tryPop, run_scopedLock_held _ _ held] at ran
      cases ran
  | false =>
      rw [run_try_pop memory popped held] at ran
      cases content : memory.shared.mQ with
      | nil => simp [content] at ran
      | cons front rest =>
          simp only [content] at ran
          split_ifs at ran
          cases ran
          exact ⟨rfl, rfl, rfl⟩

theorem try_call_throws {call : BlockingCall T} (tries : call.Tries)
    (ran : ((blockingTryQueue T cmSize).enter call).run memory = .error (.thrown exception) after) :
    Untouched memory after := by
  cases call with
  | tryPush x => exact try_push_throws x (run_map_error ran)
  | tryPop popped => exact try_pop_throws popped (run_map_error ran)
  | _ => exact tries.elim

end Sections

variable [DecidableEq Thread]

theorem failed_try_call {state next : BlockingState Thread T} {thread : Thread}
    {call : BlockingCall T} {copies : List Bool} {picks : List Thread}
    {exception : BlockingException} (tries : call.Tries)
    (taken : (blockingTryQueue T cmSize).step (.enter thread call copies picks) state = some next)
    (failed : next.log = state.log ++ [(thread, .error exception)]) :
    state.thread thread = .outside ∧ next = { state with log := next.log } := by
  obtain ⟨point, rfl⟩ := step_enter taken
  obtain ⟨after, ran⟩ := endedWith_error.mp (List.append_cancel_left failed)
  obtain ⟨shared, locked, signals⟩ := try_call_throws tries ran
  refine ⟨point, ?_⟩
  rw [ran, finish_thrown point shared locked signals]

/-- In every reachable state a `try_push` or `try_pop` that ends with an exception leaves
list, counter and all other threads as they were; the mutex is free unless another
thread waits for its own; and whatever happens later goes as if the call had not been
made. -/
theorem try_calls_are_strongly_safe (cmSize : Int) (state next : BlockingState Thread T)
    (reached : Reachable (blockingQueueSystem Thread T cmSize) anyStep state)
    (thread : Thread) (call : BlockingCall T) (tries : call.Tries) (copies : List Bool)
    (picks : List Thread) (exception : BlockingException)
    (taken : (blockingTryQueue T cmSize).step (.enter thread call copies picks) state = some next)
    (failed : next.log = state.log ++ [(thread, .error exception)]) :
    (next.shared.mQ = state.shared.mQ ∧ next.shared.mCurrentSize = state.shared.mCurrentSize ∧
      next.thread = state.thread) ∧
    (next.locked = true → ∃ other, other ≠ thread ∧ next.thread other = .stuck) ∧
    ∀ labels, afterwards (blockingTryQueue T cmSize) labels next =
      afterwards (blockingTryQueue T cmSize) labels state := by
  obtain ⟨point, same⟩ := failed_try_call tries taken failed
  rw [same]
  refine ⟨⟨rfl, rfl, rfl⟩, ?_, fun labels => afterwards_other_log labels next.log⟩
  intro held
  obtain ⟨other, stuck⟩ := held_by_stuck (every_section_restores cmSize) reached held
  refine ⟨other, ?_, stuck⟩
  intro equal
  rw [equal, point] at stuck
  cases stuck

/-- The queue has one element, whose assignment throws. -/
theorem try_calls_are_strongly_safe_pop :
    ∃ state next : BlockingState Nat Nat, state.shared.mQ = [10] ∧
      (blockingTryQueue Nat 2).step (.enter 1 (.tryPop 0) [true] []) state = some next ∧
      next.shared.mQ = [10] ∧ next.shared.mCurrentSize = 1 ∧
      ∀ labels, afterwards (blockingTryQueue Nat 2) labels next =
        afterwards (blockingTryQueue Nat 2) labels state := by
  obtain ⟨state, reached, content, size, fails⟩ : ∃ state,
      Reachable (blockingQueueSystem Nat Nat 2) anyStep state ∧
        state.shared.mQ = [10] ∧ state.shared.mCurrentSize = 1 ∧
        ((blockingTryQueue Nat 2).step (.enter 1 (.tryPop 0) [true] []) state).any
          (fun next => next.log = state.log ++ [(1, .error .copyFailed)]) = true :=
    schedule_reaches [.enter 0 (.tryPush 10) [] []] rfl (by decide)
  obtain ⟨next, taken, failed⟩ := (Option.any_eq_true _ _).mp fails
  obtain ⟨⟨elements, counter, _⟩, _, later⟩ :=
    try_calls_are_strongly_safe 2 state next reached 1 (.tryPop 0) trivial [true] [] .copyFailed
      taken (of_decide_eq_true failed)
  exact ⟨state, next, content, taken, elements.trans content, counter.trans size, later⟩

end Schedulers.Queues
