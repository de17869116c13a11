import Schedulers.Futures.FuturesRest
import Mathlib.Tactic.Common

/-!
# Broken promises

Where an executor destroys a task it has not called, `remove_promise` destroys the
continuations attached so far as well, and theirs. None of them is called, not even one given
to `recover`; one that is attached afterwards is given the broken promise.
-/

namespace Schedulers.Futures

open Schedulers.TransitionSystem

set_option autoImplicit false

variable {Value Failure : Type} {body : Nat → Argument Value Failure → Outcome Value Failure}
  {state next : FutureState Value Failure}

/-- The continuations in `_then` of the object, of these, and so on. -/
inductive Attached (state : FutureState Value Failure) (task : Nat) : Nat → Prop where
  | self : Attached state task task
  | inner (other continuation : Nat) (above : Attached state task other)
      (member : continuation ∈ (state.shared other).thenTasks) :
      Attached state task continuation

/-- The promise of the object has been broken, is being removed, or will be destroyed with
that of its antecedent. -/
structure Doomed (doomed : Nat → Prop) (state : FutureState Value Failure) (task : Nat) :
    Prop where
  bound : task < state.count
  uncalled : ∀ argument, (task, argument) ∉ state.calls
  place : (state.shared task).point = .done ∧
      (state.shared task).outcome = some (.error .brokenPromise) ∨
    (state.shared task).point.locks = true ∨
    (state.shared task).point = .promised ∧ task ∉ state.submitted ∧
      ∃ future, state.antecedent task = some future ∧ doomed future

theorem Doomed.notProceeding {doomed : Nat → Prop} {task : Nat} {tasks : List Nat}
    (holds : Doomed doomed state task) :
    (state.shared task).point ≠ .proceeding tasks := by
  intro here
  obtain ⟨done, -⟩ | locks | ⟨waiting, -⟩ := holds.place
  · simp [here] at done
  · simp [here, TaskPoint.locks] at locks
  · simp [here] at waiting

theorem SharedMove.breaks {task : Nat} {after : Shared Value Failure}
    (change : SharedMove state task after) (locks : (state.shared task).point.locks = true) :
    after.point.locks = true ∨
      after.point = .done ∧ after.outcome = some (.error .brokenPromise) := by
  cases change with
  | same | destroyed => exact .inl locks
  | _ => grind [TaskPoint.locks]

theorem SharedMove.stays {task : Nat} {after : Shared Value Failure}
    (change : SharedMove state task after) (done : (state.shared task).point = .done) :
    after.point = .done ∧ after.outcome = (state.shared task).outcome := by
  cases change with
  | same | destroyed => exact ⟨done, rfl⟩
  | _ => grind

theorem SharedMove.waits {task : Nat} {after : Shared Value Failure}
    (change : SharedMove state task after) (waiting : (state.shared task).point = .promised)
    (notGiven : task ∉ state.submitted) :
    after.point = .promised ∨ after.point.locks = true := by
  cases change with
  | same | destroyed => exact .inl waiting
  | _ => grind [TaskPoint.locks]

theorem Doomed.step {doomed : Nat → Prop} {label : FutureLabel} (holds : FutureInvariant state)
    (all : ∀ task, doomed task → Doomed doomed state task)
    (move : FutureMove body state label next) {task : Nat} (isDoomed : doomed task) :
    Doomed doomed next task := by
  obtain ⟨bound, uncalled, place⟩ := all task isDoomed
  have change := move.each holds.numbered holds.placed bound
  refine ⟨Nat.lt_of_lt_of_le bound move.count_le, fun argument called => ?_, ?_⟩
  · obtain before | here := move.called called
    · exact uncalled argument before
    · obtain ⟨done, -⟩ | locks | ⟨waiting, -⟩ := place
      · simp [here] at done
      · simp [here, TaskPoint.locks] at locks
      · simp [here] at waiting
  · obtain ⟨done, broken⟩ | locks | ⟨waiting, notGiven, future, continues, above⟩ := place
    · obtain ⟨stays, same⟩ := change.stays done
      exact .inl ⟨stays, same.trans broken⟩
    · exact (change.breaks locks).symm.imp_right .inl
    · obtain still | begins := change.waits waiting notGiven
      · refine .inr (.inr ⟨still, fun given => ?_, future, ?_, above⟩)
        · obtain before | ⟨rfl, -⟩ | ⟨other, tasks, continued, here⟩ :=
            move.given holds.placed given
          · exact notGiven before
          · exact Nat.lt_irrefl _ bound
          · cases continues.symm.trans continued
            exact (all future above).notProceeding here
        · exact (move.antecedent bound).trans continues
      · exact .inr (.inl begins)

theorem doomed_of_discarded {task : Nat} (holds : FutureInvariant state) (called : Called state)
    (given : task ∈ state.submitted) (alive : state.alive task)
    (taken : futureStep body (.discard task) state = some next) (other : Nat)
    (attached : Attached state task other) : Doomed (Attached state task) next other := by
  have unready := holds.told.unready (holds.placed.promised none task given)
  have uncalled : ∀ spot, ∀ each ∈ state.place spot, ∀ argument,
      (each, argument) ∉ state.calls := by
    intro spot each member argument before
    have ran := (called.begun _ before).2
    simp [holds.placed.promised spot each member, TaskPoint.ran] at ran
  cases future_move taken with
  | discardGone _ _ gone => exact absurd ⟨alive, unready⟩ gone
  | discard =>
      induction attached with
      | self =>
          refine ⟨holds.placed.within none task given, uncalled none task given,
            .inr (.inl ?_)⟩
          simp [FutureState.goTo_shared, TaskPoint.locks]
      | inner other continuation above member ih =>
          have waits : continuation ∈ state.place (some other) := by
            simp [FutureState.place, Shared.pending, member]
          have apart : continuation ≠ task := by
            rintro rfl
            exact holds.placed.apart other continuation waits given
          have waiting := holds.placed.promised _ continuation waits
          have notGiven := holds.placed.apart other continuation waits
          have continues := holds.placed.belongs other continuation waits
          refine ⟨holds.placed.within _ continuation waits, uncalled _ continuation waits,
            .inr (.inr ⟨?_, fun still => ?_, other, ?_, above⟩)⟩
          · simpa [FutureState.goTo_shared, apart] using waiting
          · exact notGiven (List.mem_of_mem_erase still)
          · simpa [FutureState.antecedent, FutureState.goTo_shared, apart] using continues

/-- A packaged task that an executor destroys takes the continuations attached by then, and
theirs, with it: none of their functions is called any more, also none that was given to
`recover`, and at rest those of the futures that are still owned have the broken promise. -/
theorem broken_promise_calls_nothing (state after later : FutureState Value Failure)
    (reached : Reachable (futureSystem body) anyStep state) (task other : Nat)
    (given : task ∈ state.submitted) (alive : state.alive task)
    (attached : Attached state task other)
    (taken : futureStep body (.discard task) state = some after)
    (run : Run (futureSystem body) anyStep after later) :
    (∀ argument, (other, argument) ∉ later.calls) ∧
      (AtRest body later → later.alive other →
        later.getTry other = some (.error .brokenPromise)) := by
  obtain ⟨holds, called⟩ := Called.reachable reached
  have begins := doomed_of_discarded holds called given alive taken
  obtain ⟨ends, all⟩ := @Run.keeps _ _ _ _ (fun now => FutureInvariant now ∧
    ∀ each, Attached state task each → Doomed (Attached state task) now each)
    (fun label before after both _ taken => ⟨both.1.step (future_move taken),
      fun each => Doomed.step both.1 both.2 (future_move taken)⟩)
    after later run ⟨holds.step (future_move taken), begins⟩
  obtain ⟨bound, uncalled, place⟩ := all other attached
  refine ⟨uncalled, fun rest owned => ?_⟩
  have ready := rest.ready ends other bound owned
  obtain ⟨done, broken⟩ | locks | ⟨waiting, -⟩ := place
  · simp [FutureState.getTry, ready, broken]
  · simp [rest.notBreaking ends other bound] at locks
  · simp [ends.told.unready waiting] at ready

theorem broken_promise_calls_nothing_chained :
    ∃ after : FutureState Nat Unit, Reachable (futureSystem addThree) anyStep after ∧
      ∀ later, Run (futureSystem addThree) anyStep after later →
        (∀ argument, (2, argument) ∉ later.calls) ∧
          (AtRest addThree later → later.alive 2 →
            later.getTry 2 = some (.error .brokenPromise)) := by
  obtain ⟨state, reached, given, alive, first, second⟩ :
      ∃ state : FutureState Nat Unit, Reachable (futureSystem addThree) anyStep state ∧
        0 ∈ state.submitted ∧ state.alive 0 ∧ 1 ∈ (state.shared 0).thenTasks ∧
        2 ∈ (state.shared 1).thenTasks :=
    schedule_reaches [.make .async, .make (.recoverOf 0), .make (.thenOf 1)] rfl (by decide)
  have attached : Attached state 0 2 := .inner 1 2 (.inner 0 1 .self first) second
  have enabled : futureStep addThree (.discard 0) state ≠ none := by
    change stepDiscard 0 state ≠ none
    unfold stepDiscard
    rw [if_pos given]
    split <;> simp
  obtain ⟨after, taken⟩ := Option.ne_none_iff_exists'.mp enabled
  refine ⟨after, reached.next (.discard 0) trivial taken, fun later run => ?_⟩
  exact broken_promise_calls_nothing state after later reached 0 2 given alive attached taken run

end Schedulers.Futures
