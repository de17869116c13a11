import Schedulers.Futures.FuturesRest
import Mathlib.Tactic.Common

/-!
# Futures that are held, and futures that are not

A task that has not begun is cancelled by dropping futures: its own and those of all its
continuations. What is still wanted is carried out by executors that call every task they
are given, and what is not is never called.
-/

namespace Schedulers.Futures

open Schedulers.TransitionSystem

set_option autoImplicit false

variable {Value Failure : Type} {body : Nat → Argument Value Failure → Outcome Value Failure}
  {state next : FutureState Value Failure}

/-- Somebody holds a future of the object or of a continuation, has detached it, or runs it. -/
inductive Wanted (state : FutureState Value Failure) : Nat → Prop where
  | held (task : Nat) (held : 0 < (state.shared task).futures) : Wanted state task
  | detached (task : Nat) (hold : (state.shared task).hold = true) : Wanted state task
  | running (task : Nat) (owns : (state.shared task).point.owns = true) : Wanted state task
  | continued (task other : Nat) (bound : other < state.count)
      (continues : state.antecedent other = some task)
      (kept : (state.shared other).function = true) (wanted : Wanted state other) :
      Wanted state task

/-- No destructor has still to run. -/
def Destroyed (state : FutureState Value Failure) : Prop :=
  ∀ task < state.count, ¬ state.alive task → (state.shared task).function = false

/-- The steps of destructors, and of executors that call every task they are given. -/
def ownKeepingSteps : Permission (FutureState Value Failure) FutureLabel :=
  fun label state => ownFutureSteps label state ∧ keepsTasks label state

/-- `get_try` answers, and the function has been called to get the answer; only what the
antecedent has thrown is passed on without a call. -/
def CarriedOut (body : Nat → Argument Value Failure → Outcome Value Failure)
    (state : FutureState Value Failure) (task : Nat) : Prop :=
  ∃ outcome, state.getTry task = some outcome ∧ Explains body state task outcome

theorem Wanted.alive {task : Nat} (wanted : Wanted state task) : state.alive task := by
  cases wanted with
  | held _ held => exact .inl held
  | detached _ hold => exact .inr (.inl hold)
  | running _ owns => exact .inr (.inr (.inl owns))
  | continued _ other bound continues kept =>
      exact .inr (.inr (.inr ⟨other, bound, continues, kept⟩))

theorem wanted_of_alive (numbered : Numbered state) (destroyed : Destroyed state) (task : Nat)
    (alive : state.alive task) : Wanted state task := by
  induction left : state.count - task using Nat.strongRecOn generalizing task with
  | ind left ih =>
      obtain held | hold | owns | ⟨other, bound, continues, kept⟩ := alive
      · exact .held task held
      · exact .detached task hold
      · exact .running task owns
      · have later := numbered.earlier other task continues
        have owned : state.alive other := by
          by_contra gone
          rw [destroyed other bound gone] at kept
          cases kept
        exact .continued task other bound continues kept
          (ih (state.count - other) (by omega) other owned rfl)

theorem FutureMove.futures {label : FutureLabel} (own : ownFutureSteps label state)
    (move : FutureMove body state label next) (task : Nat) :
    (next.shared task).futures = (state.shared task).futures := by
  cases move with
  | makeReady | attach | copy | drop | detachReady | detach => exact absurd own id
  | startGone | discardGone => rfl
  | _ =>
      simp only [FutureState.modify_shared, FutureState.goTo_shared, FutureState.store_shared]
      grind

theorem SharedMove.hold {task : Nat} {after : Shared Value Failure}
    (change : SharedMove state task after) (hold : (state.shared task).hold = true) :
    after.hold = true ∨ after.ready = true := by
  cases change with
  | proceeded | broken => exact .inr rfl
  | detached => exact .inl rfl
  | _ => exact .inl hold

theorem SharedMove.owns {task : Nat} {after : Shared Value Failure}
    (coherent : (state.shared task).Coherent) (change : SharedMove state task after)
    (owns : (state.shared task).point.owns = true) :
    after.point.owns = true ∨ after.ready = true := by
  unfold Shared.Coherent at coherent
  cases change with
  | same | copied | dropped | attached | detached | skips | destroyed => exact .inl owns
  | proceeded | broken => exact .inr rfl
  | finished here =>
      simp only [here] at coherent
      exact .inr coherent.1
  | emptied here empty => simp [here, empty] at coherent
  | _ => exact .inl rfl

theorem SharedMove.loses {task : Nat} {after : Shared Value Failure}
    (alive : state.alive task) (change : SharedMove state task after)
    (kept : (state.shared task).function = true) :
    after.function = true ∨ after.point = .done := by
  cases change with
  | finished | broken => exact .inr rfl
  | destroyed gone => exact absurd alive gone
  | _ => exact .inl kept

theorem Told.begun {task : Nat} (told : Told state)
    (settling : (state.shared task).settling) : (state.shared task).point ≠ .promised := by
  intro waiting
  obtain ready | locks := settling
  · simp [told.unready waiting] at ready
  · simp [waiting, TaskPoint.locks] at locks

theorem Wanted.step {label : FutureLabel} (holds : FutureInvariant state)
    (own : ownFutureSteps label state) (move : FutureMove body state label next) {task : Nat}
    (wanted : Wanted state task) : (next.shared task).settling ∨ Wanted next task := by
  have after := holds.step move
  induction wanted with
  | held task held => exact .inr (.held task (move.futures own task ▸ held))
  | detached task hold =>
      have bound := holds.numbered.made fun same => by
        rw [same] at hold
        cases hold
      obtain stays | ready := (move.each holds.numbered holds.placed bound).hold hold
      · exact .inr (.detached task stays)
      · exact .inl (.inl ready)
  | running task owns =>
      have bound := holds.numbered.made fun same => by
        rw [same] at owns
        cases owns
      obtain stays | ready :=
        (move.each holds.numbered holds.placed bound).owns (holds.told.coherent task) owns
      · exact .inr (.running task stays)
      · exact .inl (.inl ready)
  | continued task other bound continues kept wanted ih =>
      have within := Nat.lt_of_lt_of_le bound move.count_le
      have continued := (move.antecedent bound).trans continues
      have follows := after.chained other within task continued
      obtain settling | still := ih
      · exact .inl (follows.begun (after.told.begun settling))
      · obtain stays | done :=
          (move.each holds.numbered holds.placed bound).loses wanted.alive kept
        · exact .inr (.continued task other within continued stays still)
        · exact .inl (follows.begun (by simp [done]))

theorem FutureInvariant.stillWanted (holds : FutureInvariant state) {task : Nat}
    (bound : task < state.count) (wanted : Wanted state task)
    {later : FutureState Value Failure}
    (run : Run (futureSystem body) ownFutureSteps state later) :
    FutureInvariant later ∧ task < later.count ∧
      ((later.shared task).settling ∨ Wanted later task) := by
  refine @Run.keeps _ _ _ _ (fun state => FutureInvariant state ∧ task < state.count ∧
    ((state.shared task).settling ∨ Wanted state task)) ?_ state later run
    ⟨holds, bound, .inr wanted⟩
  rintro label before after ⟨holds, bound, still⟩ own taken
  have move := future_move taken
  refine ⟨holds.step move, Nat.lt_of_lt_of_le bound move.count_le, ?_⟩
  obtain settling | wanted := still
  · exact .inl ((move.each holds.numbered holds.placed bound).settling settling)
  · exact wanted.step holds own move

theorem FutureInvariant.neverCalled (holds : FutureInvariant state) {task : Nat}
    {argument : Argument Value Failure} (bound : task < state.count)
    (gone : ¬ state.alive task) {later : FutureState Value Failure}
    (run : Run (futureSystem body) anyStep state later)
    (called : (task, argument) ∈ later.calls) : (task, argument) ∈ state.calls := by
  refine (@Run.keeps _ _ _ _ (fun after => FutureInvariant after ∧ task < after.count ∧
    ¬ after.alive task ∧ ((task, argument) ∈ after.calls → (task, argument) ∈ state.calls))
    ?_ state later run ⟨holds, bound, gone, id⟩).2.2.2 called
  rintro label before after ⟨holds, bound, gone, called⟩ - taken
  have move := future_move taken
  refine ⟨holds.step move, Nat.lt_of_lt_of_le bound move.count_le, fun alive => ?_,
    fun new => ?_⟩
  · exact gone (move.alive holds.numbered holds.placed bound alive)
  · obtain old | here := move.called new
    · exact called old
    · exact absurd (alive_of_owns here rfl) gone

theorem FutureInvariant.answersWanted (holds : FutureInvariant state) {task : Nat}
    (bound : task < state.count) (wanted : Wanted state task)
    {later : FutureState Value Failure}
    (run : Run (futureSystem body) ownFutureSteps state later) (rest : AtRest body later) :
    ∃ outcome, later.getTry task = some outcome := by
  obtain ⟨after, within, still⟩ := holds.stillWanted bound wanted run
  obtain (ready | locks) | wanted := still
  · exact after.answers ready
  · simp [rest.notBreaking after task within] at locks
  · exact after.answers (rest.ready after task within wanted.alive)

theorem carriedOut_of_answer (reached : Reachable (futureSystem body) keepsTasks state)
    {task : Nat} {outcome : Outcome Value Failure} (got : state.getTry task = some outcome) :
    CarriedOut body state task := by
  obtain ⟨holds, -, explained⟩ := Explained.reachable reached
  refine ⟨outcome, got, ?_⟩
  unfold FutureState.getTry at got
  split_ifs at got with ready
  exact explained task (holds.numbered.isReady ready) outcome got

end Schedulers.Futures
