import Schedulers.Futures.FuturesValues
import Schedulers.Support.Progress
import Schedulers.Support.Tally
import Mathlib.Tactic.Common

/-!
# Futures come to rest

The steps of executors and destructors come to an end whatever their order, and leave no
future without its outcome while somebody owns it: a continuation is forgotten neither
between `_then` and the executor nor where a promise is removed.
-/

namespace Schedulers.Futures

open Schedulers.TransitionSystem Schedulers.Tally

set_option autoImplicit false

variable {Value Failure : Type} {body : Nat → Argument Value Failure → Outcome Value Failure}
  {state next : FutureState Value Failure}

def TaskPoint.work : TaskPoint → Nat
  | .promised => 4
  | .entered | .breaking _ => 3
  | .called => 2
  | .proceeding _ => 1
  | .done => 0

/-- A packaged task still to be handed on counts for two steps. -/
def Shared.work (shared : Shared Value Failure) : Nat :=
  shared.point.work + 2 * shared.pending.length + if shared.function then 1 else 0

def FutureState.work (state : FutureState Value Failure) : Nat :=
  state.submitted.length + ∑ task ∈ Finset.range state.count, (state.shared task).work

theorem work_modify {task : Nat} (bound : task < state.count)
    (change : Shared Value Failure → Shared Value Failure) :
    (state.modify task change).work + (state.shared task).work =
      state.work + (change (state.shared task)).work := by
  have moved := sum_update Shared.work state.shared (Finset.mem_range.mpr bound)
    (change (state.shared task))
  unfold FutureState.work
  change state.submitted.length + ∑ other ∈ Finset.range state.count,
    (Function.update state.shared task (change (state.shared task)) other).work + _ = _
  omega

theorem work_submitted (tasks : List Nat) :
    { state with submitted := tasks }.work + state.submitted.length =
      state.work + tasks.length := by
  unfold FutureState.work
  change tasks.length + ∑ task ∈ Finset.range state.count, (state.shared task).work + _ =
    _ + ∑ task ∈ Finset.range state.count, (state.shared task).work + _
  omega

theorem work_modify_less {task : Nat} {change : Shared Value Failure → Shared Value Failure}
    (bound : task < state.count)
    (less : (change (state.shared task)).work < (state.shared task).work) :
    (state.modify task change).work < state.work := by
  have moved := work_modify bound change
  omega

theorem work_goTo_le {task : Nat} {point : TaskPoint} (bound : task < state.count)
    (less : point.work ≤ (state.shared task).point.work)
    (same : point.tasks = (state.shared task).point.tasks) :
    (state.goTo task point).work ≤ state.work := by
  have moved := work_modify bound fun shared => { shared with point := point }
  simp only [Shared.work, Shared.pending, same] at moved
  unfold FutureState.goTo
  omega

theorem work_taken {task : Nat} (given : task ∈ state.submitted) :
    { state with submitted := state.submitted.erase task }.work + 1 = state.work := by
  have counted := @work_submitted _ _ state (state.submitted.erase task)
  have some := List.length_pos_of_mem given
  rw [List.length_erase_of_mem given] at counted
  omega

theorem work_given (task : Nat) :
    { state with submitted := state.submitted ++ [task] }.work = state.work + 1 := by
  have counted := @work_submitted _ _ state (state.submitted ++ [task])
  simp only [List.length_append, List.length_singleton] at counted
  omega

theorem work_calls (calls : List (Nat × Argument Value Failure)) :
    { state with calls := calls }.work = state.work := rfl

theorem FutureMove.works {label : FutureLabel} (holds : FutureInvariant state)
    (own : ownFutureSteps label state) (move : FutureMove body state label next) :
    next.work < state.work := by
  have used : ∀ task, (state.shared task).point ≠ .promised → task < state.count :=
    fun task => holds.numbered.used
  cases move with
  | makeReady | attach | copy | drop | detachReady | detach => exact absurd own id
  | start task given alive =>
      have bound := holds.placed.within none task given
      have waiting := holds.placed.promised none task given
      have taken := work_taken given
      refine Nat.lt_trans (work_modify_less bound ?_) (by omega)
      simp [Shared.work, Shared.pending, TaskPoint.work, TaskPoint.tasks, waiting]
  | startGone task given gone =>
      have taken := work_taken given
      omega
  | call task argument here given =>
      rw [work_calls]
      refine work_modify_less (used task (by simp [here])) ?_
      simp [Shared.work, Shared.pending, TaskPoint.work, TaskPoint.tasks, here]
  | rethrow task error here given =>
      refine work_modify_less (used task (by simp [here])) ?_
      simp [Shared.work, Shared.pending, TaskPoint.work, TaskPoint.tasks, here]
  | callEmpty task here empty =>
      refine work_modify_less (used task (by simp [here])) ?_
      simp [Shared.work, Shared.pending, TaskPoint.work, TaskPoint.tasks, here]
  | proceed task here =>
      refine work_modify_less (used task (by simp [here])) ?_
      simp [Shared.work, Shared.pending, TaskPoint.work, TaskPoint.tasks, here]
  | submit task first tasks here =>
      have moved := work_modify (used task (by simp [here])) fun shared =>
        { shared with point := .proceeding tasks }
      simp only [Shared.work, Shared.pending, TaskPoint.work, TaskPoint.tasks, here,
        List.length_append, List.length_cons] at moved
      refine (@work_given _ _ (state.goTo task (.proceeding tasks)) first).trans_lt ?_
      unfold FutureState.goTo
      omega
  | finish task here =>
      refine work_modify_less (used task (by simp [here])) ?_
      simp [Shared.work, Shared.pending, TaskPoint.work, TaskPoint.tasks, here]
      omega
  | discard task given alive unready =>
      have bound := holds.placed.within none task given
      have waiting := holds.placed.promised none task given
      have taken := work_taken given
      refine Nat.lt_trans (work_modify_less bound ?_) (by omega)
      simp [Shared.work, Shared.pending, TaskPoint.work, TaskPoint.tasks, waiting]
  | discardGone task given gone =>
      have taken := work_taken given
      omega
  | resetTask task first tasks here attached alive unready =>
      have member : first ∈ state.place (some task) := by
        simp [FutureState.place, Shared.pending, attached]
      have waiting := holds.placed.promised (some task) first member
      have apart : first ≠ task := by
        rintro rfl
        simp [waiting] at here
      let shorter := state.modify task fun shared => { shared with thenTasks := tasks }
      let turned := shorter.goTo task (.breaking (some first))
      have one : shorter.work < state.work := by
        refine work_modify_less (used task (by simp [here])) ?_
        simp [Shared.work, Shared.pending, TaskPoint.work, TaskPoint.tasks, here, attached]
      have two : turned.work ≤ shorter.work := by
        refine work_goTo_le (used task (by simp [here])) ?_ ?_
        · simp [shorter, FutureState.modify_shared, here, TaskPoint.work]
        · simp [shorter, FutureState.modify_shared, here, TaskPoint.tasks]
      have three : (turned.goTo first (.breaking none)).work ≤ turned.work := by
        refine work_goTo_le (holds.placed.within _ first member) ?_ ?_
        · simp [turned, shorter, FutureState.goTo_shared, FutureState.modify_shared, apart,
            waiting, TaskPoint.work]
        · simp [turned, shorter, FutureState.goTo_shared, FutureState.modify_shared, apart,
            waiting, TaskPoint.tasks]
      exact Nat.lt_of_le_of_lt (three.trans two) one
  | resetGone task first tasks here attached gone =>
      refine work_modify_less (used task (by simp [here])) ?_
      simp [Shared.work, Shared.pending, TaskPoint.work, TaskPoint.tasks, here, attached]
  | breakPromise task here empty alone =>
      refine work_modify_less (used task (by simp [here])) ?_
      simp [Shared.work, Shared.pending, TaskPoint.work, TaskPoint.tasks, here]
      omega
  | breakReturn task future here empty continues outer =>
      have apart : future ≠ task := Nat.ne_of_lt (holds.numbered.earlier task future continues)
      refine Nat.lt_of_le_of_lt (work_goTo_le (used future (by simp [outer])) ?_ ?_)
        (work_modify_less (used task (by simp [here])) ?_)
      · simp [FutureState.modify_shared, apart, outer, TaskPoint.work]
      · simp [FutureState.modify_shared, apart, outer, TaskPoint.tasks]
      · simp [Shared.work, Shared.pending, TaskPoint.work, TaskPoint.tasks, here]
        omega
  | destroy task gone kept =>
      refine work_modify_less (holds.numbered.keeps kept) ?_
      simp [Shared.work, Shared.pending, kept]

theorem future_work_lowers : Lowers (futureSystem body) ownFutureSteps
    (fun state amount => FutureInvariant state ∧ state.work = amount) := by
  rintro label state next amount ⟨holds, rfl⟩ own taken
  have move := future_move taken
  exact ⟨next.work, move.works holds own, holds.step move, rfl⟩

/-- No executor, no thread in `operator()` and no destructor can take a step. -/
abbrev AtRest (body : Nat → Argument Value Failure → Outcome Value Failure)
    (state : FutureState Value Failure) : Prop :=
  Settled (futureSystem body) ownFutureSteps state

theorem AtRest.submitted (rest : AtRest body state) : state.submitted = [] := by
  cases given : state.submitted with
  | nil => rfl
  | cons task tasks =>
      have stuck : stepStart task state = none := rest (.start task) trivial
      have member : task ∈ state.submitted := by simp [given]
      unfold stepStart at stuck
      rw [if_pos member] at stuck
      split at stuck <;> cases stuck

theorem FutureInvariant.inputSet (holds : FutureInvariant state) {task : Nat}
    (here : (state.shared task).point = .entered) : state.input task ≠ none := by
  intro missing
  have bound : task < state.count := holds.numbered.used (by simp [here])
  unfold FutureState.input at missing
  split at missing
  · cases missing
  · rename_i future continues
    have ready := (holds.chained task bound future continues).running (by simp [here])
    have coherent := holds.told.coherent future
    have unset := Option.map_eq_none_iff.mp missing
    unfold Shared.Coherent at coherent
    split at coherent <;> simp [ready, unset] at coherent

theorem AtRest.notRunning (holds : FutureInvariant state) (rest : AtRest body state)
    (task : Nat) : (state.shared task).point.owns = true →
      (state.shared task).point.locks = true := by
  intro owns
  cases here : (state.shared task).point with
  | promised | done => simp [here, TaskPoint.owns] at owns
  | entered =>
      have stuck : stepCall body task state = none := rest (.call task) trivial
      unfold stepCall at stuck
      rw [here] at stuck
      simp only at stuck
      split at stuck
      · split at stuck
        · cases stuck
        · cases stuck
        · exact absurd ‹_› (holds.inputSet here)
      · cases stuck
  | called =>
      have stuck : stepProceed task state = none := rest (.proceed task) trivial
      simp [stepProceed, here] at stuck
  | proceeding tasks =>
      cases tasks with
      | nil =>
          have stuck : stepFinish task state = none := rest (.finish task) trivial
          simp [stepFinish, here] at stuck
      | cons first tasks =>
          have stuck : stepSubmit task state = none := rest (.submit task) trivial
          simp [stepSubmit, here] at stuck
  | breaking first => rfl

/-- The innermost promise that is being removed is removed. -/
theorem AtRest.notBreaking (holds : FutureInvariant state) (rest : AtRest body state)
    (task : Nat) (bound : task < state.count) : (state.shared task).point.locks = false := by
  induction left : state.count - task using Nat.strongRecOn generalizing task with
  | ind left ih =>
      cases here : (state.shared task).point with
      | breaking first =>
          cases first with
          | some first =>
              obtain ⟨within, continues, locks⟩ := holds.nested task first here
              have later := holds.numbered.earlier first task continues
              have free := ih (state.count - first) (by omega) first within rfl
              simp [free] at locks
          | none =>
              cases attached : (state.shared task).thenTasks with
              | nil =>
                  have stuck : stepBreakPromise task state = none :=
                    rest (.breakPromise task) trivial
                  unfold stepBreakPromise at stuck
                  rw [here, attached] at stuck
                  simp only at stuck
                  split at stuck
                  · cases stuck
                  · split at stuck <;> cases stuck
              | cons first tasks =>
                  have stuck : stepResetTask task state = none := rest (.resetTask task) trivial
                  unfold stepResetTask at stuck
                  rw [here, attached] at stuck
                  simp only at stuck
                  split at stuck <;> cases stuck
      | _ => rfl

theorem AtRest.handedOn (holds : FutureInvariant state) (rest : AtRest body state)
    {future : Nat} (ready : (state.shared future).ready = true) :
    state.place (some future) = [] := by
  have coherent := holds.told.coherent future
  have running := rest.notRunning holds future
  unfold Shared.Coherent at coherent
  change (state.shared future).pending = []
  cases here : (state.shared future).point with
  | done => simp_all [Shared.pending, TaskPoint.tasks]
  | proceeding tasks => simp [here, TaskPoint.owns, TaskPoint.locks] at running
  | _ => simp [here, ready] at coherent

theorem AtRest.ready (holds : FutureInvariant state) (rest : AtRest body state) (task : Nat)
    (bound : task < state.count) (alive : state.alive task) :
    (state.shared task).ready = true := by
  induction task using Nat.strongRecOn with
  | ind task ih =>
      have coherent := holds.told.coherent task
      have running := rest.notRunning holds task
      have free := rest.notBreaking holds task bound
      unfold Shared.Coherent at coherent
      cases here : (state.shared task).point with
      | promised =>
          obtain ⟨spot, member⟩ := holds.located task bound alive here
          cases spot with
          | none =>
              have empty : state.place none = [] := rest.submitted
              simp [empty] at member
          | some future =>
              have continues := holds.placed.belongs future task member
              have earlier := holds.numbered.earlier task future continues
              have kept := holds.told.kept task bound alive here
              have ready := ih future earlier (Nat.lt_trans earlier bound)
                (.inr (.inr (.inr ⟨task, bound, continues, kept⟩)))
              simp [rest.handedOn holds ready] at member
      | done =>
          simp only [here] at coherent
          exact coherent.1
      | breaking first => simp [here, TaskPoint.locks] at free
      | _ => simp [here, TaskPoint.owns, TaskPoint.locks] at running

theorem FutureInvariant.answers (holds : FutureInvariant state) {future : Nat}
    (ready : (state.shared future).ready = true) :
    ∃ outcome, state.getTry future = some outcome := by
  have coherent := holds.told.coherent future
  unfold FutureState.getTry
  rw [if_pos ready]
  unfold Shared.Coherent at coherent
  split at coherent <;> simp_all [Option.isSome_iff_exists]

/-- However executors and destructors interleave, they come to an end, and then every
future that somebody owns has its outcome. -/
theorem futures_come_to_rest (state : FutureState Value Failure)
    (reached : Reachable (futureSystem body) anyStep state) :
    (∀ steps later, CountedRun (futureSystem body) ownFutureSteps steps state later →
      steps ≤ state.work) ∧
    ∀ later, Run (futureSystem body) ownFutureSteps state later → AtRest body later →
      ∀ future < later.count, later.alive future →
        ∃ outcome, later.getTry future = some outcome := by
  constructor
  · intro steps later counted
    exact counted.bounded future_work_lowers ⟨.reachable reached, rfl⟩
  · intro later run rest future bound alive
    have holds : FutureInvariant later := .reachable (reached.extend run)
    exact holds.answers (rest.ready holds future bound alive)

theorem futures_come_to_rest_attached :
    ∃ state : FutureState Nat Unit, Reachable (futureSystem addThree) anyStep state ∧
      state.work = 13 ∧
      (∀ steps later, CountedRun (futureSystem addThree) ownFutureSteps steps state later →
        steps ≤ 13) ∧
      ∀ later, Run (futureSystem addThree) ownFutureSteps state later →
        AtRest addThree later → ∀ future < later.count, later.alive future →
          ∃ outcome, later.getTry future = some outcome := by
  obtain ⟨state, reached, left⟩ : ∃ state : FutureState Nat Unit,
      Reachable (futureSystem addThree) anyStep state ∧ state.work = 13 :=
    schedule_reaches [.make .async, .make (.recoverOf 0), .drop 0] rfl (by decide)
  obtain ⟨bounded, settled⟩ := futures_come_to_rest state reached
  exact ⟨state, reached, left, left ▸ bounded, settled⟩

end Schedulers.Futures
