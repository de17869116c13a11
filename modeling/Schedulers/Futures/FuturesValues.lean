import Schedulers.Futures.FuturesOwners
import Mathlib.Tactic.Common

/-!
# The values of futures

Whatever the order in which clients and executors take their steps, each function is called
at most once, with what its antecedent has become for good. Where executors call every task they
are given, the outcome of a future is that of the expression that made it.
-/

namespace Schedulers.Futures

open Schedulers.TransitionSystem

set_option autoImplicit false

variable {Value Failure : Type} {body : Nat → Argument Value Failure → Outcome Value Failure}
  {state next : FutureState Value Failure}

/-- The outcome of the expression that has made the future, read without executors. -/
inductive Denotes (body : Nat → Argument Value Failure → Outcome Value Failure)
    (origin : Nat → Origin) : Nat → Outcome Value Failure → Prop where
  | async (task : Nat) (here : (origin task).antecedent = none) :
      Denotes body origin task (body task .nothing)
  | continued (task future : Nat) (outcome : Outcome Value Failure)
      (continues : (origin task).antecedent = some future)
      (before : Denotes body origin future outcome) :
      Denotes body origin task (((origin task).takes outcome).bind (body task))

theorem Denotes.unique {origin : Nat → Origin} {task : Nat} {one other : Outcome Value Failure}
    (first : Denotes body origin task one) (second : Denotes body origin task other) :
    other = one := by
  induction first generalizing other with
  | async task here =>
      cases second with
      | async => rfl
      | continued _ _ _ continues => cases here.symm.trans continues
  | continued task future outcome continues before ih =>
      cases second with
      | async _ here => cases here.symm.trans continues
      | continued _ _ _ continues' before' =>
          cases continues.symm.trans continues'
          rw [ih before']

def FutureState.origin (state : FutureState Value Failure) (task : Nat) : Origin :=
  (state.shared task).origin

theorem SharedMove.outcome {task : Nat} {after : Shared Value Failure}
    {outcome : Outcome Value Failure} (coherent : (state.shared task).Coherent)
    (set : (state.shared task).outcome = some outcome) (change : SharedMove state task after) :
    after.outcome = some outcome := by
  unfold Shared.Coherent at coherent
  cases change with
  | stored _ here => simp [here, set] at coherent
  | broken here => simp [here, set] at coherent
  | _ => exact set

theorem FutureMove.input {label : FutureLabel} (holds : FutureInvariant state)
    (move : FutureMove body state label next) {task : Nat}
    {given : Except (FutureError Failure) (Argument Value Failure)} (bound : task < state.count)
    (found : state.input task = some given) : next.input task = some given := by
  unfold FutureState.input at found ⊢
  rw [move.antecedent bound, move.origin bound]
  cases continues : state.antecedent task with
  | none => simpa [continues] using found
  | some future =>
      simp only [continues] at found ⊢
      obtain ⟨outcome, became, rfl⟩ := Option.map_eq_some_iff.mp found
      have before := Nat.lt_trans (holds.numbered.earlier task future continues) bound
      have change := move.each holds.numbered holds.placed before
      rw [change.outcome (holds.told.coherent future) became]
      rfl

theorem FutureMove.stillCalled {label : FutureLabel} (move : FutureMove body state label next)
    {call : Nat × Argument Value Failure} (called : call ∈ state.calls) :
    call ∈ next.calls := by
  cases move with
  | call => exact List.mem_append_left _ called
  | _ => exact called

/-- The outcome comes from the call of the function, or is what the antecedent has thrown. -/
def Explains (body : Nat → Argument Value Failure → Outcome Value Failure)
    (state : FutureState Value Failure) (task : Nat) (outcome : Outcome Value Failure) : Prop :=
  ∃ given, state.input task = some given ∧ outcome = given.bind (body task) ∧
    ∀ argument, given = .ok argument → (task, argument) ∈ state.calls

theorem FutureMove.explains {label : FutureLabel} (holds : FutureInvariant state)
    (move : FutureMove body state label next) {task : Nat} {outcome : Outcome Value Failure}
    (bound : task < state.count) (explained : Explains body state task outcome) :
    Explains body next task outcome := by
  obtain ⟨given, found, made, called⟩ := explained
  exact ⟨given, move.input holds bound found, made,
    fun argument ok => move.stillCalled (called argument ok)⟩

theorem FutureMove.outcome {label : FutureLabel} (holds : FutureInvariant state)
    (move : FutureMove body state label next) {task : Nat} {outcome : Outcome Value Failure}
    (bound : task < state.count) (set : (next.shared task).outcome = some outcome) :
    (state.shared task).outcome = some outcome ∨ Explains body next task outcome ∨
      (state.shared task).point.locks = true := by
  have old : task ≠ state.count := Nat.ne_of_lt bound
  have whole := move
  cases move with
  | startGone | discardGone | detachReady => exact .inl set
  | call other argument here given =>
      simp only [FutureState.store_shared] at set
      split at set
      · subst task
        refine .inr (.inl ⟨_, whole.input holds bound given, (Option.some.inj set).symm, ?_⟩)
        rintro _ ⟨⟩
        exact List.mem_append_right _ (List.mem_singleton_self _)
      · exact .inl set
  | rethrow other error here given =>
      simp only [FutureState.store_shared] at set
      split at set
      · subst task
        refine .inr (.inl ⟨_, whole.input holds bound given, (Option.some.inj set).symm, ?_⟩)
        rintro _ ⟨⟩
      · exact .inl set
  | _ =>
      simp only [FutureState.modify_shared, FutureState.goTo_shared,
        FutureState.create_shared] at set
      grind [TaskPoint.locks]

/-- No outcome is a broken promise. -/
def Explained (body : Nat → Argument Value Failure → Outcome Value Failure)
    (state : FutureState Value Failure) : Prop :=
  ∀ task < state.count, ∀ outcome, (state.shared task).outcome = some outcome →
    Explains body state task outcome

theorem Explained.step {label : FutureLabel} (holds : FutureInvariant state)
    (explained : Explained body state)
    (unbroken : ∀ task, (state.shared task).point.locks = false)
    (move : FutureMove body state label next) : Explained body next := by
  intro task bound outcome set
  rcases Nat.lt_or_ge task state.count with before | old
  · obtain kept | new | locks := move.outcome holds before set
    · exact move.explains holds before (explained task before outcome kept)
    · exact new
    · exact absurd locks (by simp [unbroken task])
  · obtain ⟨origin, made⟩ := move.made holds.numbered old bound
    rw [made] at set
    cases set

/-- What is explained down to the calls of `async` is the meaning of the expression. -/
theorem Explained.denotes (numbered : Numbered state) (explained : Explained body state)
    (task : Nat) (bound : task < state.count) (outcome : Outcome Value Failure)
    (set : (state.shared task).outcome = some outcome) :
    Denotes body state.origin task outcome := by
  induction task using Nat.strongRecOn generalizing outcome with
  | ind task ih =>
      obtain ⟨given, found, rfl, -⟩ := explained task bound outcome set
      unfold FutureState.input at found
      split at found
      · rename_i here
        cases found
        exact .async task here
      · rename_i future continues
        obtain ⟨before, became, rfl⟩ := Option.map_eq_some_iff.mp found
        have earlier := numbered.earlier task future continues
        exact .continued task future before continues
          (ih future earlier (Nat.lt_trans earlier bound) before became)

theorem FutureMove.unbroken {label : FutureLabel} (kept : keepsTasks label state)
    (unbroken : ∀ task, (state.shared task).point.locks = false)
    (move : FutureMove body state label next) (task : Nat) :
    (next.shared task).point.locks = false := by
  have old := unbroken task
  have never : ∀ other, (state.shared other).point ≠ .breaking none := fun other here => by
    simpa [here, TaskPoint.locks] using unbroken other
  cases move with
  | startGone | detachReady => exact old
  | discard | discardGone => exact absurd kept id
  | resetTask other _ _ here => exact absurd here (never other)
  | resetGone other _ _ here => exact absurd here (never other)
  | breakPromise other here => exact absurd here (never other)
  | breakReturn other _ here => exact absurd here (never other)
  | _ =>
      simp only [FutureState.modify_shared, FutureState.goTo_shared, FutureState.store_shared,
        FutureState.create_shared]
      grind [Shared.package, TaskPoint.locks]

theorem FutureMove.getTry {label : FutureLabel} (holds : FutureInvariant state)
    (move : FutureMove body state label next) {future : Nat} {outcome : Outcome Value Failure}
    (got : state.getTry future = some outcome) : next.getTry future = some outcome := by
  unfold FutureState.getTry at got ⊢
  split_ifs at got with ready
  have change := move.each holds.numbered holds.placed (holds.numbered.isReady ready)
  rw [if_pos (change.ready ready)]
  exact change.outcome (holds.told.coherent future) got

/-- The function of a continuation has been called with what its antecedent has become. -/
def GivenTo (state : FutureState Value Failure) (task : Nat)
    (argument : Argument Value Failure) : Prop :=
  match state.antecedent task with
  | none => argument = .nothing
  | some future =>
      ∃ outcome, state.getTry future = some outcome ∧
        (state.origin task).takes outcome = .ok argument

def TaskPoint.ran : TaskPoint → Bool
  | .called | .proceeding _ | .done => true
  | _ => false

structure Called (state : FutureState Value Failure) : Prop where
  once : (state.calls.map Prod.fst).Nodup
  begun : ∀ call ∈ state.calls, call.1 < state.count ∧
    (state.shared call.1).point.ran = true
  given : ∀ call ∈ state.calls, GivenTo state call.1 call.2

theorem FutureMove.called {label : FutureLabel} (move : FutureMove body state label next)
    {task : Nat} {argument : Argument Value Failure} (called : (task, argument) ∈ next.calls) :
    (task, argument) ∈ state.calls ∨ (state.shared task).point = .entered := by
  cases move with
  | call other _ here _ =>
      obtain before | new := List.mem_append.mp called
      · exact .inl before
      · obtain ⟨rfl, -⟩ : task = other ∧ _ := by simpa using new
        exact .inr here
  | _ => exact .inl called

theorem SharedMove.ran {task : Nat} {after : Shared Value Failure}
    (change : SharedMove state task after) (ran : (state.shared task).point.ran = true) :
    after.point.ran = true := by
  cases change with
  | same | destroyed => exact ran
  | _ => grind [TaskPoint.ran]

theorem FutureMove.givenTo {label : FutureLabel} (holds : FutureInvariant state)
    (move : FutureMove body state label next) {task : Nat} {argument : Argument Value Failure}
    (bound : task < state.count) (given : GivenTo state task argument) :
    GivenTo next task argument := by
  unfold GivenTo at given ⊢
  rw [move.antecedent bound]
  split
  · rename_i none
    simpa [none] using given
  · rename_i future continues
    simp only [continues] at given
    obtain ⟨outcome, got, takes⟩ := given
    refine ⟨outcome, move.getTry holds got, ?_⟩
    unfold FutureState.origin at takes ⊢
    rwa [move.origin bound]

theorem FutureInvariant.input (holds : FutureInvariant state) {task : Nat}
    {argument : Argument Value Failure} (here : (state.shared task).point = .entered)
    (given : state.input task = some (.ok argument)) : GivenTo state task argument := by
  have bound : task < state.count := holds.numbered.used (by simp [here])
  unfold FutureState.input at given
  unfold GivenTo
  split
  · rename_i none
    simpa [none] using given.symm
  · rename_i future continues
    simp only [continues] at given
    obtain ⟨outcome, became, takes⟩ := Option.map_eq_some_iff.mp given
    have ready := (holds.chained task bound future continues).running (by simp [here])
    exact ⟨outcome, by simp [FutureState.getTry, ready, became], takes⟩

theorem Called.step {label : FutureLabel} (holds : FutureInvariant state)
    (called : Called state) (move : FutureMove body state label next) : Called next := by
  obtain ⟨once, begun, given⟩ := called
  have before : ∀ call ∈ state.calls, (call.1 < next.count ∧
      (next.shared call.1).point.ran = true) ∧ GivenTo next call.1 call.2 := by
    intro call member
    obtain ⟨bound, ran⟩ := begun call member
    exact ⟨⟨Nat.lt_of_lt_of_le bound move.count_le,
      (move.each holds.numbered holds.placed bound).ran ran⟩,
      move.givenTo holds bound (given call member)⟩
  have whole := move
  cases move with
  | call task argument here found =>
      have bound : task < state.count := holds.numbered.used (by simp [here])
      have apart : ∀ call ∈ state.calls, call.1 ≠ task := by
        rintro call member rfl
        have ran := (begun call member).2
        simp [here, TaskPoint.ran] at ran
      have new : GivenTo _ task argument := whole.givenTo holds bound (holds.input here found)
      refine ⟨?_, fun call member => ?_, fun call member => ?_⟩
      · have last := fun other argument member same => apart (other, argument) member same
        simpa [List.nodup_append] using ⟨once, last⟩
      · obtain old | last := List.mem_append.mp member
        · exact (before call old).1
        · obtain rfl : call = (task, argument) := by simpa using last
          exact ⟨bound, by simp [FutureState.store_shared, TaskPoint.ran]⟩
      · obtain old | last := List.mem_append.mp member
        · exact (before call old).2
        · obtain rfl : call = (task, argument) := by simpa using last
          exact new
  | _ => exact ⟨once, fun call member => (before call member).1,
      fun call member => (before call member).2⟩

theorem Explained.reachable (reached : Reachable (futureSystem body) keepsTasks state) :
    FutureInvariant state ∧ (∀ task, (state.shared task).point.locks = false) ∧
      Explained body state := by
  refine @Reachable.keeps _ _ _ _ (fun state => FutureInvariant state ∧
    (∀ task, (state.shared task).point.locks = false) ∧ Explained body state)
    (fun start begins => ?_) (fun label before after holds allowed taken => ?_) state reached
  · cases begins
    exact ⟨.start, fun _ => rfl, fun _ bound => absurd bound (Nat.not_lt_zero _)⟩
  · obtain ⟨holds, unbroken, explained⟩ := holds
    have move := future_move taken
    exact ⟨holds.step move, move.unbroken allowed unbroken,
      explained.step holds unbroken move⟩

/-- Where executors call every task they are given, `get_try` answers with the meaning of
the future, whatever the order of the steps. -/
theorem future_values (state : FutureState Value Failure)
    (reached : Reachable (futureSystem body) keepsTasks state) (future : Nat)
    (outcome : Outcome Value Failure) (got : state.getTry future = some outcome)
    (other : Outcome Value Failure) :
    Denotes body state.origin future other ↔ other = outcome := by
  obtain ⟨holds, -, explained⟩ := Explained.reachable reached
  unfold FutureState.getTry at got
  split_ifs at got with ready
  have bound := holds.numbered.isReady ready
  have denotes := explained.denotes holds.numbered future bound outcome got
  constructor
  · exact fun another => denotes.unique another
  · rintro rfl
    exact denotes

/-- `async` gives two, and a continuation adds three to what it gets. -/
def addThree : Nat → Argument Nat Unit → Outcome Nat Unit
  | _, .nothing => .ok 2
  | _, .value value => .ok (value + 3)
  | _, .future outcome => outcome

theorem future_values_added :
    ∃ state : FutureState Nat Unit, Reachable (futureSystem addThree) keepsTasks state ∧
      (Denotes addThree state.origin 1 (.ok 5) ↔ (Except.ok 5 : Outcome Nat Unit) = .ok 5) := by
  obtain ⟨state, reached, got⟩ : ∃ state : FutureState Nat Unit,
      Reachable (futureSystem addThree) keepsTasks state ∧ state.getTry 1 = some (.ok 5) :=
    schedule_reaches [.make .async, .start 0, .make (.thenOf 0), .call 0, .proceed 0, .submit 0,
      .start 1, .call 1, .drop 0, .proceed 1] rfl (by decide)
  exact ⟨state, reached, future_values state reached 1 (.ok 5) got (.ok 5)⟩

theorem Called.reachable (reached : Reachable (futureSystem body) anyStep state) :
    FutureInvariant state ∧ Called state := by
  refine @Reachable.keeps _ _ _ _ (fun state => FutureInvariant state ∧ Called state)
    (fun start begins => ?_) (fun label before after holds _ taken => ?_) state reached
  · cases begins
    exact ⟨.start, List.nodup_nil, fun _ member => absurd member List.not_mem_nil,
      fun _ member => absurd member List.not_mem_nil⟩
  · have move := future_move taken
    exact ⟨holds.1.step move, holds.2.step holds.1 move⟩

/-- No function is called twice; each is called with what its antecedent has become, and
what `get_try` has answered once it answers ever after. -/
theorem functions_called_once (state : FutureState Value Failure)
    (reached : Reachable (futureSystem body) anyStep state) :
    (state.calls.map Prod.fst).Nodup ∧
      (∀ call ∈ state.calls, GivenTo state call.1 call.2) ∧
      ∀ later, Run (futureSystem body) anyStep state later →
        ∀ future outcome, state.getTry future = some outcome →
          later.getTry future = some outcome := by
  obtain ⟨holds, once, -, given⟩ := Called.reachable reached
  refine ⟨once, given, fun later run future outcome got => ?_⟩
  refine (@Run.keeps _ _ _ _ (fun state => FutureInvariant state ∧
    state.getTry future = some outcome) (fun label before after both _ taken => ?_)
    state later run ⟨holds, got⟩).2
  have move := future_move taken
  exact ⟨both.1.step move, move.getTry both.1 both.2⟩

theorem functions_called_once_added :
    ∃ state : FutureState Nat Unit, state.calls.length = 2 ∧
      (state.calls.map Prod.fst).Nodup ∧
      ∀ call ∈ state.calls, GivenTo state call.1 call.2 := by
  obtain ⟨state, reached, both⟩ : ∃ state : FutureState Nat Unit,
      Reachable (futureSystem addThree) anyStep state ∧ state.calls.length = 2 :=
    schedule_reaches [.make .async, .start 0, .make (.thenOf 0), .call 0, .proceed 0, .submit 0,
      .start 1, .call 1] rfl (by decide)
  obtain ⟨once, given, -⟩ := functions_called_once state reached
  exact ⟨state, both, once, given⟩

end Schedulers.Futures
