import Schedulers.Futures.FuturesModel
import Mathlib.Data.List.Count
import Mathlib.Tactic.Common

/-!
# The steps of futures

What each step can do, who can lose its owners, and what every run keeps: where the
packaged task of each object is, and what the object has been told by then.
-/

namespace Schedulers.Futures

open Schedulers.TransitionSystem

set_option autoImplicit false

variable {Value Failure : Type} {body : Nat → Argument Value Failure → Outcome Value Failure}
  {state next : FutureState Value Failure}

namespace FutureState

@[simp] theorem modify_count (task : Nat) (change : Shared Value Failure → Shared Value Failure) :
    (state.modify task change).count = state.count := rfl

@[simp] theorem modify_submitted (task : Nat)
    (change : Shared Value Failure → Shared Value Failure) :
    (state.modify task change).submitted = state.submitted := rfl

@[simp] theorem modify_calls (task : Nat) (change : Shared Value Failure → Shared Value Failure) :
    (state.modify task change).calls = state.calls := rfl

theorem modify_shared (task : Nat) (change : Shared Value Failure → Shared Value Failure)
    (other : Nat) :
    (state.modify task change).shared other =
      if other = task then change (state.shared other) else state.shared other := by
  by_cases same : other = task
  · subst same
    simp [modify]
  · simp [modify, same]

@[simp] theorem goTo_count (task : Nat) (point : TaskPoint) :
    (state.goTo task point).count = state.count := rfl

@[simp] theorem goTo_submitted (task : Nat) (point : TaskPoint) :
    (state.goTo task point).submitted = state.submitted := rfl

@[simp] theorem goTo_calls (task : Nat) (point : TaskPoint) :
    (state.goTo task point).calls = state.calls := rfl

theorem goTo_shared (task : Nat) (point : TaskPoint) (other : Nat) :
    (state.goTo task point).shared other =
      if other = task then { state.shared other with point := point }
      else state.shared other :=
  modify_shared task _ other

theorem store_shared (task : Nat) (outcome : Outcome Value Failure) (other : Nat) :
    (state.store task outcome).shared other =
      if other = task then
        { state.shared other with outcome := some outcome, point := .called }
      else state.shared other :=
  modify_shared task _ other

@[simp] theorem store_count (task : Nat) (outcome : Outcome Value Failure) :
    (state.store task outcome).count = state.count := rfl

@[simp] theorem store_submitted (task : Nat) (outcome : Outcome Value Failure) :
    (state.store task outcome).submitted = state.submitted := rfl

@[simp] theorem store_calls (task : Nat) (outcome : Outcome Value Failure) :
    (state.store task outcome).calls = state.calls := rfl

@[simp] theorem create_count (origin : Origin) :
    (state.create origin).count = state.count + 1 := rfl

@[simp] theorem create_submitted (origin : Origin) :
    (state.create origin).submitted = state.submitted := rfl

@[simp] theorem create_calls (origin : Origin) : (state.create origin).calls = state.calls := rfl

theorem create_shared (origin : Origin) (other : Nat) :
    (state.create origin).shared other =
      if other = state.count then Shared.package origin else state.shared other := by
  by_cases same : other = state.count
  · subst same
    simp [create]
  · simp [create, same]

end FutureState

inductive FutureMove (body : Nat → Argument Value Failure → Outcome Value Failure)
    (state : FutureState Value Failure) : FutureLabel → FutureState Value Failure → Prop where
  | makeReady (origin : Origin)
      (held : ∀ future, origin.antecedent = some future →
        0 < (state.shared future).futures ∧ (state.shared future).ready = true) :
      FutureMove body state (.make origin)
        { state.create origin with submitted := state.submitted ++ [state.count] }
  | attach (origin : Origin) (future : Nat) (continues : origin.antecedent = some future)
      (held : 0 < (state.shared future).futures)
      (unlocked : (state.shared future).point.locks = false)
      (unready : (state.shared future).ready = false) :
      FutureMove body state (.make origin)
        ((state.create origin).modify future fun shared =>
          { shared with thenTasks := shared.thenTasks ++ [state.count] })
  | copy (future : Nat) (held : state.holdsFuture future) :
      FutureMove body state (.copy future)
        (state.modify future fun shared => { shared with futures := shared.futures + 1 })
  | drop (future : Nat) (held : 0 < (state.shared future).futures) :
      FutureMove body state (.drop future)
        (state.modify future fun shared => { shared with futures := shared.futures - 1 })
  | detachReady (future : Nat) : FutureMove body state (.detach future) state
  | detach (future : Nat) (held : 0 < (state.shared future).futures)
      (unready : (state.shared future).ready = false) :
      FutureMove body state (.detach future)
        (state.modify future fun shared => { shared with hold := true })
  | start (task : Nat) (given : task ∈ state.submitted) (alive : state.alive task) :
      FutureMove body state (.start task)
        ({ state with submitted := state.submitted.erase task }.goTo task .entered)
  | startGone (task : Nat) (given : task ∈ state.submitted) (gone : ¬ state.alive task) :
      FutureMove body state (.start task)
        { state with submitted := state.submitted.erase task }
  | call (task : Nat) (argument : Argument Value Failure)
      (here : (state.shared task).point = .entered)
      (given : state.input task = some (.ok argument)) :
      FutureMove body state (.call task)
        { state.store task (body task argument) with
          calls := state.calls ++ [(task, argument)] }
  | rethrow (task : Nat) (error : FutureError Failure)
      (here : (state.shared task).point = .entered)
      (given : state.input task = some (.error error)) :
      FutureMove body state (.call task)
        (state.store task (.error error))
  | callEmpty (task : Nat) (here : (state.shared task).point = .entered)
      (empty : (state.shared task).function = false) :
      FutureMove body state (.call task) (state.goTo task .done)
  | proceed (task : Nat) (here : (state.shared task).point = .called) :
      FutureMove body state (.proceed task)
        (state.modify task fun shared =>
          { shared with
            ready := true
            thenTasks := []
            hold := false
            point := .proceeding shared.thenTasks })
  | submit (task first : Nat) (tasks : List Nat)
      (here : (state.shared task).point = .proceeding (first :: tasks)) :
      FutureMove body state (.submit task)
        { state.goTo task (.proceeding tasks) with submitted := state.submitted ++ [first] }
  | finish (task : Nat) (here : (state.shared task).point = .proceeding []) :
      FutureMove body state (.finish task)
        (state.modify task fun shared => { shared with function := false, point := .done })
  | discard (task : Nat) (given : task ∈ state.submitted) (alive : state.alive task)
      (unready : (state.shared task).ready = false) :
      FutureMove body state (.discard task)
        ({ state with submitted := state.submitted.erase task }.goTo task (.breaking none))
  | discardGone (task : Nat) (given : task ∈ state.submitted)
      (gone : ¬ (state.alive task ∧ (state.shared task).ready = false)) :
      FutureMove body state (.discard task)
        { state with submitted := state.submitted.erase task }
  | resetTask (task first : Nat) (tasks : List Nat)
      (here : (state.shared task).point = .breaking none)
      (attached : (state.shared task).thenTasks = first :: tasks) (alive : state.alive first)
      (unready : (state.shared first).ready = false) :
      FutureMove body state (.resetTask task)
        (((state.modify task fun shared => { shared with thenTasks := tasks }).goTo task
          (.breaking (some first))).goTo first (.breaking none))
  | resetGone (task first : Nat) (tasks : List Nat)
      (here : (state.shared task).point = .breaking none)
      (attached : (state.shared task).thenTasks = first :: tasks)
      (gone : ¬ (state.alive first ∧ (state.shared first).ready = false)) :
      FutureMove body state (.resetTask task)
        (state.modify task fun shared => { shared with thenTasks := tasks })
  | breakPromise (task : Nat) (here : (state.shared task).point = .breaking none)
      (empty : (state.shared task).thenTasks = [])
      (alone : ∀ future, state.antecedent task = some future →
        (state.shared future).point ≠ .breaking (some task)) :
      FutureMove body state (.breakPromise task)
        (state.modify task fun shared =>
          { shared with
            function := false
            outcome := some (.error .brokenPromise)
            ready := true
            hold := false
            point := .done })
  | breakReturn (task future : Nat) (here : (state.shared task).point = .breaking none)
      (empty : (state.shared task).thenTasks = [])
      (continues : state.antecedent task = some future)
      (outer : (state.shared future).point = .breaking (some task)) :
      FutureMove body state (.breakPromise task)
        ((state.modify task fun shared =>
          { shared with
            function := false
            outcome := some (.error .brokenPromise)
            ready := true
            hold := false
            point := .done }).goTo future (.breaking none))
  | destroy (task : Nat) (gone : ¬ state.alive task)
      (kept : (state.shared task).function = true) :
      FutureMove body state (.destroy task)
        (state.modify task fun shared => { shared with function := false })

/-- Whatever is taken is one of these moves, with everything the code has checked. -/
theorem future_move {label : FutureLabel} (taken : futureStep body label state = some next) :
    FutureMove body state label next := by
  cases label with
  | make origin =>
      change stepMake origin state = some next at taken
      unfold stepMake at taken
      split at taken
      · rename_i none
        cases taken
        exact .makeReady origin (by simp [none])
      · rename_i future continues
        split_ifs at taken with guard ready
        · cases taken
          refine .makeReady origin fun other found => ?_
          cases continues.symm.trans found
          exact ⟨guard.1, ready⟩
        · cases taken
          exact .attach origin future continues guard.1 guard.2 (by simpa using ready)
  | copy future =>
      change stepCopy future state = some next at taken
      unfold stepCopy at taken
      split_ifs at taken with held
      cases taken
      exact .copy future held
  | drop future =>
      change stepDrop future state = some next at taken
      unfold stepDrop at taken
      split_ifs at taken with held
      cases taken
      exact .drop future held
  | detach future =>
      change stepDetach future state = some next at taken
      unfold stepDetach at taken
      split_ifs at taken with guard ready
      · cases taken
        exact .detachReady future
      · cases taken
        exact .detach future guard.1 (by simpa using ready)
  | start task =>
      change stepStart task state = some next at taken
      unfold stepStart at taken
      split_ifs at taken with given alive
      · cases taken
        exact .start task given alive
      · cases taken
        exact .startGone task given alive
  | call task =>
      change stepCall body task state = some next at taken
      unfold stepCall at taken
      split at taken
      · rename_i here
        split_ifs at taken with kept
        · split at taken
          · cases taken
            exact .call task _ here ‹_›
          · cases taken
            exact .rethrow task _ here ‹_›
          · cases taken
        · cases taken
          exact .callEmpty task here (by simpa using kept)
      · cases taken
  | proceed task =>
      change stepProceed task state = some next at taken
      unfold stepProceed at taken
      split at taken
      · cases taken
        exact .proceed task ‹_›
      · cases taken
  | submit task =>
      change stepSubmit task state = some next at taken
      unfold stepSubmit at taken
      split at taken
      · cases taken
        exact .submit task _ _ ‹_›
      · cases taken
  | finish task =>
      change stepFinish task state = some next at taken
      unfold stepFinish at taken
      split at taken
      · cases taken
        exact .finish task ‹_›
      · cases taken
  | discard task =>
      change stepDiscard task state = some next at taken
      unfold stepDiscard at taken
      split_ifs at taken with given alive
      · cases taken
        exact .discard task given alive.1 alive.2
      · cases taken
        exact .discardGone task given alive
  | resetTask task =>
      change stepResetTask task state = some next at taken
      unfold stepResetTask at taken
      split at taken
      · rename_i first tasks here attached
        simp only at taken
        split_ifs at taken with alive
        · cases taken
          exact .resetTask task first tasks here attached alive.1 alive.2
        · cases taken
          exact .resetGone task first tasks here attached alive
      · cases taken
  | breakPromise task =>
      change stepBreakPromise task state = some next at taken
      unfold stepBreakPromise at taken
      split at taken
      · rename_i here empty
        simp only at taken
        split at taken
        · rename_i none
          cases taken
          exact .breakPromise task here empty (by simp [none])
        · rename_i future continues
          split_ifs at taken with outer
          · cases taken
            exact .breakReturn task future here empty continues outer
          · cases taken
            refine .breakPromise task here empty fun other found => ?_
            cases continues.symm.trans found
            exact outer
      · cases taken
  | destroy task =>
      change stepDestroy task state = some next at taken
      unfold stepDestroy at taken
      split_ifs at taken with alive kept
      cases taken
      exact .destroy task alive kept

theorem FutureMove.count_le {label : FutureLabel} (move : FutureMove body state label next) :
    state.count ≤ next.count := by
  cases move <;> simp

theorem FutureMove.origin {label : FutureLabel} (move : FutureMove body state label next)
    {task : Nat} (bound : task < state.count) :
    (next.shared task).origin = (state.shared task).origin := by
  cases move with
  | startGone | discardGone | detachReady => rfl
  | _ =>
      simp only [FutureState.modify_shared, FutureState.goTo_shared, FutureState.store_shared,
        FutureState.create_shared]
      grind

theorem FutureMove.antecedent {label : FutureLabel} (move : FutureMove body state label next)
    {task : Nat} (bound : task < state.count) :
    next.antecedent task = state.antecedent task :=
  congrArg Origin.antecedent (move.origin bound)

theorem FutureMove.function {label : FutureLabel} (move : FutureMove body state label next)
    {task : Nat} (bound : task < state.count) (kept : (next.shared task).function = true) :
    (state.shared task).function = true := by
  cases move with
  | startGone | discardGone | detachReady => exact kept
  | _ =>
      simp only [FutureState.modify_shared, FutureState.goTo_shared, FutureState.store_shared,
        FutureState.create_shared] at kept
      grind

structure Numbered (state : FutureState Value Failure) : Prop where
  unused : ∀ task, state.count ≤ task → state.shared task = .unused
  earlier : ∀ task future, state.antecedent task = some future → future < task

theorem Numbered.made {task : Nat} (numbered : Numbered state)
    (different : state.shared task ≠ .unused) : task < state.count := by
  by_contra beyond
  exact different (numbered.unused task (Nat.le_of_not_lt beyond))

theorem Numbered.held {future : Nat} (numbered : Numbered state)
    (held : 0 < (state.shared future).futures) : future < state.count :=
  numbered.made fun same => by
    rw [same] at held
    exact absurd held (Nat.lt_irrefl 0)

theorem Numbered.used {future : Nat} (numbered : Numbered state)
    (used : (state.shared future).point ≠ .promised) : future < state.count :=
  numbered.made fun same => by
    rw [same] at used
    exact used rfl

theorem Numbered.isReady {future : Nat} (numbered : Numbered state)
    (ready : (state.shared future).ready = true) : future < state.count :=
  numbered.made fun same => by
    rw [same] at ready
    cases ready

theorem Numbered.keeps {task : Nat} (numbered : Numbered state)
    (kept : (state.shared task).function = true) : task < state.count :=
  numbered.made fun same => by
    rw [same] at kept
    cases kept

def TaskPoint.tasks : TaskPoint → List Nat
  | .proceeding tasks => tasks
  | _ => []

/-- The packaged tasks of continuations that the object still has to hand on. -/
def Shared.pending (shared : Shared Value Failure) : List Nat :=
  shared.point.tasks ++ shared.thenTasks

/-- The packaged tasks that the executors have, or an object. -/
def FutureState.place (state : FutureState Value Failure) : Option Nat → List Nat
  | none => state.submitted
  | some future => (state.shared future).pending

theorem place_modify (task : Nat) (change : Shared Value Failure → Shared Value Failure) :
    (state.modify task change).place =
      Function.update state.place (some task) (change (state.shared task)).pending := by
  funext spot
  cases spot with
  | none => simp [FutureState.place]
  | some future =>
      by_cases same : future = task
      · subst same
        simp [FutureState.place, FutureState.modify_shared]
      · simp [FutureState.place, FutureState.modify_shared, same]

theorem place_modify_same {task : Nat} {change : Shared Value Failure → Shared Value Failure}
    (same : (change (state.shared task)).pending = (state.shared task).pending) :
    (state.modify task change).place = state.place := by
  rw [place_modify, same]
  exact Function.update_eq_self (some task) state.place

theorem place_submitted (tasks : List Nat) :
    { state with submitted := tasks }.place = Function.update state.place none tasks := by
  funext spot
  cases spot <;> simp [FutureState.place]

theorem Numbered.place_create (numbered : Numbered state) (origin : Origin) :
    (state.create origin).place = state.place := by
  funext spot
  cases spot with
  | none => rfl
  | some future =>
      by_cases new : future = state.count
      · subst new
        simp [FutureState.place, FutureState.create_shared,
          numbered.unused state.count (Nat.le_refl _)]
        rfl
      · simp [FutureState.place, FutureState.create_shared, new]

inductive PlaceMove (state next : FutureState Value Failure) : Prop where
  | keeps (counted : next.count = state.count) (same : next.place = state.place)
      (promised : ∀ task, (state.shared task).point = .promised →
        (next.shared task).point = .promised)
  | puts (spot : Option Nat) (counted : next.count = state.count + 1)
      (new : next.shared state.count = .package (next.shared state.count).origin)
      (belongs : ∀ future, spot = some future → next.antecedent state.count = some future)
      (changed : next.place =
        Function.update state.place spot (state.place spot ++ [state.count]))
      (promised : ∀ task, (state.shared task).point = .promised →
        (next.shared task).point = .promised)
  | takes (spot : Option Nat) (task : Nat) (counted : next.count = state.count)
      (member : task ∈ state.place spot)
      (left : (next.shared task).point ≠ .promised ∨
        ¬ (state.alive task ∧ (state.shared task).ready = false))
      (changed : next.place =
        Function.update state.place spot ((state.place spot).erase task))
      (promised : ∀ other, other ≠ task → (state.shared other).point = .promised →
        (next.shared other).point = .promised)
  | hands (future first : Nat) (tasks : List Nat) (counted : next.count = state.count)
      (here : state.place (some future) = first :: tasks)
      (changed : next.place = Function.update (Function.update state.place (some future) tasks)
        none (state.place none ++ [first]))
      (promised : ∀ task, (state.shared task).point = .promised →
        (next.shared task).point = .promised)

/-- Each packaged task is in one place, once, and is still to be called. -/
structure Placed (state : FutureState Value Failure) : Prop where
  nodup : ∀ spot, (state.place spot).Nodup
  apart : ∀ future, ∀ task ∈ state.place (some future), task ∉ state.place none
  within : ∀ spot, ∀ task ∈ state.place spot, task < state.count
  promised : ∀ spot, ∀ task ∈ state.place spot, (state.shared task).point = .promised
  belongs : ∀ future, ∀ task ∈ state.place (some future), state.antecedent task = some future

theorem modify_promised {task : Nat} {change : Shared Value Failure → Shared Value Failure}
    (kept : (state.shared task).point = .promised →
      (change (state.shared task)).point = .promised) (other : Nat)
    (promised : (state.shared other).point = .promised) :
    ((state.modify task change).shared other).point = .promised := by
  rw [FutureState.modify_shared]
  by_cases same : other = task
  · subst same
    simpa using kept promised
  · simpa [same] using promised

theorem goTo_promised_other {task other : Nat} {point : TaskPoint} (different : other ≠ task)
    (promised : (state.shared other).point = .promised) :
    ((state.goTo task point).shared other).point = .promised := by
  rw [FutureState.goTo_shared, if_neg different]
  exact promised

theorem create_promised (origin : Origin) (other : Nat)
    (promised : (state.shared other).point = .promised) :
    ((state.create origin).shared other).point = .promised := by
  rw [FutureState.create_shared]
  by_cases new : other = state.count
  · simp [new, Shared.package]
  · simpa [new] using promised

theorem FutureMove.places {label : FutureLabel} (numbered : Numbered state)
    (placed : Placed state) (move : FutureMove body state label next) : PlaceMove state next := by
  cases move with
  | makeReady origin held =>
      refine .puts none rfl ?_ (by simp) ?_ (create_promised origin)
      · simp [FutureState.create_shared, Shared.package]
      · rw [place_submitted, numbered.place_create]
        rfl
  | attach origin future continues held unlocked unready =>
      have old : state.count ≠ future := Nat.ne_of_gt (numbered.held held)
      have before : (state.create origin).shared future = state.shared future := by
        simp [FutureState.create_shared, old.symm]
      refine .puts (some future) rfl ?_ ?_ ?_ fun task promised => ?_
      · simp [FutureState.modify_shared, FutureState.create_shared, old, Shared.package]
      · rintro _ ⟨⟩
        simpa [FutureState.antecedent, FutureState.modify_shared, FutureState.create_shared, old,
          Shared.package] using continues
      · rw [place_modify, numbered.place_create, before]
        simp [FutureState.place, Shared.pending]
      · exact modify_promised id task (create_promised origin task promised)
  | copy future held => exact .keeps rfl (place_modify_same rfl) (modify_promised id)
  | drop future held => exact .keeps rfl (place_modify_same rfl) (modify_promised id)
  | detachReady future => exact .keeps rfl rfl fun task promised => promised
  | detach future held unready => exact .keeps rfl (place_modify_same rfl) (modify_promised id)
  | start task given alive =>
      have waiting := placed.promised none task given
      refine .takes none task rfl given (.inl ?_) ?_
        fun other different => goTo_promised_other different
      · simp [FutureState.goTo_shared]
      · refine Eq.trans (place_modify_same ?_) (place_submitted _)
        simp [Shared.pending, TaskPoint.tasks, waiting]
  | startGone task given gone =>
      exact .takes none task rfl given (.inr fun both => gone both.1) (place_submitted _)
        fun other different promised => promised
  | call task argument here given =>
      refine .keeps rfl ?_ fun other promised => ?_
      · change (state.store task (body task argument)).place = state.place
        refine place_modify_same ?_
        simp [Shared.pending, TaskPoint.tasks, here]
      · change ((state.store task (body task argument)).shared other).point = .promised
        exact modify_promised (by simp [here]) other promised
  | rethrow task error here given =>
      refine .keeps rfl (place_modify_same ?_) (modify_promised (by simp [here]))
      simp [Shared.pending, TaskPoint.tasks, here]
  | callEmpty task here empty =>
      refine .keeps rfl (place_modify_same ?_) (modify_promised (by simp [here]))
      simp [Shared.pending, TaskPoint.tasks, here]
  | proceed task here =>
      refine .keeps rfl (place_modify_same ?_) (modify_promised (by simp [here]))
      simp [Shared.pending, TaskPoint.tasks, here]
  | submit task first tasks here =>
      refine .hands task first (tasks ++ (state.shared task).thenTasks) rfl ?_ ?_
        fun other promised => ?_
      · simp [FutureState.place, Shared.pending, TaskPoint.tasks, here]
      · rw [place_submitted, FutureState.goTo, place_modify]
        rfl
      · change ((state.goTo task _).shared other).point = .promised
        exact modify_promised (by simp [here]) other promised
  | finish task here =>
      refine .keeps rfl (place_modify_same ?_) (modify_promised (by simp [here]))
      simp [Shared.pending, TaskPoint.tasks, here]
  | discard task given alive unready =>
      have waiting := placed.promised none task given
      refine .takes none task rfl given (.inl ?_) ?_
        fun other different => goTo_promised_other different
      · simp [FutureState.goTo_shared]
      · refine Eq.trans (place_modify_same ?_) (place_submitted _)
        simp [Shared.pending, TaskPoint.tasks, waiting]
  | discardGone task given gone =>
      exact .takes none task rfl given (.inr gone) (place_submitted _)
        fun other different promised => promised
  | resetTask task first tasks here attached alive unready =>
      have member : first ∈ state.place (some task) := by
        simp [FutureState.place, Shared.pending, attached]
      have waiting := placed.promised (some task) first member
      have later := numbered.earlier first task (placed.belongs task first member)
      have apart : first ≠ task := Nat.ne_of_gt later
      refine .takes (some task) first rfl member (.inl ?_) ?_ fun other different promised => ?_
      · simp [FutureState.goTo_shared]
      · refine (place_modify_same ?_).trans ((place_modify _ _).trans ?_)
        · simp [FutureState.goTo, FutureState.modify_shared, apart, Shared.pending,
            TaskPoint.tasks, waiting]
        · rw [place_modify, Function.update_idem]
          simp [FutureState.place, FutureState.modify_shared, Shared.pending, TaskPoint.tasks,
            here, attached]
      · refine goTo_promised_other different (modify_promised ?_ other
          (modify_promised id other promised))
        simp [FutureState.modify_shared, here]
  | resetGone task first tasks here attached gone =>
      have member : first ∈ state.place (some task) := by
        simp [FutureState.place, Shared.pending, attached]
      refine .takes (some task) first rfl member (.inr gone) ?_
        fun other _ => modify_promised id other
      rw [place_modify]
      simp [FutureState.place, Shared.pending, TaskPoint.tasks, here, attached]
  | breakPromise task here empty alone =>
      refine .keeps rfl (place_modify_same ?_) (modify_promised (by simp [here]))
      simp [Shared.pending, TaskPoint.tasks, here]
  | breakReturn task future here empty continues outer =>
      have apart : future ≠ task := Nat.ne_of_lt (numbered.earlier task future continues)
      refine .keeps rfl ((place_modify_same ?_).trans (place_modify_same ?_)) fun other promised =>
        modify_promised ?_ other (modify_promised (by simp [here]) other promised)
      · simp [FutureState.modify_shared, apart, Shared.pending, TaskPoint.tasks, outer]
      · simp [Shared.pending, TaskPoint.tasks, here]
      · simp [FutureState.modify_shared, apart, outer]
  | destroy task gone kept => exact .keeps rfl (place_modify_same rfl) (modify_promised id)

theorem Placed.one_spot (placed : Placed state) {spot other : Option Nat} {task : Nat}
    (here : task ∈ state.place spot) (there : task ∈ state.place other) : other = spot := by
  cases spot with
  | none =>
      cases other with
      | none => rfl
      | some future => exact absurd here (placed.apart future task there)
  | some future =>
      cases other with
      | none => exact absurd there (placed.apart future task here)
      | some another =>
          have one := placed.belongs future task here
          have two := placed.belongs another task there
          exact two.symm.trans one

theorem Placed.puts {spot : Option Nat} (placed : Placed state)
    (counted : next.count = state.count + 1)
    (new : next.shared state.count = .package (next.shared state.count).origin)
    (attached : ∀ future, spot = some future → next.antecedent state.count = some future)
    (kept : ∀ task < state.count, next.antecedent task = state.antecedent task)
    (changed : next.place = Function.update state.place spot (state.place spot ++ [state.count]))
    (promised : ∀ task, (state.shared task).point = .promised →
      (next.shared task).point = .promised) : Placed next := by
  have fresh : ∀ other, state.count ∉ state.place other :=
    fun other member => Nat.lt_irrefl _ (placed.within other _ member)
  have members : ∀ other task, task ∈ next.place other ↔
      task ∈ state.place other ∨ other = spot ∧ task = state.count := by
    intro other task
    rw [changed]
    by_cases same : other = spot
    · subst same
      simp
    · simp [same]
  obtain ⟨nodup, apart, within, waiting, belongs⟩ := placed
  constructor
  · intro other
    rw [changed]
    by_cases same : other = spot
    · subst same
      have last : ∀ task ∈ state.place other, task ≠ state.count :=
        fun task member => ne_of_mem_of_not_mem member (fresh other)
      simpa [List.nodup_append] using ⟨nodup other, last⟩
    · simpa [same] using nodup other
  · intro future task
    simp only [members]
    grind
  · intro other task
    simp only [members]
    grind
  · intro other task
    simp only [members]
    rintro (member | ⟨-, rfl⟩)
    · exact promised task (waiting other task member)
    · rw [new]
      rfl
  · intro future task
    simp only [members]
    grind

theorem Placed.takes {spot : Option Nat} {task : Nat} (placed : Placed state)
    (counts : state.count ≤ next.count)
    (kept : ∀ task < state.count, next.antecedent task = state.antecedent task)
    (member : task ∈ state.place spot)
    (changed : next.place = Function.update state.place spot ((state.place spot).erase task))
    (promised : ∀ other, other ≠ task → (state.shared other).point = .promised →
      (next.shared other).point = .promised) : Placed next := by
  have alone : ∀ other, task ∈ state.place other → other = spot :=
    fun other there => placed.one_spot member there
  obtain ⟨nodup, apart, within, waiting, belongs⟩ := placed
  have members : ∀ other each, each ∈ next.place other ↔
      each ∈ state.place other ∧ each ≠ task := by
    intro other each
    rw [changed]
    by_cases same : other = spot
    · subst same
      simp [(nodup other).mem_erase_iff, and_comm]
    · have elsewhere := fun there => same (alone other there)
      rw [Function.update_of_ne same]
      exact ⟨fun there => ⟨there, ne_of_mem_of_not_mem there elsewhere⟩, fun both => both.1⟩
  constructor
  · intro other
    rw [changed]
    by_cases same : other = spot
    · subst same
      simpa using (nodup other).erase task
    · simpa [same] using nodup other
  all_goals
    intro other each
    simp only [members]
    grind

theorem Placed.hands {future first : Nat} {tasks : List Nat} (placed : Placed state)
    (counts : state.count ≤ next.count)
    (kept : ∀ task < state.count, next.antecedent task = state.antecedent task)
    (here : state.place (some future) = first :: tasks)
    (changed : next.place = Function.update (Function.update state.place (some future) tasks)
      none (state.place none ++ [first]))
    (promised : ∀ task, (state.shared task).point = .promised →
      (next.shared task).point = .promised) : Placed next := by
  obtain ⟨nodup, apart, within, waiting, belongs⟩ := placed
  have member : first ∈ state.place (some future) := by simp [here]
  have front : (first :: tasks).Nodup := here ▸ nodup (some future)
  have members : ∀ other each, each ∈ next.place other ↔
      each ∈ state.place other ∧ (other = some future → each ≠ first) ∨
        other = none ∧ each = first := by
    intro other each
    rw [changed]
    rcases other with _ | another
    · simp
    · by_cases same : another = future
      · subst same
        rw [here]
        grind
      · simp [same]
  constructor
  · intro other
    rw [changed]
    rcases other with _ | another
    · have last : ∀ task ∈ state.place none, task ≠ first :=
        fun task given => ne_of_mem_of_not_mem given (apart future first member)
      simpa [List.nodup_append] using ⟨nodup none, last⟩
    · by_cases same : another = future
      · subst same
        rw [Function.update_of_ne (by simp), Function.update_self]
        exact front.of_cons
      · simpa [same] using nodup (some another)
  all_goals
    intro other each
    simp only [members]
    grind

theorem Placed.step {label : FutureLabel} (numbered : Numbered state) (placed : Placed state)
    (move : FutureMove body state label next) : Placed next := by
  have counts := move.count_le
  have kept : ∀ task < state.count, next.antecedent task = state.antecedent task :=
    fun task bound => move.antecedent bound
  cases move.places numbered placed with
  | keeps counted same promised =>
      obtain ⟨nodup, apart, within, waiting, belongs⟩ := placed
      constructor <;> simp only [same]
      · exact nodup
      · exact apart
      · exact fun spot task member => Nat.lt_of_lt_of_le (within spot task member) counts
      · exact fun spot task member => promised task (waiting spot task member)
      · exact fun future task member =>
          (kept task (within _ task member)).trans (belongs future task member)
  | puts spot counted new attached changed promised =>
      exact placed.puts counted new attached kept changed promised
  | takes spot task counted member left changed promised =>
      exact placed.takes counts kept member changed promised
  | hands future first tasks counted here changed promised =>
      exact placed.hands counts kept here changed promised

theorem FutureMove.unused {label : FutureLabel} (numbered : Numbered state)
    (placed : Placed state) (move : FutureMove body state label next) {task : Nat}
    (beyond : next.count ≤ task) : next.shared task = .unused := by
  have old := Nat.le_trans move.count_le beyond
  have idle := numbered.unused task old
  have unheld : (state.shared task).futures = 0 := by rw [idle]; rfl
  have waiting : (state.shared task).point = .promised := by rw [idle]; rfl
  have empty : (state.shared task).function = false := by rw [idle]; rfl
  have given : task ∉ state.submitted := fun member =>
    Nat.not_lt.mpr old (placed.within none task member)
  cases move with
  | startGone | discardGone | detachReady => exact idle
  | makeReady origin held =>
      have other : task ≠ state.count := Nat.ne_of_gt beyond
      simpa [FutureState.create_shared, other] using idle
  | attach origin future continues held unlocked unready =>
      have other : task ≠ state.count := Nat.ne_of_gt beyond
      have apart : task ≠ future := fun same => by simp [same] at unheld; omega
      simpa [FutureState.modify_shared, FutureState.create_shared, other, apart] using idle
  | copy future held =>
      have apart : task ≠ future := by
        rintro rfl
        obtain held | ⟨other, bound, continues, -, -⟩ := held
        · omega
        · have continued : state.antecedent other = some task := by
            simp [FutureState.antecedent, continues, Origin.antecedent]
          have earlier := numbered.earlier other task continued
          omega
      simpa [FutureState.modify_shared, apart] using idle
  | resetTask other first tasks here attached alive unready =>
      have apart : task ≠ other := by
        rintro rfl
        simp [waiting] at here
      have later : task ≠ first := by
        rintro rfl
        have bound := placed.within (some other) task
          (by simp [FutureState.place, Shared.pending, attached])
        omega
      simpa [FutureState.goTo_shared, FutureState.modify_shared, apart, later] using idle
  | _ =>
      simp only [FutureState.modify_shared, FutureState.goTo_shared, FutureState.store_shared]
      grind

theorem Numbered.step {label : FutureLabel} (numbered : Numbered state) (placed : Placed state)
    (move : FutureMove body state label next) : Numbered next := by
  refine ⟨fun task beyond => move.unused numbered placed beyond, fun task future found => ?_⟩
  rcases Nat.lt_or_ge task state.count with bound | old
  · rw [move.antecedent bound] at found
    exact numbered.earlier task future found
  rcases Nat.lt_or_ge task next.count with new | beyond
  · cases move with
    | makeReady origin held =>
        obtain rfl : task = state.count := Nat.le_antisymm (Nat.le_of_lt_succ new) old
        refine numbered.held (held future ?_).1
        simpa [FutureState.antecedent, FutureState.create_shared, Shared.package] using found
    | attach origin other continues held unlocked unready =>
        obtain rfl : task = state.count := Nat.le_antisymm (Nat.le_of_lt_succ new) old
        have apart : state.count ≠ other := Nat.ne_of_gt (numbered.held held)
        have same : origin.antecedent = some future := by
          simpa [FutureState.antecedent, FutureState.modify_shared, FutureState.create_shared,
            apart, Shared.package] using found
        cases continues.symm.trans same
        exact numbered.held held
    | _ => exact absurd new (Nat.not_lt.mpr old)
  · rw [FutureState.antecedent, move.unused numbered placed beyond] at found
    cases found

theorem Numbered.start : Numbered (FutureState.start : FutureState Value Failure) :=
  ⟨fun _ _ => rfl, fun _ _ found => by cases found⟩

theorem Placed.start : Placed (FutureState.start : FutureState Value Failure) := by
  have empty : ∀ spot, (FutureState.start : FutureState Value Failure).place spot = [] := by
    rintro (_ | future) <;> rfl
  constructor <;> simp [empty]

end Schedulers.Futures
