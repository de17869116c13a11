import Schedulers.Futures.FuturesSteps
import Mathlib.Tactic.Common

/-!
# The owners of futures

What a step can do to one object, that nobody comes back to an object without owners, and
what the place of its packaged task says about an object.
-/

namespace Schedulers.Futures

open Schedulers.TransitionSystem

set_option autoImplicit false

variable {Value Failure : Type} {body : Nat → Argument Value Failure → Outcome Value Failure}
  {state next : FutureState Value Failure}

theorem FutureMove.captured {label : FutureLabel} (numbered : Numbered state)
    (move : FutureMove body state label next) {task : Nat}
    (captured : next.captured task) : state.alive task := by
  obtain ⟨other, within, continues, kept⟩ := captured
  rcases Nat.lt_or_ge other state.count with before | new
  · rw [move.antecedent before] at continues
    exact .inr (.inr (.inr ⟨other, before, continues, move.function before kept⟩))
  · cases move with
    | makeReady origin held =>
        obtain rfl : other = state.count := Nat.le_antisymm (Nat.le_of_lt_succ within) new
        refine .inl (held task ?_).1
        simpa [FutureState.antecedent, FutureState.create_shared, Shared.package] using continues
    | attach origin future continued held unlocked unready =>
        obtain rfl : other = state.count := Nat.le_antisymm (Nat.le_of_lt_succ within) new
        have apart : state.count ≠ future := Nat.ne_of_gt (numbered.held held)
        have same : origin.antecedent = some task := by
          simpa [FutureState.antecedent, FutureState.modify_shared, FutureState.create_shared,
            apart, Shared.package] using continues
        cases continued.symm.trans same
        exact .inl held
    | _ => exact absurd within (Nat.not_lt.mpr new)

inductive SharedMove (state : FutureState Value Failure) (task : Nat) :
    Shared Value Failure → Prop where
  | same : SharedMove state task (state.shared task)
  | copied (held : state.holdsFuture task) :
      SharedMove state task
        { state.shared task with futures := (state.shared task).futures + 1 }
  | dropped (held : 0 < (state.shared task).futures) :
      SharedMove state task
        { state.shared task with futures := (state.shared task).futures - 1 }
  | attached (new : Nat) (held : 0 < (state.shared task).futures)
      (unlocked : (state.shared task).point.locks = false)
      (unready : (state.shared task).ready = false) :
      SharedMove state task
        { state.shared task with thenTasks := (state.shared task).thenTasks ++ [new] }
  | detached (held : 0 < (state.shared task).futures)
      (unready : (state.shared task).ready = false) :
      SharedMove state task { state.shared task with hold := true }
  | entered (given : task ∈ state.submitted) (waiting : (state.shared task).point = .promised)
      (alive : state.alive task) :
      SharedMove state task { state.shared task with point := .entered }
  | stored (outcome : Outcome Value Failure) (here : (state.shared task).point = .entered) :
      SharedMove state task { state.shared task with outcome := some outcome, point := .called }
  | emptied (here : (state.shared task).point = .entered)
      (empty : (state.shared task).function = false) :
      SharedMove state task { state.shared task with point := .done }
  | proceeded (here : (state.shared task).point = .called) :
      SharedMove state task
        { state.shared task with
          ready := true
          thenTasks := []
          hold := false
          point := .proceeding (state.shared task).thenTasks }
  | submitted (first : Nat) (tasks : List Nat)
      (here : (state.shared task).point = .proceeding (first :: tasks)) :
      SharedMove state task { state.shared task with point := .proceeding tasks }
  | finished (here : (state.shared task).point = .proceeding []) :
      SharedMove state task { state.shared task with function := false, point := .done }
  | breaking (source : task ∈ state.submitted ∨ ∃ future,
        state.antecedent task = some future ∧ (state.shared future).point = .breaking none)
      (waiting : (state.shared task).point = .promised) (alive : state.alive task) :
      SharedMove state task { state.shared task with point := .breaking none }
  | resets (first : Nat) (tasks : List Nat) (here : (state.shared task).point = .breaking none)
      (front : (state.shared task).thenTasks = first :: tasks) :
      SharedMove state task
        { state.shared task with thenTasks := tasks, point := .breaking (some first) }
  | skips (first : Nat) (tasks : List Nat) (here : (state.shared task).point = .breaking none)
      (front : (state.shared task).thenTasks = first :: tasks) :
      SharedMove state task { state.shared task with thenTasks := tasks }
  | resumes (first : Nat) (here : (state.shared task).point = .breaking (some first)) :
      SharedMove state task { state.shared task with point := .breaking none }
  | broken (here : (state.shared task).point = .breaking none)
      (empty : (state.shared task).thenTasks = []) :
      SharedMove state task
        { state.shared task with
          function := false
          outcome := some (.error .brokenPromise)
          ready := true
          hold := false
          point := .done }
  | destroyed (gone : ¬ state.alive task) :
      SharedMove state task { state.shared task with function := false }

theorem SharedMove.modify {task other : Nat}
    {change : Shared Value Failure → Shared Value Failure}
    (changed : SharedMove state other (change (state.shared other))) :
    SharedMove state task ((state.modify other change).shared task) := by
  rw [FutureState.modify_shared]
  split
  · subst task
    exact changed
  · exact .same

theorem FutureMove.each {label : FutureLabel} (numbered : Numbered state) (placed : Placed state)
    (move : FutureMove body state label next) {task : Nat} (bound : task < state.count) :
    SharedMove state task (next.shared task) := by
  have old : task ≠ state.count := Nat.ne_of_lt bound
  cases move with
  | startGone | discardGone | detachReady => exact .same
  | makeReady origin held =>
      simp only [FutureState.create_shared, if_neg old]
      exact .same
  | attach origin future continues held unlocked unready =>
      simp only [FutureState.modify_shared, FutureState.create_shared, if_neg old]
      split
      · subst task
        exact .attached _ held unlocked unready
      · exact .same
  | copy future held => exact .modify (.copied held)
  | drop future held => exact .modify (.dropped held)
  | detach future held unready => exact .modify (.detached held unready)
  | start other given alive =>
      change SharedMove state task ((state.goTo other .entered).shared task)
      exact .modify (.entered given (placed.promised none other given) alive)
  | call other argument here given =>
      change SharedMove state task ((state.store other _).shared task)
      exact .modify (.stored (body other argument) here)
  | rethrow other error here given => exact .modify (.stored _ here)
  | callEmpty other here empty => exact .modify (.emptied here empty)
  | proceed other here => exact .modify (.proceeded here)
  | submit other first tasks here =>
      change SharedMove state task ((state.goTo other (.proceeding tasks)).shared task)
      exact .modify (.submitted first tasks here)
  | finish other here => exact .modify (.finished here)
  | discard other given alive unready =>
      change SharedMove state task ((state.goTo other (.breaking none)).shared task)
      exact .modify (.breaking (.inl given) (placed.promised none other given) alive)
  | resetTask other first tasks here attached alive unready =>
      have member : first ∈ state.place (some other) := by
        simp [FutureState.place, Shared.pending, attached]
      have waiting := placed.promised (some other) first member
      have apart : first ≠ other := by
        rintro rfl
        simp [waiting] at here
      simp only [FutureState.goTo_shared, FutureState.modify_shared]
      split
      · subst task
        simp only [if_neg apart]
        exact .breaking (.inr ⟨other, placed.belongs other first member, here⟩) waiting alive
      · split
        · subst task
          exact .resets first tasks here attached
        · exact .same
  | resetGone other first tasks here attached gone =>
      exact .modify (.skips first tasks here attached)
  | breakPromise other here empty alone => exact .modify (.broken here empty)
  | breakReturn other future here empty continues outer =>
      have apart : future ≠ other := Nat.ne_of_lt (numbered.earlier other future continues)
      simp only [FutureState.goTo_shared, FutureState.modify_shared]
      split
      · subst task
        simp only [if_neg apart]
        exact .resumes other outer
      · split
        · subst task
          exact .broken here empty
        · exact .same
  | destroy other gone kept => exact .modify (.destroyed gone)

theorem alive_of_holds {task : Nat} (held : state.holdsFuture task) : state.alive task := by
  obtain held | ⟨other, bound, continues, kept, _⟩ := held
  · exact .inl held
  · refine .inr (.inr (.inr ⟨other, bound, ?_, kept⟩))
    simp [FutureState.antecedent, continues, Origin.antecedent]

theorem alive_of_owns {task : Nat} {point : TaskPoint} (here : (state.shared task).point = point)
    (owns : point.owns = true) : state.alive task :=
  .inr (.inr (.inl (here ▸ owns)))

theorem FutureMove.alive {label : FutureLabel} (numbered : Numbered state)
    (placed : Placed state) (move : FutureMove body state label next) {task : Nat}
    (bound : task < state.count) (alive : next.alive task) : state.alive task := by
  have change := move.each numbered placed bound
  obtain held | hold | owns | captured := alive
  · generalize next.shared task = after at change held
    cases change with
    | copied source => exact alive_of_holds source
    | dropped before => exact .inl before
    | _ => exact .inl held
  · generalize next.shared task = after at change hold
    cases change with
    | detached source => exact .inl source
    | proceeded | broken => cases hold
    | _ => exact .inr (.inl hold)
  · generalize next.shared task = after at change owns
    cases change with
    | entered given waiting alive => exact alive
    | breaking source waiting alive => exact alive
    | stored _ here | proceeded here | submitted _ _ here => exact alive_of_owns here rfl
    | resets _ _ here | resumes _ here => exact alive_of_owns here rfl
    | emptied | finished | broken => cases owns
    | _ => exact .inr (.inr (.inl owns))
  · exact move.captured numbered captured

/-- What the place of the packaged task says. -/
def Shared.Coherent (shared : Shared Value Failure) : Prop :=
  match shared.point with
  | .promised | .breaking _ => shared.ready = false ∧ shared.outcome = none
  | .entered => shared.ready = false ∧ shared.outcome = none ∧ shared.function = true
  | .called =>
      shared.ready = false ∧ shared.outcome.isSome = true ∧ shared.function = true
  | .proceeding _ =>
      shared.ready = true ∧ shared.outcome.isSome = true ∧ shared.function = true ∧
        shared.thenTasks = [] ∧ shared.hold = false
  | .done =>
      shared.ready = true ∧ shared.outcome.isSome = true ∧ shared.function = false ∧
        shared.thenTasks = [] ∧ shared.hold = false

structure Told (state : FutureState Value Failure) : Prop where
  coherent : ∀ task, (state.shared task).Coherent
  kept : ∀ task < state.count, state.alive task → (state.shared task).point = .promised →
    (state.shared task).function = true

theorem SharedMove.coherent {task : Nat} {after : Shared Value Failure}
    (coherent : (state.shared task).Coherent)
    (kept : state.alive task → (state.shared task).point = .promised →
      (state.shared task).function = true)
    (change : SharedMove state task after) : after.Coherent := by
  unfold Shared.Coherent at coherent ⊢
  cases change with
  | same | copied | dropped => exact coherent
  | destroyed gone =>
      cases here : (state.shared task).point with
      | promised => simpa [here] using coherent
      | done =>
          simp only [here] at coherent ⊢
          exact ⟨coherent.1, coherent.2.1, trivial, coherent.2.2.2⟩
      | _ => exact absurd (alive_of_owns here rfl) gone
  | _ => grind [TaskPoint.locks]

theorem FutureMove.made {label : FutureLabel} (numbered : Numbered state)
    (move : FutureMove body state label next) {task : Nat} (old : state.count ≤ task)
    (new : task < next.count) : ∃ origin, next.shared task = .package origin := by
  cases move with
  | makeReady origin held =>
      obtain rfl : task = state.count := Nat.le_antisymm (Nat.le_of_lt_succ new) old
      exact ⟨origin, by simp [FutureState.create_shared]⟩
  | attach origin other continues held unlocked unready =>
      obtain rfl : task = state.count := Nat.le_antisymm (Nat.le_of_lt_succ new) old
      have apart : state.count ≠ other := Nat.ne_of_gt (numbered.held held)
      exact ⟨origin, by simp [FutureState.modify_shared, FutureState.create_shared, apart]⟩
  | _ => exact absurd new (Nat.not_lt.mpr old)

theorem Told.step {label : FutureLabel} (numbered : Numbered state) (placed : Placed state)
    (told : Told state) (move : FutureMove body state label next) : Told next := by
  constructor
  · intro task
    rcases Nat.lt_or_ge task state.count with before | old
    · exact (move.each numbered placed before).coherent (told.coherent task)
        (told.kept task before)
    · rcases Nat.lt_or_ge task next.count with new | beyond
      · obtain ⟨origin, made⟩ := move.made numbered old new
        exact made ▸ ⟨rfl, rfl⟩
      · rw [move.unused numbered placed beyond]
        exact ⟨rfl, rfl⟩
  · intro task bound alive waiting
    rcases Nat.lt_or_ge task state.count with before | old
    · have change := move.each numbered placed before
      have owned := move.alive numbered placed before alive
      have kept := told.kept task before owned
      generalize next.shared task = after at change waiting
      cases change with
      | same => exact kept waiting
      | _ => grind
    · obtain ⟨origin, made⟩ := move.made numbered old bound
      rw [made]
      rfl

theorem Told.unready {task : Nat} (told : Told state)
    (waiting : (state.shared task).point = .promised) : (state.shared task).ready = false := by
  have coherent := told.coherent task
  simp only [Shared.Coherent, waiting] at coherent
  exact coherent.1

/-- The packaged task of an object that somebody owns is somewhere until it is called. -/
def Located (state : FutureState Value Failure) : Prop :=
  ∀ task < state.count, state.alive task → (state.shared task).point = .promised →
    ∃ spot, task ∈ state.place spot

theorem SharedMove.promised {task : Nat} {after : Shared Value Failure}
    (change : SharedMove state task after) (waiting : after.point = .promised) :
    (state.shared task).point = .promised := by
  cases change with
  | same | destroyed => exact waiting
  | _ => grind

theorem Located.step {label : FutureLabel} (numbered : Numbered state) (placed : Placed state)
    (told : Told state) (located : Located state) (move : FutureMove body state label next) :
    Located next := by
  intro task bound alive waiting
  have earlier : task < state.count → ∃ spot, task ∈ state.place spot := fun before =>
    located task before (move.alive numbered placed before alive)
      ((move.each numbered placed before).promised waiting)
  cases move.places numbered placed with
  | keeps counted same promised =>
      rw [same]
      exact earlier (counted ▸ bound)
  | puts spot counted new attached changed promised =>
      rw [changed]
      rcases Nat.lt_or_ge task state.count with before | old
      · obtain ⟨other, member⟩ := earlier before
        refine ⟨other, ?_⟩
        by_cases same : other = spot
        · subst same
          simp [member]
        · simpa [same] using member
      · obtain rfl : task = state.count := by omega
        exact ⟨spot, by simp⟩
  | takes spot taken counted member left changed promised =>
      have before : task < state.count := counted ▸ bound
      have apart : task ≠ taken := by
        rintro rfl
        obtain gone | gone := left
        · exact gone waiting
        · exact gone ⟨move.alive numbered placed before alive,
            told.unready ((move.each numbered placed before).promised waiting)⟩
      obtain ⟨other, there⟩ := earlier before
      rw [changed]
      refine ⟨other, ?_⟩
      by_cases same : other = spot
      · subst same
        simpa using (List.mem_erase_of_ne apart).mpr there
      · simpa [same] using there
  | hands future first tasks counted here changed promised =>
      obtain ⟨other, there⟩ := earlier (counted ▸ bound)
      rw [changed]
      by_cases same : task = first
      · exact ⟨none, by simp [same]⟩
      · refine ⟨other, ?_⟩
        rcases other with _ | another
        · simp [there]
        · by_cases from' : another = future
          · subst from'
            rw [here] at there
            simpa using List.mem_of_ne_of_mem same there
          · simpa [from'] using there

/-- The future has its outcome, or its promise is being removed. -/
def Shared.settling (shared : Shared Value Failure) : Prop :=
  shared.ready = true ∨ shared.point.locks = true

theorem SharedMove.ready {task : Nat} {after : Shared Value Failure}
    (change : SharedMove state task after) (ready : (state.shared task).ready = true) :
    after.ready = true := by
  cases change with
  | same | destroyed => exact ready
  | _ => grind

theorem SharedMove.settling {task : Nat} {after : Shared Value Failure}
    (change : SharedMove state task after) (settling : (state.shared task).settling) :
    after.settling := by
  unfold Shared.settling at settling ⊢
  cases change with
  | same | destroyed => exact settling
  | _ => grind [TaskPoint.locks]

structure Follows (state : FutureState Value Failure) (task future : Nat) : Prop where
  submitted : task ∈ state.submitted → (state.shared future).ready = true
  running : (state.shared task).point ∈ [TaskPoint.entered, .called] →
    (state.shared future).ready = true
  begun : (state.shared task).point ≠ .promised → (state.shared future).settling

def Chained (state : FutureState Value Failure) : Prop :=
  ∀ task < state.count, ∀ future, state.antecedent task = some future →
    Follows state task future

theorem FutureMove.given {label : FutureLabel} (placed : Placed state)
    (move : FutureMove body state label next) {task : Nat} (given : task ∈ next.submitted) :
    task ∈ state.submitted ∨
      (task = state.count ∧ ∀ future, next.antecedent task = some future →
        (state.shared future).ready = true) ∨
      ∃ future tasks, state.antecedent task = some future ∧
        (state.shared future).point = .proceeding tasks := by
  cases move with
  | makeReady origin held =>
      obtain before | new := List.mem_append.mp given
      · exact .inl before
      · obtain rfl : task = state.count := by simpa using new
        refine .inr (.inl ⟨rfl, fun future found => (held future ?_).2⟩)
        simpa [FutureState.antecedent, FutureState.create_shared, Shared.package] using found
  | submit other first tasks here =>
      obtain before | new := List.mem_append.mp given
      · exact .inl before
      · obtain rfl : task = first := by simpa using new
        have member : task ∈ state.place (some other) := by
          simp [FutureState.place, Shared.pending, TaskPoint.tasks, here]
        exact .inr (.inr ⟨other, task :: tasks, placed.belongs other task member, here⟩)
  | start | startGone | discard | discardGone => exact .inl (List.mem_of_mem_erase given)
  | _ => exact .inl given

theorem Told.proceeding {future : Nat} {tasks : List Nat} (told : Told state)
    (here : (state.shared future).point = .proceeding tasks) :
    (state.shared future).ready = true := by
  have coherent := told.coherent future
  simp only [Shared.Coherent, here] at coherent
  exact coherent.1

theorem Follows.step {task future : Nat}
    (follows : Follows state task future) (continues : state.antecedent task = some future)
    (given : task ∈ next.submitted →
      task ∈ state.submitted ∨ (state.shared future).ready = true)
    (change : SharedMove state task (next.shared task))
    (changes : SharedMove state future (next.shared future)) : Follows next task future := by
  constructor
  · intro member
    obtain before | ready := given member
    · exact changes.ready (follows.submitted before)
    · exact changes.ready ready
  · intro running
    refine changes.ready ?_
    generalize next.shared task = after at change running
    cases change with
    | entered member waiting alive => exact follows.submitted member
    | stored outcome here => exact follows.running (by simp [here])
    | same | destroyed => exact follows.running running
    | _ => exact follows.running (by grind)
  · intro begun
    refine changes.settling ?_
    generalize next.shared task = after at change begun
    cases change with
    | entered member waiting alive => exact .inl (follows.submitted member)
    | breaking source waiting alive =>
        obtain member | ⟨other, continued, here⟩ := source
        · exact .inl (follows.submitted member)
        · cases continues.symm.trans continued
          exact .inr (by simp [here, TaskPoint.locks])
    | same | destroyed => exact follows.begun begun
    | _ => exact follows.begun (by grind)

theorem Chained.step {label : FutureLabel} (numbered : Numbered state) (placed : Placed state)
    (told : Told state) (chained : Chained state) (move : FutureMove body state label next) :
    Chained next := by
  intro task bound future found
  have earlier := (numbered.step placed move).earlier task future found
  rcases Nat.lt_or_ge task state.count with before | old
  · have continues : state.antecedent task = some future := move.antecedent before ▸ found
    refine (chained task before future continues).step continues (fun member => ?_)
      (move.each numbered placed before)
      (move.each numbered placed (Nat.lt_trans earlier before))
    obtain given | ⟨rfl, -⟩ | ⟨other, tasks, continued, here⟩ := move.given placed member
    · exact .inl given
    · exact absurd before (Nat.lt_irrefl _)
    · cases continues.symm.trans continued
      exact .inr (told.proceeding here)
  · obtain ⟨origin, made⟩ := move.made numbered old bound
    have waiting : (next.shared task).point = .promised := by
      rw [made]
      rfl
    refine ⟨fun member => ?_, fun running => by simp [waiting] at running,
      fun begun => absurd waiting begun⟩
    obtain before | ⟨-, ready⟩ | ⟨other, tasks, continued, -⟩ := move.given placed member
    · exact absurd (placed.within none task before) (Nat.not_lt.mpr old)
    · have set := ready future found
      exact (move.each numbered placed (numbered.isReady set)).ready set
    · rw [FutureState.antecedent, numbered.unused task old] at continued
      cases continued

/-- The promise that `reset` is removing is that of a continuation. -/
def Nested (state : FutureState Value Failure) : Prop :=
  ∀ future task, (state.shared future).point = .breaking (some task) →
    task < state.count ∧ state.antecedent task = some future ∧
      (state.shared task).point.locks = true

theorem SharedMove.locks {task : Nat} {after : Shared Value Failure}
    (change : SharedMove state task after) (locks : (state.shared task).point.locks = true) :
    after.point.locks = true ∨
      (state.shared task).point = .breaking none ∧ after.ready = true := by
  cases change with
  | same | destroyed => exact .inl locks
  | _ => grind [TaskPoint.locks]

theorem FutureMove.unlocks {label : FutureLabel} (numbered : Numbered state) (told : Told state)
    (move : FutureMove body state label next) {task future : Nat}
    (here : (state.shared task).point = .breaking none)
    (ready : (next.shared task).ready = true) (continues : state.antecedent task = some future) :
    (next.shared future).point ≠ .breaking (some task) := by
  have unready : (state.shared task).ready = false := by
    have coherent := told.coherent task
    simp only [Shared.Coherent, here] at coherent
    exact coherent.1
  have earlier := numbered.earlier task future continues
  cases move with
  | startGone | discardGone | detachReady => simp [unready] at ready
  | breakPromise other at' empty alone =>
      simp only [FutureState.modify_shared] at ready ⊢
      grind
  | breakReturn other outer at' empty continued waits =>
      simp only [FutureState.modify_shared, FutureState.goTo_shared] at ready ⊢
      grind
  | _ =>
      simp only [FutureState.modify_shared, FutureState.goTo_shared, FutureState.store_shared,
        FutureState.create_shared] at ready
      grind [Shared.package]

theorem FutureMove.nests {label : FutureLabel}
    (move : FutureMove body state label next) {task future : Nat}
    (here : (next.shared future).point = .breaking (some task)) :
    (state.shared future).point = .breaking (some task) ∨
      task ∈ state.place (some future) ∧ (next.shared task).point = .breaking none := by
  cases move with
  | startGone | discardGone | detachReady => exact .inl here
  | resetTask other first tasks at' attached alive unready =>
      have member : first ∈ state.place (some other) := by
        simp [FutureState.place, Shared.pending, attached]
      simp only [FutureState.goTo_shared, FutureState.modify_shared] at here ⊢
      grind
  | _ =>
      simp only [FutureState.modify_shared, FutureState.goTo_shared, FutureState.store_shared,
        FutureState.create_shared] at here
      grind [Shared.package]

theorem Nested.step {label : FutureLabel} (numbered : Numbered state) (placed : Placed state)
    (told : Told state) (nested : Nested state) (move : FutureMove body state label next) :
    Nested next := by
  intro future task here
  obtain before | ⟨member, begins⟩ := move.nests here
  · obtain ⟨bound, continues, locks⟩ := nested future task before
    refine ⟨Nat.lt_of_lt_of_le bound move.count_le, (move.antecedent bound).trans continues, ?_⟩
    obtain kept | ⟨top, ready⟩ := (move.each numbered placed bound).locks locks
    · exact kept
    · exact absurd here (move.unlocks numbered told top ready continues)
  · have bound := placed.within _ task member
    exact ⟨Nat.lt_of_lt_of_le bound move.count_le,
      (move.antecedent bound).trans (placed.belongs future task member), by rw [begins]; rfl⟩

structure FutureInvariant (state : FutureState Value Failure) : Prop where
  numbered : Numbered state
  placed : Placed state
  told : Told state
  located : Located state
  chained : Chained state
  nested : Nested state

theorem FutureInvariant.step {label : FutureLabel} (holds : FutureInvariant state)
    (move : FutureMove body state label next) : FutureInvariant next where
  numbered := holds.numbered.step holds.placed move
  placed := holds.placed.step holds.numbered move
  told := holds.told.step holds.numbered holds.placed move
  located := holds.located.step holds.numbered holds.placed holds.told move
  chained := holds.chained.step holds.numbered holds.placed holds.told move
  nested := holds.nested.step holds.numbered holds.placed holds.told move

theorem FutureInvariant.start :
    FutureInvariant (FutureState.start : FutureState Value Failure) where
  numbered := .start
  placed := .start
  told := ⟨fun _ => ⟨rfl, rfl⟩, fun _ bound => absurd bound (Nat.not_lt_zero _)⟩
  located := fun _ bound => absurd bound (Nat.not_lt_zero _)
  chained := fun _ bound => absurd bound (Nat.not_lt_zero _)
  nested := fun _ _ here => by cases here

theorem FutureInvariant.reachable {permitted : Permission (FutureState Value Failure) FutureLabel}
    (reached : Reachable (futureSystem body) permitted state) : FutureInvariant state := by
  refine reached.keeps (fun start begins => ?_) fun label before after holds _ taken => ?_
  · cases begins
    exact .start
  · exact holds.step (future_move taken)

end Schedulers.Futures
