import Schedulers.Stlab.WhenContextValues
import Schedulers.Support.Progress

/-!
# What `when_all` and `when_any` execute

In every interleaving of the continuations, of the thread that attaches them and of the
owner of the returned future the function of a context is executed once at most: with the
values of all futures, or the first value, or an exception that one of the futures has
had. It is executed as soon as the futures that are ready decide the result.
-/

namespace Schedulers.Stlab

open Schedulers.TransitionSystem Schedulers.Tally

set_option autoImplicit false

variable {Value Failure : Type} {count : Nat} {kind : WhenKind}
  {outcome : Fin count → Except Failure Value} {state next : ContextState Value Failure count}

structure Executions (kind : WhenKind) (outcome : Fin count → Except Failure Value)
    (state : ContextState Value Failure count) : Prop where
  right : ∀ executed ∈ state.executed, executed.Right kind outcome state.ready
  once : state.executed.length ≤ state.fires
  kept : state.dropped = false → state.executed.length = state.fires

theorem Executions.step {label : ContextLabel count} (reports : Reports kind outcome state)
    (counts : ReportCounts state) (values : ContextValues kind outcome state)
    (holds : Executions kind outcome state)
    (move : ContextMove kind outcome state label next) : Executions kind outcome next := by
  obtain ⟨right, once, keeps⟩ := holds
  have more (index other : Fin count) (ready : state.ready other = true) :
      Function.update state.ready index true other = true := by
    by_cases same : other = index
    · simp [same]
    · simpa [Function.update_of_ne same] using ready
  cases move with
  | resolve index =>
      exact ⟨fun executed member => (right executed member).later (more index), once, keeps⟩
  | breakPromise index error here unready is =>
      exact ⟨fun executed member => (right executed member).later (more index), once, keeps⟩
  | fire index trigger here kept =>
      have justified : (state.execute kind).Right kind outcome state.ready := by
        cases trigger with
        | all => exact execute_all_right reports counts values here
        | single => exact execute_single_right reports counts values here
      refine ⟨fun executed member => ?_, ?_, fun _ => ?_⟩
      · rcases List.mem_append.mp member with before | new
        · exact right executed before
        · rw [List.mem_singleton.mp new]
          exact justified
      · simp only [List.length_append, List.length_singleton]
        omega
      · have same := keeps kept
        simp only [List.length_append, List.length_singleton]
        omega
  | fireDropped index trigger here dropped =>
      refine ⟨right, once.trans (Nat.le_succ _), fun kept => ?_⟩
      rw [show (state.goTo index (.finished trigger)).dropped = _ from dropped] at kept
      cases kept
  | drop attached => exact ⟨right, once, fun kept => by cases kept⟩
  | _ => exact ⟨right, once, keeps⟩

structure ContextInvariant (kind : WhenKind) (outcome : Fin count → Except Failure Value)
    (state : ContextState Value Failure count) : Prop where
  reports : Reports kind outcome state
  counts : ReportCounts state
  attaching : Attaching state
  values : ContextValues kind outcome state
  executions : Executions kind outcome state

theorem ContextInvariant.step {label : ContextLabel count}
    (holds : ContextInvariant kind outcome state)
    (move : ContextMove kind outcome state label next) : ContextInvariant kind outcome next where
  reports := holds.reports.step move
  counts := holds.counts.step holds.attaching.fresh move
  attaching := holds.attaching.step holds.reports move
  values := holds.values.step holds.reports move
  executions := holds.executions.step holds.reports holds.counts holds.values move

theorem context_start_invariant (positive : 0 < count) :
    ContextInvariant kind outcome (.start : ContextState Value Failure count) where
  reports index := by
    constructor <;> simp [ContextState.start, ContinuationPoint.trigger, ContinuationPoint.begun,
      ContinuationPoint.flagged]
  counts := by
    have more : count ≠ 0 := Nat.pos_iff_ne_zero.mp positive
    constructor <;> simp [ContextState.start, tally, ContinuationPoint.uncounted,
      ContinuationPoint.pending, more]
  attaching := by
    constructor <;> simp [ContextState.start, AttacherPoint.attached, AttacherPoint.assigned]
  values := by
    constructor <;> simp [ContextState.start, ContinuationPoint.stored]
  executions := by
    constructor <;> simp [ContextState.start]

theorem context_invariant (positive : 0 < count)
    (reached : Reachable (contextSystem kind outcome) anyStep state) :
    ContextInvariant kind outcome state :=
  reached.keeps (fun _ begins => begins ▸ context_start_invariant positive)
    fun _ _ _ holds _ taken => holds.step (context_step_move taken)

theorem fires_once (holds : ContextInvariant kind outcome state) :
    tally ContinuationPoint.pending state.point + state.fires ≤ 1 := by
  have firing := holds.counts.firing
  by_cases set : state.singleEventTrigger = true
  · have more := one_collector holds.reports holds.counts set
    rw [if_pos set, if_neg more] at firing
    omega
  · rw [if_neg set] at firing
    split_ifs at firing <;> omega

/-- For any number of futures, and in every interleaving, the function of `when_all` or
`when_any` is executed once at most, and with what the futures that are ready justify:
all their values in the order of the range, the value and the index of one of them, or an
exception one of them has had (for `when_any` only if all of them have one). -/
theorem when_executes_right (kind : WhenKind) (outcome : Fin count → Except Failure Value)
    (positive : 0 < count) (state : ContextState Value Failure count)
    (reached : Reachable (contextSystem kind outcome) anyStep state) :
    state.executed.length ≤ 1 ∧
      ∀ executed ∈ state.executed, executed.Right kind outcome state.ready := by
  have holds := context_invariant positive reached
  have once := fires_once holds
  have executed := holds.executions.once
  exact ⟨by omega, holds.executions.right⟩

/-- The second future of a `when_any` is ready before the first, and its value is executed
while `do_it` has not yet assigned its hold. -/
theorem when_any_executes_second :
    ∃ state : ContextState Nat Nat 2,
      Reachable (contextSystem .whenAny fun index => if index = 0 then .error 4 else .ok 7)
        anyStep state ∧
      (state.attacher = .assigning 1 ∧ state.executed = [.anyOf (some (7, 1))]) ∧
      state.executed.length ≤ 1 := by
  obtain ⟨state, reached, here⟩ : ∃ state : ContextState Nat Nat 2,
      Reachable (contextSystem .whenAny fun index => if index = 0 then .error 4 else .ok 7)
        anyStep state ∧
      (state.attacher = .assigning 1 ∧ state.executed = [.anyOf (some (7, 1))]) :=
    schedule_reaches [.attach, .assign, .attach, .resolve 1, .run 1, .enter 1, .flag 1,
      .resetHold 1, .resetHold 1, .resetHold 1, .apply 1, .fire 1] rfl (by decide)
  exact ⟨state, reached, here, (when_executes_right .whenAny _ (by decide) state reached).1⟩

/-- The futures whose continuations get to see their outcome once they are ready. -/
def ContextState.heard (state : ContextState Value Failure count) (index : Fin count) : Bool :=
  state.ready index && decide (state.point index ≠ .broken)

/-- What the futures that are heard of decide: `when_all` an exception, or all values;
`when_any` a value, or an exception once there is no value to come. -/
def Decided (kind : WhenKind) (outcome : Fin count → Except Failure Value)
    (heard : Fin count → Bool) : Prop :=
  (∃ index, heard index = true ∧ collector kind (outcome index) = .single) ∨
    ∀ index, heard index = true

def AttacherPoint.left (count : Nat) : AttacherPoint → Nat
  | .attaching index => 2 * (count - index) + 1
  | .assigning index => 2 * (count - index)
  | .returned => 0

def ContinuationPoint.left (count : Nat) : ContinuationPoint → Nat
  | .unattached => count + 7
  | .attached => count + 6
  | .called => count + 5
  | .flagging => count + 4
  | .resetting hold => count - hold + 3
  | .storing => 4
  | .counting => 3
  | .applying _ => 2
  | .firing _ => 1
  | _ => 0

def contextLeft (state : ContextState Value Failure count) : Nat :=
  state.attacher.left count + tally (ContinuationPoint.left count) state.point

theorem go_to_lowers {index : Fin count} {old point : ContinuationPoint}
    (here : state.point index = old) (less : point.left count < old.left count) :
    tally (ContinuationPoint.left count) (Function.update state.point index point) <
      tally (ContinuationPoint.left count) state.point := by
  have moved := point_update_tally (ContinuationPoint.left count) here point
  omega

theorem context_lowers : Lowers (contextSystem kind outcome) ownContextSteps
    (fun state amount => ContextInvariant kind outcome state ∧ contextLeft state = amount) := by
  intro label state next amount holds allowed taken
  obtain ⟨invariant, rfl⟩ := holds
  have move := context_step_move taken
  refine ⟨contextLeft next, ?_, invariant.step move, rfl⟩
  unfold contextLeft
  cases move with
  | attach index bound here =>
      have less := go_to_lowers (invariant.attaching.fresh index here bound)
        (Nat.lt_succ_self _ : ContinuationPoint.attached.left count < _)
      simp only [here, AttacherPoint.left]
      exact Nat.add_lt_add_of_le_of_lt (Nat.le_succ _) less
  | returns index all here =>
      simp only [here, AttacherPoint.left]
      omega
  | assign index bound here =>
      simp only [here, AttacherPoint.left]
      omega
  | resolve index => cases allowed
  | breakPromise index error here unready is => cases allowed
  | drop attached => cases allowed
  | resetHold index hold bound here =>
      have less : (ContinuationPoint.resetting (hold + 1)).left count <
          (ContinuationPoint.resetting hold).left count := by
        simp only [ContinuationPoint.left]
        omega
      exact Nat.add_lt_add_left (go_to_lowers here less) _
  | allReset index hold all here =>
      have less : (ContinuationPoint.applying .single).left count <
          (ContinuationPoint.resetting hold).left count := by
        simp only [ContinuationPoint.left]
        omega
      exact Nat.add_lt_add_left (go_to_lowers here less) _
  | _ =>
      exact Nat.add_lt_add_left
        (go_to_lowers (by assumption) (by simp [ContinuationPoint.left])) _

theorem context_left_bound (state : ContextState Value Failure count) :
    contextLeft state ≤ 2 * count + 1 + count * (count + 7) := by
  have attacher : state.attacher.left count ≤ 2 * count + 1 := by
    unfold AttacherPoint.left
    split <;> omega
  have points : tally (ContinuationPoint.left count) state.point ≤ count * (count + 7) := by
    have each : ∀ index ∈ Finset.univ,
        (state.point index).left count ≤ count + 7 := by
      intro index _
      unfold ContinuationPoint.left
      split <;> omega
    have sum := Finset.sum_le_card_nsmul Finset.univ _ _ each
    simpa [tally] using sum
  unfold contextLeft
  omega

theorem settled_points (holds : ContextInvariant kind outcome state)
    (settled : Settled (contextSystem kind outcome) ownContextSteps state) (index : Fin count) :
    (state.point index = .attached ∧ state.ready index = false) ∨
      (∃ trigger, state.point index = .finished trigger) ∨ state.point index = .broken ∨
      state.point index = .cancelled ∨ state.point index = .contextGone := by
  have attacher : state.attacher = .returned := by
    have enabledAttach := settled .attach trivial
    have enabledAssign := settled .assign trivial
    simp only [contextSystem, contextStep, stepAttach, stepAssign] at enabledAttach enabledAssign
    cases here : state.attacher with
    | attaching index =>
        rw [here] at enabledAttach
        simp only at enabledAttach
        split_ifs at enabledAttach
    | assigning index =>
        rw [here] at enabledAssign
        simp [holds.attaching.bound index here] at enabledAssign
    | returned => rfl
  have report := holds.reports index
  cases point : state.point index with
  | unattached =>
      have beyond := (holds.attaching.unattached index).mp point
      rw [attacher] at beyond
      exact absurd index.isLt (Nat.not_lt.mpr beyond)
  | attached =>
      cases ready : state.ready index with
      | false => exact .inl ⟨rfl, rfl⟩
      | true =>
          have enabled := settled (.run index) trivial
          simp only [contextSystem, contextStep, stepRun, point, ready] at enabled
          split_ifs at enabled
  | called =>
      have enabled := settled (.enter index) trivial
      simp only [contextSystem, contextStep, stepEnter, point] at enabled
      split_ifs at enabled
      split at enabled <;> cases enabled
  | storing =>
      obtain ⟨value, is⟩ := report.value point
      have enabled := settled (.store index) trivial
      simp [contextSystem, contextStep, stepStore, point, is] at enabled
  | counting =>
      have enabled := settled (.countDown index) trivial
      simp only [contextSystem, contextStep, stepCountDown, point] at enabled
      split_ifs at enabled
      split at enabled <;> cases enabled
  | flagging =>
      have enabled := settled (.flag index) trivial
      simp only [contextSystem, contextStep, stepFlag, point] at enabled
      split_ifs at enabled
  | resetting hold =>
      have enabled := settled (.resetHold index) trivial
      simp only [contextSystem, contextStep, stepResetHold, point] at enabled
      split_ifs at enabled
  | applying trigger =>
      have enabled := settled (.apply index) trivial
      cases is : outcome index <;>
        simp [contextSystem, contextStep, stepApply, point, is] at enabled
  | firing trigger =>
      have enabled := settled (.fire index) trivial
      simp only [contextSystem, contextStep, stepFire, point] at enabled
      split_ifs at enabled
  | finished trigger => exact .inr (.inl ⟨trigger, rfl⟩)
  | broken => exact .inr (.inr (.inl rfl))
  | cancelled => exact .inr (.inr (.inr (.inl rfl)))
  | contextGone => exact .inr (.inr (.inr (.inr rfl)))

/-- At rest, with the returned future kept, nobody is on the way to `_f`; if the function
has not been executed, each future that is heard of has been counted. -/
theorem settled_unfired (holds : ContextInvariant kind outcome state)
    (settled : Settled (contextSystem kind outcome) ownContextSteps state)
    (kept : state.dropped = false) (none : state.fires = 0) :
    state.singleEventTrigger = false ∧ state.remaining ≠ 0 ∧
      ∀ index, state.heard index = true → state.point index = .finished .all := by
  have waits : state.waits = true := by simp [ContextState.waits, kept, none]
  have pending : tally ContinuationPoint.pending state.point = 0 := by
    refine tally_zero_iff.mpr fun index => ?_
    rcases settled_points holds settled index with
      ⟨point, _⟩ | ⟨trigger, point⟩ | point | point | point <;> rw [point] <;> rfl
  have firing := holds.counts.firing
  rw [pending, none] at firing
  have clear : state.singleEventTrigger = false := by
    by_contra set
    rw [if_pos (by simpa using set)] at firing
    omega
  have more : state.remaining ≠ 0 := by
    intro last
    rw [if_pos last] at firing
    omega
  refine ⟨clear, more, fun index heard => ?_⟩
  simp only [ContextState.heard, Bool.and_eq_true, decide_eq_true_eq] at heard
  obtain ⟨ready, unbroken⟩ := heard
  rcases settled_points holds settled index with ⟨_, not⟩ | ⟨trigger, point⟩ | point | point | point
  · rw [ready] at not
    cases not
  · cases trigger with
    | all => exact point
    | single =>
        have set := (holds.reports.forPoint point).flagged rfl
        rw [clear] at set
        cases set
  · exact absurd point unbroken
  · rcases holds.attaching.cancelled index point with set | ended
    · rw [clear] at set
      cases set
    · rw [waits] at ended
      cases ended
  · have ended := holds.attaching.gone index point
    rw [waits] at ended
    cases ended

/-- Whoever has called `_f` was the first to report to a `single_trigger`, or the last of
all. -/
theorem fired_decided (holds : ContextInvariant kind outcome state) (fired : state.fires ≠ 0) :
    Decided kind outcome state.heard := by
  have firing := holds.counts.firing
  by_cases set : state.singleEventTrigger = true
  · obtain ⟨index, flagged⟩ := holds.counts.winner set
    refine .inl ⟨index, ?_, flagged_collects holds.reports flagged⟩
    have begun : (state.point index).begun = true ∧ state.point index ≠ .broken := by
      cases point : state.point index <;>
        simp_all [ContinuationPoint.flagged, ContinuationPoint.begun]
    simp [ContextState.heard, (holds.reports index).ready begun.1, begun.2]
  · rw [if_neg set] at firing
    have none : state.remaining = 0 := by
      by_contra more
      rw [if_neg more] at firing
      omega
    refine .inr fun index => ?_
    have ready := (counted_collects holds.reports holds.counts none index).2.1
    rcases all_counted holds.counts none index with point | point | point <;>
      simp [ContextState.heard, ready, point]

end Schedulers.Stlab
