import Schedulers.Stlab.WhenContextModel
import Mathlib.Tactic.Common

/-!
# The steps of a `common_context`

What each step can do, and what every run keeps: the count of the reports still to come,
who has the right to call `_f`, and what the results and the exception of the context are.
-/

namespace Schedulers.Stlab

open Schedulers.TransitionSystem Schedulers.Tally

set_option autoImplicit false

variable {Value Failure : Type} {count : Nat} {kind : WhenKind}
  {outcome : Fin count → Except Failure Value} {state next : ContextState Value Failure count}

inductive ContextMove (kind : WhenKind) (outcome : Fin count → Except Failure Value)
    (state : ContextState Value Failure count) :
    ContextLabel count → ContextState Value Failure count → Prop where
  | attach (index : Nat) (bound : index < count) (here : state.attacher = .attaching index) :
      ContextMove kind outcome state .attach
        { state.goTo ⟨index, bound⟩ .attached with attacher := .assigning index }
  | returns (index : Nat) (all : count ≤ index) (here : state.attacher = .attaching index) :
      ContextMove kind outcome state .attach { state with attacher := .returned }
  | assign (index : Nat) (bound : index < count) (here : state.attacher = .assigning index) :
      ContextMove kind outcome state .assign
        { state with
          holds := Function.update state.holds ⟨index, bound⟩ true
          attacher := .attaching (index + 1) }
  | resolve (index : Fin count) :
      ContextMove kind outcome state (.resolve index)
        { state with ready := Function.update state.ready index true }
  | breakPromise (index : Fin count) (error : Failure) (here : state.point index = .attached)
      (unready : state.ready index = false) (is : outcome index = .error error) :
      ContextMove kind outcome state (.breakPromise index)
        { state.goTo index .broken with ready := Function.update state.ready index true }
  | run (index : Fin count) (here : state.point index = .attached)
      (ready : state.ready index = true) :
      ContextMove kind outcome state (.run index) (state.goTo index .called)
  | cancel (index : Fin count) (here : state.point index = .attached)
      (ready : state.ready index = true) (gone : state.continuationAlive index = false) :
      ContextMove kind outcome state (.run index) (state.goTo index .cancelled)
  | store (index : Fin count) (value : Value) (here : state.point index = .called)
      (collects : collector kind (outcome index) = .all) (is : outcome index = .ok value) :
      ContextMove kind outcome state (.enter index) (state.goTo index .storing)
  | count (index : Fin count) (error : Failure) (here : state.point index = .called)
      (collects : collector kind (outcome index) = .all) (is : outcome index = .error error) :
      ContextMove kind outcome state (.enter index) (state.goTo index .counting)
  | single (index : Fin count) (here : state.point index = .called)
      (collects : collector kind (outcome index) = .single) :
      ContextMove kind outcome state (.enter index) (state.goTo index .flagging)
  | leave (index : Fin count) (here : state.point index = .called)
      (gone : state.contextAlive = false) :
      ContextMove kind outcome state (.enter index) (state.goTo index .contextGone)
  | stored (index : Fin count) (value : Value) (here : state.point index = .storing)
      (is : outcome index = .ok value) :
      ContextMove kind outcome state (.store index)
        { state.goTo index .counting with
          results := Function.update state.results index (some value) }
  | notLast (index : Fin count) (here : state.point index = .counting)
      (more : state.remaining - 1 ≠ 0) :
      ContextMove kind outcome state (.countDown index)
        { state.goTo index (.finished .all) with remaining := state.remaining - 1 }
  | lastValue (index : Fin count) (value : Value) (here : state.point index = .counting)
      (last : state.remaining - 1 = 0) (is : outcome index = .ok value) :
      ContextMove kind outcome state (.countDown index)
        { state.goTo index (.firing .all) with remaining := state.remaining - 1 }
  | lastError (index : Fin count) (error : Failure) (here : state.point index = .counting)
      (last : state.remaining - 1 = 0) (is : outcome index = .error error) :
      ContextMove kind outcome state (.countDown index)
        { state.goTo index (.applying .all) with remaining := state.remaining - 1 }
  | late (index : Fin count) (here : state.point index = .flagging)
      (set : state.singleEventTrigger = true) :
      ContextMove kind outcome state (.flag index) (state.goTo index (.finished .single))
  | first (index : Fin count) (here : state.point index = .flagging)
      (clear : state.singleEventTrigger = false) :
      ContextMove kind outcome state (.flag index)
        { state.goTo index (.resetting 0) with singleEventTrigger := true }
  | resetHold (index : Fin count) (hold : Nat) (bound : hold < count)
      (here : state.point index = .resetting hold) :
      ContextMove kind outcome state (.resetHold index)
        { state.goTo index (.resetting (hold + 1)) with
          holds := Function.update state.holds ⟨hold, bound⟩ false }
  | allReset (index : Fin count) (hold : Nat) (all : count ≤ hold)
      (here : state.point index = .resetting hold) :
      ContextMove kind outcome state (.resetHold index) (state.goTo index (.applying .single))
  | applyValue (index : Fin count) (trigger : Trigger) (value : Value)
      (here : state.point index = .applying trigger) (is : outcome index = .ok value) :
      ContextMove kind outcome state (.apply index)
        { state.goTo index (.firing trigger) with result := some (value, index) }
  | applyError (index : Fin count) (trigger : Trigger) (error : Failure)
      (here : state.point index = .applying trigger) (is : outcome index = .error error) :
      ContextMove kind outcome state (.apply index)
        { state.goTo index (.firing trigger) with exception := some error }
  | fire (index : Fin count) (trigger : Trigger) (here : state.point index = .firing trigger)
      (kept : state.dropped = false) :
      ContextMove kind outcome state (.fire index)
        { state.goTo index (.finished trigger) with
          fires := state.fires + 1
          executed := state.executed ++ [state.execute kind] }
  | fireDropped (index : Fin count) (trigger : Trigger)
      (here : state.point index = .firing trigger) (dropped : state.dropped = true) :
      ContextMove kind outcome state (.fire index)
        { state.goTo index (.finished trigger) with fires := state.fires + 1 }
  | drop (attached : state.attacher = .returned) :
      ContextMove kind outcome state .drop { state with dropped := true }

theorem step_enter_move {index : Fin count}
    (taken : stepEnter kind (outcome index) index state = some next) :
    ContextMove kind outcome state (.enter index) next := by
  unfold stepEnter at taken
  split at taken
  · next here =>
      split_ifs at taken with alive
      · split at taken
        · next value collects is =>
            cases taken
            exact .store index value here (is.symm ▸ collects) is
        · next error collects is =>
            cases taken
            exact .count index error here (is.symm ▸ collects) is
        · next collects =>
            cases taken
            exact .single index here collects
      · cases taken
        exact .leave index here (by simpa using alive)
  · cases taken

theorem context_step_move {label : ContextLabel count}
    (taken : contextStep kind outcome label state = some next) :
    ContextMove kind outcome state label next := by
  cases label <;> simp only [contextStep] at taken
  case attach =>
    unfold stepAttach at taken
    split at taken
    · next index here =>
        split_ifs at taken with bound
        · cases taken
          exact .attach index bound here
        · cases taken
          exact .returns index (by omega) here
    · cases taken
  case assign =>
    unfold stepAssign at taken
    split at taken
    · next index here =>
        split_ifs at taken with bound
        cases taken
        exact .assign index bound here
    · cases taken
  case resolve index =>
    split_ifs at taken
    cases taken
    exact .resolve index
  case breakPromise index =>
    unfold stepBreakPromise at taken
    split at taken
    · next error here unready is =>
        cases taken
        exact .breakPromise index error here unready is
    · cases taken
  case run index =>
    unfold stepRun at taken
    split at taken
    · next here ready =>
        split_ifs at taken with alive
        · cases taken
          exact .run index here ready
        · cases taken
          exact .cancel index here ready (by simpa using alive)
    · cases taken
  case enter index => exact step_enter_move taken
  case store index =>
    unfold stepStore at taken
    split at taken
    · next value here is =>
        cases taken
        exact .stored index value here is
    · cases taken
  case countDown index =>
    unfold stepCountDown at taken
    split at taken
    · next here =>
        split_ifs at taken with last
        · split at taken
          · next value is =>
              cases taken
              exact .lastValue index value here last is
          · next error is =>
              cases taken
              exact .lastError index error here last is
        · cases taken
          exact .notLast index here last
    · cases taken
  case flag index =>
    unfold stepFlag at taken
    split at taken
    · next here =>
        split_ifs at taken with set
        · cases taken
          exact .late index here set
        · cases taken
          exact .first index here (by simpa using set)
    · cases taken
  case resetHold index =>
    unfold stepResetHold at taken
    split at taken
    · next hold here =>
        split_ifs at taken with bound
        · cases taken
          exact .resetHold index hold bound here
        · cases taken
          exact .allReset index hold (by omega) here
    · cases taken
  case apply index =>
    unfold stepApply at taken
    split at taken
    · next trigger value here is =>
        cases taken
        exact .applyValue index trigger value here is
    · next trigger error here is =>
        cases taken
        exact .applyError index trigger error here is
    · cases taken
  case fire index =>
    unfold stepFire at taken
    split at taken
    · next trigger here =>
        split_ifs at taken with dropped
        · cases taken
          exact .fireDropped index trigger here dropped
        · cases taken
          exact .fire index trigger here (by simpa using dropped)
    · cases taken
  case drop =>
    split_ifs at taken with attached
    cases taken
    exact .drop attached

namespace ContinuationPoint

def trigger : ContinuationPoint → Option Trigger
  | .storing | .counting => some .all
  | .flagging | .resetting _ => some .single
  | .applying trigger | .firing trigger | .finished trigger => some trigger
  | _ => none

def begun : ContinuationPoint → Bool
  | .unattached | .attached => false
  | _ => true

/-- It has found `_single_event_trigger` clear, or set and has returned. -/
def flagged : ContinuationPoint → Bool
  | .resetting _ | .applying .single | .firing .single | .finished .single => true
  | _ => false

def stored : ContinuationPoint → Bool
  | .counting | .applying .all | .firing .all | .finished .all => true
  | _ => false

def uncounted : ContinuationPoint → Nat
  | .applying .all | .firing .all | .finished .all => 0
  | _ => 1

def pending : ContinuationPoint → Nat
  | .resetting _ | .applying _ | .firing _ => 1
  | _ => 0

end ContinuationPoint

/-- What the place of a continuation says about its future and about the flag. -/
structure Report (kind : WhenKind) (outcome : Except Failure Value) (ready flag : Bool)
    (point : ContinuationPoint) : Prop where
  collects : ∀ trigger, point.trigger = some trigger → collector kind outcome = trigger
  ready : point.begun = true → ready = true
  flagged : point.flagged = true → flag = true
  value : point = .storing → ∃ value, outcome = .ok value

def Reports (kind : WhenKind) (outcome : Fin count → Except Failure Value)
    (state : ContextState Value Failure count) : Prop :=
  ∀ index, Report kind (outcome index) (state.ready index) state.singleEventTrigger
    (state.point index)

theorem go_to_each (property : Fin count → ContinuationPoint → Prop) {index : Fin count}
    {point : ContinuationPoint} (given : ∀ other, property other (state.point other))
    (new : property index point) (other : Fin count) :
    property other ((state.goTo index point).point other) := by
  by_cases same : other = index
  · subst same
    simpa [ContextState.goTo] using new
  · simpa [ContextState.goTo, Function.update_of_ne same] using given other

theorem Reports.forPoint {index : Fin count} {point : ContinuationPoint}
    (holds : Reports kind outcome state) (here : state.point index = point) :
    Report kind (outcome index) (state.ready index) state.singleEventTrigger point := by
  rw [← here]
  exact holds index

theorem Reports.goTo {index : Fin count} {point : ContinuationPoint}
    (holds : Reports kind outcome state)
    (new : Report kind (outcome index) (state.ready index) state.singleEventTrigger point) :
    Reports kind outcome (state.goTo index point) :=
  go_to_each (fun other point => Report kind (outcome other) (state.ready other)
    state.singleEventTrigger point) holds new

theorem Report.moves {outcome : Except Failure Value} {ready flag : Bool}
    {point after : ContinuationPoint} (holds : Report kind outcome ready flag point)
    (begun : point.begun = true)
    (collects : ∀ trigger, after.trigger = some trigger → collector kind outcome = trigger)
    (flagged : after.flagged = true → flag = true)
    (value : after = .storing → ∃ value, outcome = .ok value) :
    Report kind outcome ready flag after :=
  ⟨collects, fun _ => holds.ready begun, flagged, value⟩

theorem Reports.resolve (holds : Reports kind outcome state) (index : Fin count) :
    Reports kind outcome { state with ready := Function.update state.ready index true } := by
  intro other
  obtain ⟨collects, ready, flagged, value⟩ := holds other
  refine ⟨collects, fun begun => ?_, flagged, value⟩
  by_cases same : other = index
  · simp [same]
  · simpa [Function.update_of_ne same] using ready begun

theorem Reports.step {label : ContextLabel count} (holds : Reports kind outcome state)
    (move : ContextMove kind outcome state label next) : Reports kind outcome next := by
  cases move with
  | attach index bound here =>
      exact holds.goTo ⟨by simp [ContinuationPoint.trigger], by simp [ContinuationPoint.begun],
        by simp [ContinuationPoint.flagged], by simp⟩
  | resolve index => exact holds.resolve index
  | breakPromise index error here unready is =>
      exact (holds.resolve index).goTo ⟨by simp [ContinuationPoint.trigger], fun _ => by simp,
        by simp [ContinuationPoint.flagged], by simp⟩
  | run index here ready =>
      exact holds.goTo ⟨by simp [ContinuationPoint.trigger], fun _ => ready,
        by simp [ContinuationPoint.flagged], by simp⟩
  | cancel index here ready gone =>
      exact holds.goTo ⟨by simp [ContinuationPoint.trigger], fun _ => ready,
        by simp [ContinuationPoint.flagged], by simp⟩
  | first index here clear =>
      intro other
      by_cases same : other = index
      · subst same
        have old := holds other
        rw [here] at old
        simp only [ContextState.goTo, Function.update_self]
        exact ⟨old.collects, fun _ => old.ready rfl, fun _ => rfl, by simp⟩
      · obtain ⟨collects, ready, flagged, value⟩ := holds other
        simp only [ContextState.goTo, Function.update_of_ne same]
        exact ⟨collects, ready, fun _ => rfl, value⟩
  | store index value here collects is =>
      have old := holds.forPoint here
      exact holds.goTo (old.moves rfl (by simp [ContinuationPoint.trigger, collects])
        (by simp [ContinuationPoint.flagged]) fun _ => ⟨value, is⟩)
  | count index error here collects is =>
      have old := holds.forPoint here
      exact holds.goTo (old.moves rfl (by simp [ContinuationPoint.trigger, collects])
        (by simp [ContinuationPoint.flagged]) (by simp))
  | single index here collects =>
      have old := holds.forPoint here
      exact holds.goTo (old.moves rfl (by simp [ContinuationPoint.trigger, collects])
        (by simp [ContinuationPoint.flagged]) (by simp))
  | leave index here gone =>
      have old := holds.forPoint here
      exact holds.goTo (old.moves rfl (by simp [ContinuationPoint.trigger])
        (by simp [ContinuationPoint.flagged]) (by simp))
  | stored index value here is =>
      have old := holds.forPoint here
      exact holds.goTo (old.moves rfl old.collects (by simp [ContinuationPoint.flagged]) (by simp))
  | notLast index here more =>
      have old := holds.forPoint here
      exact holds.goTo (old.moves rfl old.collects (by simp [ContinuationPoint.flagged]) (by simp))
  | lastValue index value here last is =>
      have old := holds.forPoint here
      exact holds.goTo (old.moves rfl old.collects (by simp [ContinuationPoint.flagged]) (by simp))
  | lastError index error here last is =>
      have old := holds.forPoint here
      exact holds.goTo (old.moves rfl old.collects (by simp [ContinuationPoint.flagged]) (by simp))
  | late index here set =>
      have old := holds.forPoint here
      exact holds.goTo (old.moves rfl old.collects (fun _ => set) (by simp))
  | resetHold index hold bound here =>
      have old := holds.forPoint here
      exact holds.goTo (old.moves rfl old.collects old.flagged (by simp))
  | allReset index hold all here =>
      have old := holds.forPoint here
      exact holds.goTo (old.moves rfl old.collects old.flagged (by simp))
  | applyValue index trigger value here is =>
      have old := holds.forPoint here
      refine holds.goTo (old.moves rfl old.collects (fun flagged => old.flagged ?_) (by simp))
      cases trigger <;> exact flagged
  | applyError index trigger error here is =>
      have old := holds.forPoint here
      refine holds.goTo (old.moves rfl old.collects (fun flagged => old.flagged ?_) (by simp))
      cases trigger <;> exact flagged
  | fire index trigger here kept =>
      have old := holds.forPoint here
      refine holds.goTo (old.moves rfl old.collects (fun flagged => old.flagged ?_) (by simp))
      cases trigger <;> exact flagged
  | fireDropped index trigger here dropped =>
      have old := holds.forPoint here
      refine holds.goTo (old.moves rfl old.collects (fun flagged => old.flagged ?_) (by simp))
      cases trigger <;> exact flagged
  | _ => exact holds

/-- `firing`: the one that has set `_single_event_trigger`, or the one that has brought
`_remaining` to zero, is to call `_f` or has called it, and nobody else. -/
structure ReportCounts (state : ContextState Value Failure count) : Prop where
  counted : state.remaining = tally ContinuationPoint.uncounted state.point
  firing : tally ContinuationPoint.pending state.point + state.fires =
    (if state.singleEventTrigger then 1 else 0) + (if state.remaining = 0 then 1 else 0)
  winner : state.singleEventTrigger = true → ∃ index, (state.point index).flagged = true

theorem point_update_tally (weight : ContinuationPoint → Nat) {index : Fin count}
    {old : ContinuationPoint} (here : state.point index = old) (point : ContinuationPoint) :
    tally weight (Function.update state.point index point) + weight old =
      tally weight state.point + weight point := by
  rw [← here]
  exact tally_update weight state.point index point

theorem flagged_stays {index : Fin count} {old point : ContinuationPoint}
    (here : state.point index = old) (stays : old.flagged = true → point.flagged = true)
    (winner : ∃ other, (state.point other).flagged = true) :
    ∃ other, ((state.goTo index point).point other).flagged = true := by
  obtain ⟨other, flagged⟩ := winner
  by_cases same : other = index
  · subst same
    rw [here] at flagged
    exact ⟨other, by simpa [ContextState.goTo] using stays flagged⟩
  · exact ⟨other, by simpa [ContextState.goTo, Function.update_of_ne same] using flagged⟩

theorem ReportCounts.goTo {index : Fin count} {old point : ContinuationPoint}
    (holds : ReportCounts state) (here : state.point index = old)
    (uncounted : point.uncounted = old.uncounted) (pending : point.pending = old.pending)
    (flagged : old.flagged = true → point.flagged = true) :
    ReportCounts (state.goTo index point) := by
  obtain ⟨counted, firing, winner⟩ := holds
  have one := point_update_tally ContinuationPoint.uncounted here point
  have two := point_update_tally ContinuationPoint.pending here point
  rw [uncounted] at one
  rw [pending] at two
  have sameUncounted := Nat.add_right_cancel one
  have samePending := Nat.add_right_cancel two
  refine ⟨counted.trans sameUncounted.symm, ?_,
    fun set => flagged_stays here flagged (winner set)⟩
  rw [← samePending] at firing
  exact firing

theorem ReportCounts.counts {index : Fin count} {point : ContinuationPoint}
    (holds : ReportCounts state) (here : state.point index = .counting)
    (uncounted : point.uncounted = 0)
    (pending : point.pending = if state.remaining - 1 = 0 then 1 else 0) :
    ReportCounts
      { state.goTo index point with remaining := state.remaining - 1 } := by
  obtain ⟨counted, firing, winner⟩ := holds
  have one := point_update_tally ContinuationPoint.uncounted here point
  have two := point_update_tally ContinuationPoint.pending here point
  have some := weight_le_tally ContinuationPoint.uncounted state.point index
  have weighs : ContinuationPoint.counting.uncounted = 1 := rfl
  have idle : ContinuationPoint.counting.pending = 0 := rfl
  rw [here, weighs] at some
  rw [uncounted, weighs] at one
  rw [pending, idle] at two
  have more : state.remaining ≠ 0 := by omega
  rw [if_neg more] at firing
  refine ⟨?_, ?_, fun set => flagged_stays here (fun strange => by cases strange) (winner set)⟩
  · change state.remaining - 1 = tally _ (Function.update state.point index point)
    omega
  · change tally _ (Function.update state.point index point) + state.fires =
      (if state.singleEventTrigger then 1 else 0) + (if state.remaining - 1 = 0 then 1 else 0)
    omega

theorem ReportCounts.fireNext {index : Fin count} {trigger : Trigger}
    (holds : ReportCounts state) (here : state.point index = .applying trigger) :
    ReportCounts (state.goTo index (.firing trigger)) := by
  have same : (ContinuationPoint.firing trigger).uncounted =
      (ContinuationPoint.applying trigger).uncounted := by
    cases trigger <;> rfl
  have stays : (ContinuationPoint.applying trigger).flagged = true →
      (ContinuationPoint.firing trigger).flagged = true := by
    cases trigger <;> exact id
  exact holds.goTo here same rfl stays

theorem ReportCounts.fires {index : Fin count} {trigger : Trigger}
    (holds : ReportCounts state) (here : state.point index = .firing trigger) :
    ReportCounts
      { state.goTo index (.finished trigger) with fires := state.fires + 1 } := by
  obtain ⟨counted, firing, winner⟩ := holds
  have one := point_update_tally ContinuationPoint.uncounted here (.finished trigger)
  have two := point_update_tally ContinuationPoint.pending here (.finished trigger)
  have same : (ContinuationPoint.finished trigger).uncounted =
      (ContinuationPoint.firing trigger).uncounted := by
    cases trigger <;> rfl
  rw [same] at one
  simp only [ContinuationPoint.pending] at two
  have stays : (ContinuationPoint.firing trigger).flagged = true →
      (ContinuationPoint.finished trigger).flagged = true := by
    cases trigger <;> exact id
  refine ⟨counted.trans (Nat.add_right_cancel one).symm, ?_,
    fun set => flagged_stays here stays (winner set)⟩
  refine Eq.trans ?_ firing
  change tally _ (Function.update state.point index (.finished trigger)) + (state.fires + 1) = _
  omega

theorem ReportCounts.step {label : ContextLabel count}
    (fresh : ∀ index : Nat, state.attacher = .attaching index → ∀ bound : index < count,
      state.point ⟨index, bound⟩ = .unattached)
    (holds : ReportCounts state)
    (move : ContextMove kind outcome state label next) : ReportCounts next := by
  cases move with
  | attach index bound here =>
      have moved := holds.goTo (fresh index here bound)
        (rfl : ContinuationPoint.attached.uncounted = _) rfl id
      exact ⟨moved.counted, moved.firing, moved.winner⟩
  | breakPromise index error here unready is =>
      have moved := holds.goTo here (rfl : ContinuationPoint.broken.uncounted = _) rfl id
      exact ⟨moved.counted, moved.firing, moved.winner⟩
  | run index here ready => exact holds.goTo here rfl rfl id
  | cancel index here ready gone => exact holds.goTo here rfl rfl id
  | store index value here collects is => exact holds.goTo here rfl rfl id
  | count index error here collects is => exact holds.goTo here rfl rfl id
  | single index here collects => exact holds.goTo here rfl rfl id
  | leave index here gone => exact holds.goTo here rfl rfl id
  | stored index value here is =>
      have moved := holds.goTo here (rfl : ContinuationPoint.counting.uncounted = _) rfl id
      exact ⟨moved.counted, moved.firing, moved.winner⟩
  | notLast index here more =>
      exact holds.counts here rfl (by simp [more, ContinuationPoint.pending])
  | lastValue index value here last is =>
      exact holds.counts here rfl (by simp [last, ContinuationPoint.pending])
  | lastError index error here last is =>
      exact holds.counts here rfl (by simp [last, ContinuationPoint.pending])
  | late index here set => exact holds.goTo here rfl rfl fun _ => rfl
  | first index here clear =>
      obtain ⟨counted, firing, winner⟩ := holds
      have one := point_update_tally ContinuationPoint.uncounted here (.resetting 0)
      have two := point_update_tally ContinuationPoint.pending here (.resetting 0)
      simp only [ContinuationPoint.uncounted, ContinuationPoint.pending] at one two
      rw [clear] at firing
      refine ⟨?_, ?_, fun _ => ⟨index, by simp [ContextState.goTo, ContinuationPoint.flagged]⟩⟩
      · change state.remaining = tally _ (Function.update state.point index (.resetting 0))
        omega
      · change tally _ (Function.update state.point index (.resetting 0)) + state.fires =
          1 + (if state.remaining = 0 then 1 else 0)
        simp only [Bool.false_eq_true, if_false] at firing
        omega
  | resetHold index hold bound here =>
      have moved := holds.goTo here
        (rfl : (ContinuationPoint.resetting (hold + 1)).uncounted = _) rfl id
      exact ⟨moved.counted, moved.firing, moved.winner⟩
  | allReset index hold all here => exact holds.goTo here rfl rfl id
  | applyValue index trigger value here is =>
      have moved := holds.fireNext here
      exact ⟨moved.counted, moved.firing, moved.winner⟩
  | applyError index trigger error here is =>
      have moved := holds.fireNext here
      exact ⟨moved.counted, moved.firing, moved.winner⟩
  | fire index trigger here kept =>
      have moved := holds.fires here
      exact ⟨moved.counted, moved.firing, moved.winner⟩
  | fireDropped index trigger here dropped => exact holds.fires here
  | _ => exact ⟨holds.counted, holds.firing, holds.winner⟩

end Schedulers.Stlab
