import Schedulers.Stlab.WhenContextSteps

/-!
# The holds and the results of a `common_context`

While the function waits and nobody has reset the holds no continuation is lost; and
whoever calls `_f` finds in the context what the futures that are ready justify.
-/

namespace Schedulers.Stlab

open Schedulers.TransitionSystem Schedulers.Tally

set_option autoImplicit false

variable {Value Failure : Type} {count : Nat} {kind : WhenKind}
  {outcome : Fin count → Except Failure Value} {state next : ContextState Value Failure count}

def AttacherPoint.attached (count : Nat) : AttacherPoint → Nat
  | .attaching index => index
  | .assigning index => index + 1
  | .returned => count

def AttacherPoint.assigned (count : Nat) : AttacherPoint → Nat
  | .attaching index => index
  | .assigning index => index
  | .returned => count

/-- A continuation is cancelled only once `_single_event_trigger` is set, or the function
has been executed, or the returned future dropped. -/
structure Attaching (state : ContextState Value Failure count) : Prop where
  unattached : ∀ index : Fin count,
    state.point index = .unattached ↔ state.attacher.attached count ≤ index
  bound : ∀ index, state.attacher = .assigning index → index < count
  assigned : state.singleEventTrigger = false →
    ∀ index : Fin count, (index : Nat) < state.attacher.assigned count → state.holds index = true
  cancelled : ∀ index, state.point index = .cancelled →
    state.singleEventTrigger = true ∨ state.waits = false
  gone : ∀ index, state.point index = .contextGone → state.waits = false

theorem Attaching.fresh (holds : Attaching state) (index : Nat)
    (here : state.attacher = .attaching index) (bound : index < count) :
    state.point ⟨index, bound⟩ = .unattached := by
  refine (holds.unattached _).mpr ?_
  rw [here]
  exact Nat.le_refl _

theorem Attaching.goTo {index : Fin count} {point : ContinuationPoint} (holds : Attaching state)
    (before : state.point index ≠ .unattached) (after : point ≠ .unattached)
    (cancelled : point = .cancelled → state.singleEventTrigger = true ∨ state.waits = false)
    (gone : point = .contextGone → state.waits = false) : Attaching (state.goTo index point) where
  unattached := by
    refine go_to_each (fun other point => point = .unattached ↔
      state.attacher.attached count ≤ other) holds.unattached ?_
    refine ⟨fun is => absurd is after, fun beyond => absurd ?_ before⟩
    exact (holds.unattached index).mpr beyond
  bound := holds.bound
  assigned := holds.assigned
  cancelled := go_to_each (fun _ point => point = .cancelled →
    state.singleEventTrigger = true ∨ state.waits = false) holds.cancelled cancelled
  gone := go_to_each (fun _ point => point = .contextGone → state.waits = false)
    holds.gone gone

theorem Attaching.moves {index : Fin count} {old : ContinuationPoint} (holds : Attaching state)
    (here : state.point index = old) (before : old ≠ .unattached) (point : ContinuationPoint)
    (after : point ≠ .unattached ∧ point ≠ .cancelled ∧ point ≠ .contextGone) :
    Attaching (state.goTo index point) :=
  holds.goTo (here ▸ before) after.1 (fun is => absurd is after.2.1)
    (fun is => absurd is after.2.2)

theorem Attaching.alive {index : Fin count} (holds : Attaching state)
    (attached : state.point index ≠ .unattached) (clear : state.singleEventTrigger = false)
    (waits : state.waits = true) : state.continuationAlive index = true := by
  have within : (index : Nat) < state.attacher.attached count := by
    by_contra beyond
    exact attached ((holds.unattached index).mpr (by omega))
  have alive : state.contextAlive = true := by simp [ContextState.contextAlive, waits]
  unfold ContextState.continuationAlive
  by_cases assigning : state.attacher = .assigning index
  · simp [assigning]
  · have held : state.holds index = true := by
      refine holds.assigned clear index ?_
      cases attacher : state.attacher with
      | assigning other =>
          rw [attacher] at within assigning
          have apart : (index : Nat) ≠ other := fun same => assigning (by rw [same])
          simp only [AttacherPoint.attached] at within
          simp only [AttacherPoint.assigned]
          omega
      | attaching other => rw [attacher] at within; exact within
      | returned => rw [attacher] at within; exact within
    simp [alive, held]

theorem Attaching.ends {later : ContextState Value Failure count} (holds : Attaching state)
    (attacher : later.attacher = state.attacher) (point : later.point = state.point)
    (kept : later.holds = state.holds)
    (flag : later.singleEventTrigger = state.singleEventTrigger)
    (ended : later.waits = false) : Attaching later where
  unattached := by
    rw [attacher, point]
    exact holds.unattached
  bound := by
    rw [attacher]
    exact holds.bound
  assigned := by
    rw [attacher, kept, flag]
    exact holds.assigned
  cancelled _ _ := .inr ended
  gone _ _ := ended

theorem Attaching.attach {index : Nat} (holds : Attaching state) (bound : index < count)
    (here : state.attacher = .attaching index) :
    Attaching { state.goTo ⟨index, bound⟩ .attached with attacher := .assigning index } := by
  obtain ⟨unattached, _, assigned, cancelled, gone⟩ := holds
  rw [here] at unattached assigned
  refine ⟨fun other => ?_, fun other is => ?_, assigned, ?_, ?_⟩
  · by_cases same : other = ⟨index, bound⟩
    · subst same
      simp [ContextState.goTo, AttacherPoint.attached]
    · have apart : (other : Nat) ≠ index := fun equal => same (Fin.ext equal)
      simp only [ContextState.goTo, Function.update_of_ne same, unattached other,
        AttacherPoint.attached]
      omega
  · cases is
    exact bound
  · exact go_to_each (fun _ point => point = .cancelled →
      state.singleEventTrigger = true ∨ state.waits = false) cancelled (by simp)
  · exact go_to_each (fun _ point => point = .contextGone → state.waits = false) gone (by simp)

theorem Attaching.assign {index : Nat} (holds : Attaching state) (bound : index < count)
    (here : state.attacher = .assigning index) :
    Attaching { state with
      holds := Function.update state.holds ⟨index, bound⟩ true
      attacher := .attaching (index + 1) } := by
  obtain ⟨unattached, _, assigned, cancelled, gone⟩ := holds
  rw [here] at unattached assigned
  refine ⟨unattached, (fun _ is => by cases is), fun clear other below => ?_, cancelled, gone⟩
  by_cases same : other = ⟨index, bound⟩
  · simp [same]
  · have apart : (other : Nat) ≠ index := fun equal => same (Fin.ext equal)
    simp only [AttacherPoint.assigned] at below
    simp only [Function.update_of_ne same]
    exact assigned clear other (by simp only [AttacherPoint.assigned]; omega)

theorem Attaching.returns {index : Nat} (holds : Attaching state) (all : count ≤ index)
    (here : state.attacher = .attaching index) :
    Attaching { state with attacher := .returned } := by
  obtain ⟨unattached, _, assigned, cancelled, gone⟩ := holds
  rw [here] at unattached assigned
  refine ⟨fun other => ?_, (fun _ is => by cases is), fun clear other below => ?_,
    cancelled, gone⟩
  · have within := other.isLt
    simp only [unattached other, AttacherPoint.attached]
    omega
  · exact assigned clear other (below.trans_le all)

theorem Attaching.step {label : ContextLabel count} (reports : Reports kind outcome state)
    (holds : Attaching state) (move : ContextMove kind outcome state label next) :
    Attaching next := by
  have flagSet : ∀ {index point}, state.point index = point → point.flagged = true →
      state.singleEventTrigger = true :=
    fun here flagged => (reports.forPoint here).flagged flagged
  cases move with
  | attach index bound here => exact holds.attach bound here
  | returns index all here => exact holds.returns all here
  | assign index bound here => exact holds.assign bound here
  | resolve index =>
      exact ⟨holds.unattached, holds.bound, holds.assigned, holds.cancelled, holds.gone⟩
  | breakPromise index error here unready is =>
      have moved := holds.moves here (by simp) .broken (by simp)
      exact ⟨moved.unattached, moved.bound, moved.assigned, moved.cancelled, moved.gone⟩
  | drop attached =>
      exact holds.ends rfl rfl rfl rfl (by simp [ContextState.waits])
  | cancel index here ready gone =>
      refine holds.goTo (by simp [here]) (by simp) (fun _ => ?_) (by simp)
      by_contra kept
      push Not at kept
      have attached : state.point index ≠ .unattached := by simp [here]
      have alive := holds.alive attached (by simpa using kept.1) (by simpa using kept.2)
      rw [gone] at alive
      cases alive
  | leave index here gone =>
      refine holds.goTo (by simp [here]) (by simp) (by simp) (fun _ => ?_)
      by_contra waits
      simp [ContextState.contextAlive, waits] at gone
  | first index here clear =>
      have moved := holds.moves here (by simp) (.resetting 0) (by simp)
      exact ⟨moved.unattached, moved.bound, (fun strange => by cases strange),
        fun _ _ => .inl rfl, moved.gone⟩
  | resetHold index hold bound here =>
      have set := flagSet here rfl
      have moved := holds.moves here (by simp) (.resetting (hold + 1)) (by simp)
      exact ⟨moved.unattached, moved.bound, fun clear => absurd (set.symm.trans clear) (by simp),
        moved.cancelled, moved.gone⟩
  | fire index trigger here kept =>
      have moved := holds.moves here (by simp) (.finished trigger) (by simp)
      exact moved.ends rfl rfl rfl rfl (by simp [ContextState.waits])
  | fireDropped index trigger here dropped =>
      have moved := holds.moves here (by simp) (.finished trigger) (by simp)
      exact moved.ends rfl rfl rfl rfl (by simp [ContextState.waits])
  | stored index value here is =>
      have moved := holds.moves here (by simp) .counting (by simp)
      exact ⟨moved.unattached, moved.bound, moved.assigned, moved.cancelled, moved.gone⟩
  | applyValue index trigger value here is =>
      have moved := holds.moves here (by simp) (.firing trigger) (by simp)
      exact ⟨moved.unattached, moved.bound, moved.assigned, moved.cancelled, moved.gone⟩
  | applyError index trigger error here is =>
      have moved := holds.moves here (by simp) (.firing trigger) (by simp)
      exact ⟨moved.unattached, moved.bound, moved.assigned, moved.cancelled, moved.gone⟩
  | notLast index here more =>
      have moved := holds.moves here (by simp) (.finished .all) (by simp)
      exact ⟨moved.unattached, moved.bound, moved.assigned, moved.cancelled, moved.gone⟩
  | lastValue index value here last is =>
      have moved := holds.moves here (by simp) (.firing .all) (by simp)
      exact ⟨moved.unattached, moved.bound, moved.assigned, moved.cancelled, moved.gone⟩
  | lastError index error here last is =>
      have moved := holds.moves here (by simp) (.applying .all) (by simp)
      exact ⟨moved.unattached, moved.bound, moved.assigned, moved.cancelled, moved.gone⟩
  | run index here ready => exact holds.moves here (by simp) _ (by simp)
  | store index value here collects is => exact holds.moves here (by simp) _ (by simp)
  | count index error here collects is => exact holds.moves here (by simp) _ (by simp)
  | single index here collects => exact holds.moves here (by simp) _ (by simp)
  | late index here set => exact holds.moves here (by simp) _ (by simp)
  | allReset index hold all here => exact holds.moves here (by simp) _ (by simp)

/-- What has been executed is due to futures that are ready. -/
def Executed.Right (kind : WhenKind) (outcome : Fin count → Except Failure Value)
    (ready : Fin count → Bool) : Executed Value Failure count → Prop
  | .failed error =>
      (∃ index, ready index = true ∧ outcome index = .error error) ∧
        (kind = .whenAny → ∀ index, ready index = true ∧ ∃ other, outcome index = .error other)
  | .allOf results =>
      kind = .whenAll ∧ ∀ index, ready index = true ∧
        ∃ value, outcome index = .ok value ∧ results index = some value
  | .anyOf result =>
      kind = .whenAny ∧ ∃ value index, result = some (value, index) ∧ ready index = true ∧
        outcome index = .ok value

theorem Executed.Right.later {executed : Executed Value Failure count}
    {ready after : Fin count → Bool} (right : executed.Right kind outcome ready)
    (more : ∀ index, ready index = true → after index = true) :
    executed.Right kind outcome after := by
  cases executed with
  | failed error =>
      obtain ⟨⟨index, is, error⟩, all⟩ := right
      exact ⟨⟨index, more index is, error⟩, fun any index => ⟨more index (all any index).1,
        (all any index).2⟩⟩
  | allOf results =>
      obtain ⟨is, all⟩ := right
      exact ⟨is, fun index => ⟨more index (all index).1, (all index).2⟩⟩
  | anyOf result =>
      obtain ⟨is, value, index, found, ready, ok⟩ := right
      exact ⟨is, value, index, found, more index ready, ok⟩

structure ContextValues (kind : WhenKind) (outcome : Fin count → Except Failure Value)
    (state : ContextState Value Failure count) : Prop where
  last : ∀ index, state.point index = .applying .all ∨ state.point index = .firing .all →
    state.remaining = 0
  results : ∀ index, (state.point index).stored = true →
    ∀ value, outcome index = .ok value → state.results index = some value
  result : ∀ value index, state.result = some (value, index) →
    state.ready index = true ∧ outcome index = .ok value
  exception : ∀ error, state.exception = some error → ∃ index, state.ready index = true ∧
    outcome index = .error error ∧
      (collector kind (outcome index) = .all → state.remaining = 0)
  raised : ∀ index trigger, state.point index = .firing trigger →
    ∀ error, outcome index = .error error → state.exception ≠ none
  found : ∀ index, state.point index = .firing .single →
    ∀ value, outcome index = .ok value → state.result ≠ none

theorem all_counted (counts : ReportCounts state) (none : state.remaining = 0)
    (index : Fin count) :
    state.point index = .applying .all ∨ state.point index = .firing .all ∨
      state.point index = .finished .all := by
  have zero := tally_zero_iff.mp (counts.counted.symm.trans none) index
  cases point : state.point index with
  | applying trigger => cases trigger <;> simp_all [ContinuationPoint.uncounted]
  | firing trigger => cases trigger <;> simp_all [ContinuationPoint.uncounted]
  | finished trigger => cases trigger <;> simp_all [ContinuationPoint.uncounted]
  | _ => simp [point, ContinuationPoint.uncounted] at zero

theorem counted_collects (reports : Reports kind outcome state)
    (counts : ReportCounts state) (none : state.remaining = 0)
    (index : Fin count) :
    collector kind (outcome index) = .all ∧ state.ready index = true ∧
      (state.point index).stored = true := by
  rcases all_counted counts none index with here | here | here <;>
    exact ⟨(reports.forPoint here).collects .all rfl, (reports.forPoint here).ready rfl,
      by rw [here]; rfl⟩

theorem flagged_collects (reports : Reports kind outcome state) {index : Fin count}
    (flagged : (state.point index).flagged = true) :
    collector kind (outcome index) = .single := by
  refine (reports index).collects .single ?_
  cases point : state.point index with
  | applying trigger | firing trigger | finished trigger =>
      cases trigger <;> simp_all [ContinuationPoint.flagged, ContinuationPoint.trigger]
  | resetting hold => rfl
  | _ => simp [point, ContinuationPoint.flagged] at flagged

theorem one_collector (reports : Reports kind outcome state)
    (counts : ReportCounts state) (set : state.singleEventTrigger = true) :
    state.remaining ≠ 0 := by
  intro none
  obtain ⟨index, flagged⟩ := counts.winner set
  have single := flagged_collects reports flagged
  rw [(counted_collects reports counts none index).1] at single
  cases single

theorem collects_all {result : Except Failure Value} (collects : collector kind result = .all) :
    (kind = .whenAll ∧ ∃ value, result = .ok value) ∨
      (kind = .whenAny ∧ ∃ error, result = .error error) := by
  cases kind <;> cases result <;> simp_all [collector]

theorem collects_single {result : Except Failure Value}
    (collects : collector kind result = .single) :
    (kind = .whenAll ∧ ∃ error, result = .error error) ∨
      (kind = .whenAny ∧ ∃ value, result = .ok value) := by
  cases kind <;> cases result <;> simp_all [collector]

theorem execute_all_right (reports : Reports kind outcome state)
    (counts : ReportCounts state) (values : ContextValues kind outcome state)
    {index : Fin count} (here : state.point index = .firing .all) :
    (state.execute kind).Right kind outcome state.ready := by
  have counted := counted_collects reports counts (values.last index (.inr here))
  rcases collects_all (counted index).1 with ⟨rfl, value, is⟩ | ⟨rfl, error, is⟩
  · have none : state.exception = none := by
      by_contra some
      obtain ⟨error, exception⟩ := Option.ne_none_iff_exists'.mp some
      obtain ⟨failing, _, failed, _⟩ := values.exception error exception
      have collects := (counted failing).1
      rw [failed] at collects
      cases collects
    simp only [ContextState.execute, none]
    refine ⟨rfl, fun other => ⟨(counted other).2.1, ?_⟩⟩
    rcases collects_all (counted other).1 with ⟨_, value, is⟩ | ⟨strange, _⟩
    · exact ⟨value, is, values.results other (counted other).2.2 value is⟩
    · cases strange
  · obtain ⟨error, exception⟩ := Option.ne_none_iff_exists'.mp (values.raised index _ here _ is)
    obtain ⟨failing, ready, failed, _⟩ := values.exception error exception
    simp only [ContextState.execute, exception]
    refine ⟨⟨failing, ready, failed⟩, fun _ other => ⟨(counted other).2.1, ?_⟩⟩
    rcases collects_all (counted other).1 with ⟨strange, _⟩ | ⟨_, failed⟩
    · cases strange
    · exact failed

theorem execute_single_right (reports : Reports kind outcome state)
    (counts : ReportCounts state) (values : ContextValues kind outcome state)
    {index : Fin count} (here : state.point index = .firing .single) :
    (state.execute kind).Right kind outcome state.ready := by
  have report := reports.forPoint here
  have more := one_collector reports counts (report.flagged rfl)
  rcases collects_single (report.collects .single rfl) with ⟨rfl, error, is⟩ | ⟨rfl, value, is⟩
  · obtain ⟨error, exception⟩ := Option.ne_none_iff_exists'.mp (values.raised index _ here _ is)
    obtain ⟨failing, ready, failed, _⟩ := values.exception error exception
    simp only [ContextState.execute, exception]
    exact ⟨⟨failing, ready, failed⟩, fun strange => by cases strange⟩
  · have none : state.exception = none := by
      by_contra some
      obtain ⟨error, exception⟩ := Option.ne_none_iff_exists'.mp some
      obtain ⟨failing, _, failed, last⟩ := values.exception error exception
      rw [failed] at last
      exact more (last rfl)
    obtain ⟨⟨value, first⟩, result⟩ :=
      Option.ne_none_iff_exists'.mp (values.found index here value is)
    simp only [ContextState.execute, none]
    exact ⟨rfl, value, first, result, values.result value first result⟩

theorem ContextValues.goTo {index : Fin count} {point : ContinuationPoint}
    (holds : ContextValues kind outcome state)
    (last : point = .applying .all ∨ point = .firing .all → state.remaining = 0)
    (results : point.stored = true →
      ∀ value, outcome index = .ok value → state.results index = some value)
    (firing : ∀ trigger, point ≠ .firing trigger) :
    ContextValues kind outcome (state.goTo index point) where
  last := go_to_each (fun _ point => point = .applying .all ∨ point = .firing .all →
    state.remaining = 0) holds.last last
  results := go_to_each (fun other point => point.stored = true →
    ∀ value, outcome other = .ok value → state.results other = some value) holds.results results
  result := holds.result
  exception := holds.exception
  raised := go_to_each (fun other point => ∀ trigger, point = .firing trigger →
    ∀ error, outcome other = .error error → state.exception ≠ none) holds.raised
    fun trigger is => absurd is (firing trigger)
  found := go_to_each (fun other point => point = .firing .single →
    ∀ value, outcome other = .ok value → state.result ≠ none) holds.found
    fun is => absurd is (firing .single)

theorem ContextValues.passes (holds : ContextValues kind outcome state) (index : Fin count)
    (point : ContinuationPoint) (unstored : point.stored = false)
    (firing : ∀ trigger, point ≠ .firing trigger) :
    ContextValues kind outcome (state.goTo index point) := by
  refine holds.goTo (fun is => ?_) (fun stored => ?_) firing
  · rcases is with is | is <;> rw [is] at unstored <;> cases unstored
  · rw [unstored] at stored
    cases stored

theorem ContextValues.resolve (holds : ContextValues kind outcome state) (index : Fin count) :
    ContextValues kind outcome
      { state with ready := Function.update state.ready index true } := by
  have more : ∀ other, state.ready other = true →
      Function.update state.ready index true other = true := by
    intro other ready
    by_cases same : other = index
    · simp [same]
    · simpa [Function.update_of_ne same] using ready
  refine ⟨holds.last, holds.results, fun value other is => ?_, fun error is => ?_, holds.raised,
    holds.found⟩
  · obtain ⟨ready, ok⟩ := holds.result value other is
    exact ⟨more other ready, ok⟩
  · obtain ⟨other, ready, failed, last⟩ := holds.exception error is
    exact ⟨other, more other ready, failed, last⟩

theorem ContextValues.stores {index : Fin count} {value : Value}
    (holds : ContextValues kind outcome state) (is : outcome index = .ok value) :
    ContextValues kind outcome
      { state.goTo index .counting with
        results := Function.update state.results index (some value) } := by
  refine ⟨?_, fun other stored result ok => ?_, holds.result, holds.exception, ?_, ?_⟩
  · exact go_to_each (fun _ point => point = .applying .all ∨ point = .firing .all →
      state.remaining = 0) holds.last (by simp)
  · by_cases same : other = index
    · subst same
      rw [is] at ok
      cases ok
      exact Function.update_self ..
    · have before : (state.point other).stored = true := by
        simpa [ContextState.goTo, Function.update_of_ne same] using stored
      simp only [Function.update_of_ne same]
      exact holds.results other before result ok
  · exact go_to_each (fun other point => ∀ trigger, point = .firing trigger →
      ∀ error, outcome other = .error error → state.exception ≠ none) holds.raised (by simp)
  · exact go_to_each (fun other point => point = .firing .single →
      ∀ value, outcome other = .ok value → state.result ≠ none) holds.found (by simp)

/-- A report that is counted: the next place is `firing` only for a value. -/
theorem ContextValues.counts {index : Fin count} {point : ContinuationPoint}
    (holds : ContextValues kind outcome state) (here : state.point index = .counting)
    (last : point = .applying .all ∨ point = .firing .all → state.remaining - 1 = 0)
    (raised : ∀ trigger, point = .firing trigger → trigger = .all ∧
      ∃ value, outcome index = .ok value) :
    ContextValues kind outcome
      { state.goTo index point with remaining := state.remaining - 1 } := by
  have still : state.remaining = 0 → state.remaining - 1 = 0 := fun none => by omega
  refine ⟨?_, ?_, holds.result, fun error is => ?_, ?_, ?_⟩
  · exact go_to_each (fun _ point => point = .applying .all ∨ point = .firing .all →
      state.remaining - 1 = 0) (fun other is => still (holds.last other is)) last
  · exact go_to_each (fun other point => point.stored = true →
      ∀ value, outcome other = .ok value → state.results other = some value) holds.results
      fun _ => holds.results index (by rw [here]; rfl)
  · obtain ⟨failing, ready, failed, none⟩ := holds.exception error is
    exact ⟨failing, ready, failed, fun all => still (none all)⟩
  · refine go_to_each (fun other point => ∀ trigger, point = .firing trigger →
      ∀ error, outcome other = .error error → state.exception ≠ none) holds.raised ?_
    intro trigger is error failed
    obtain ⟨_, value, ok⟩ := raised trigger is
    rw [failed] at ok
    cases ok
  · refine go_to_each (fun other point => point = .firing .single →
      ∀ value, outcome other = .ok value → state.result ≠ none) holds.found ?_
    intro is
    cases (raised .single is).1

theorem firing_stored {trigger : Trigger}
    (stored : (ContinuationPoint.firing trigger).stored = true) : trigger = .all := by
  cases trigger with
  | all => rfl
  | single => cases stored

theorem ContextValues.applies {index : Fin count} {trigger : Trigger}
    {later : ContextState Value Failure count} (holds : ContextValues kind outcome state)
    (here : state.point index = .applying trigger)
    (point : later.point = (state.goTo index (.firing trigger)).point)
    (remaining : later.remaining = state.remaining) (results : later.results = state.results)
    (result : ∀ value other, later.result = some (value, other) →
      later.ready other = true ∧ outcome other = .ok value)
    (exception : ∀ error, later.exception = some error → ∃ other, later.ready other = true ∧
      outcome other = .error error ∧
        (collector kind (outcome other) = .all → later.remaining = 0))
    (keepsException : state.exception ≠ none → later.exception ≠ none)
    (keepsResult : state.result ≠ none → later.result ≠ none)
    (raised : ∀ error, outcome index = .error error → later.exception ≠ none)
    (found : ∀ value, outcome index = .ok value → later.result ≠ none) :
    ContextValues kind outcome later where
  last := by
    rw [point, remaining]
    refine go_to_each (fun _ point => point = .applying .all ∨ point = .firing .all →
      state.remaining = 0) holds.last fun is => holds.last index (.inl ?_)
    rw [here]
    rcases is with is | is <;> cases is
    rfl
  results := by
    rw [point, results]
    refine go_to_each (fun other point => point.stored = true →
      ∀ value, outcome other = .ok value → state.results other = some value) holds.results
      fun stored => holds.results index ?_
    rw [here, firing_stored stored]
    rfl
  result := result
  exception := exception
  raised := by
    rw [point]
    exact go_to_each (fun other point => ∀ trigger, point = .firing trigger →
      ∀ error, outcome other = .error error → later.exception ≠ none)
      (fun other trigger is error failed =>
        keepsException (holds.raised other trigger is error failed))
      fun _ _ => raised
  found := by
    rw [point]
    exact go_to_each (fun other point => point = .firing .single →
      ∀ value, outcome other = .ok value → later.result ≠ none)
      (fun other is value ok => keepsResult (holds.found other is value ok)) fun _ => found

theorem ContextValues.fires {index : Fin count} {trigger : Trigger}
    (holds : ContextValues kind outcome state) (here : state.point index = .firing trigger) :
    ContextValues kind outcome (state.goTo index (.finished trigger)) := by
  refine holds.goTo (by simp) (fun stored => holds.results index ?_) (by simp)
  rw [here]
  cases trigger with
  | all => rfl
  | single => cases stored

theorem ContextValues.step {label : ContextLabel count} (reports : Reports kind outcome state)
    (holds : ContextValues kind outcome state)
    (move : ContextMove kind outcome state label next) : ContextValues kind outcome next := by
  cases move with
  | attach index bound here =>
      have moved := holds.passes ⟨index, bound⟩ .attached rfl (by simp)
      exact ⟨moved.last, moved.results, moved.result, moved.exception, moved.raised, moved.found⟩
  | resolve index => exact holds.resolve index
  | breakPromise index error here unready is =>
      exact (holds.resolve index).passes index .broken rfl (by simp)
  | run index here ready => exact holds.passes index _ rfl (by simp)
  | cancel index here ready gone => exact holds.passes index _ rfl (by simp)
  | store index value here collects is => exact holds.passes index _ rfl (by simp)
  | count index error here collects is => exact holds.goTo (by simp) (by simp [is]) (by simp)
  | single index here collects => exact holds.passes index _ rfl (by simp)
  | leave index here gone => exact holds.passes index _ rfl (by simp)
  | late index here set => exact holds.passes index _ rfl (by simp)
  | allReset index hold all here => exact holds.passes index _ rfl (by simp)
  | first index here clear =>
      have moved := holds.passes index (.resetting 0) rfl (by simp)
      exact ⟨moved.last, moved.results, moved.result, moved.exception, moved.raised, moved.found⟩
  | resetHold index hold bound here =>
      have moved := holds.passes index (.resetting (hold + 1)) rfl (by simp)
      exact ⟨moved.last, moved.results, moved.result, moved.exception, moved.raised, moved.found⟩
  | stored index value here is => exact holds.stores is
  | notLast index here more => exact holds.counts here (by simp) (by simp)
  | lastValue index value here last is =>
      refine holds.counts here (fun _ => last) fun trigger same => ?_
      cases same
      exact ⟨rfl, value, is⟩
  | lastError index error here last is => exact holds.counts here (fun _ => last) (by simp)
  | applyValue index trigger value here is =>
      have ready := (reports.forPoint here).ready rfl
      refine holds.applies here rfl rfl rfl ?_ holds.exception (fun some => some) (by simp) ?_
        (by simp)
      · intro other found same
        cases same
        exact ⟨ready, is⟩
      · intro error failed
        rw [is] at failed
        cases failed
  | applyError index trigger error here is =>
      have report := reports.forPoint here
      refine holds.applies here rfl rfl rfl holds.result ?_ (by simp) (fun some => some) (by simp)
        ?_
      · intro other same
        cases same
        refine ⟨index, report.ready rfl, is, fun all => holds.last index (.inl ?_)⟩
        rw [here, ← report.collects trigger rfl, all]
      · intro value ok
        rw [is] at ok
        cases ok
  | fire index trigger here kept =>
      have moved := holds.fires here
      exact ⟨moved.last, moved.results, moved.result, moved.exception, moved.raised, moved.found⟩
  | fireDropped index trigger here dropped =>
      have moved := holds.fires here
      exact ⟨moved.last, moved.results, moved.result, moved.exception, moved.raised, moved.found⟩
  | _ => exact ⟨holds.last, holds.results, holds.result, holds.exception, holds.raised, holds.found⟩

end Schedulers.Stlab
