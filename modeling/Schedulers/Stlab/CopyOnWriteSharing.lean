import Schedulers.Stlab.CopyOnWriteModel
import Schedulers.Support.Tally
import Mathlib.Tactic.Common

/-!
# Sharing is safe and not observable

The count of a model is the number of objects that point to it (one more for the static
default), a model is freed exactly when nobody points to it, by the one object whose
decrement was the last, and a model that is stored to in place is in one hand. So
objects behave as if each held a value of its own.
-/

namespace Schedulers.Stlab

open Schedulers.TransitionSystem Schedulers.Tally

set_option autoImplicit false

def HandlePoint.releasedModel : HandlePoint → Option Nat
  | .releasing old _ => some old
  | _ => none

def HandlePoint.deletedModel : HandlePoint → Option Nat
  | .deleting old _ => some old
  | _ => none

/-- The model that the object has found to be its own, or has just made. -/
def HandlePoint.ownModel : HandlePoint → Option Nat
  | .writable self => some self
  | .assigning self => some self
  | .releasing _ (.written self) => some self
  | .deleting _ (.written self) => some self
  | _ => none

def HandlePoint.refs (address : Nat) (point : HandlePoint) : Nat :=
  (if point.self = some (some address) then 1 else 0) +
    (if point.releasedModel = some address then 1 else 0)

def HandlePoint.deletes (address : Nat) (point : HandlePoint) : Nat :=
  if point.deletedModel = some address then 1 else 0

@[simp] theorem refs_absent (address : Nat) : HandlePoint.absent.refs address = 0 := rfl

@[simp] theorem refs_ready (self : Option Nat) (address : Nat) :
    (HandlePoint.ready self).refs address = if self = some address then 1 else 0 := by
  simp [HandlePoint.refs, HandlePoint.self, HandlePoint.releasedModel]

@[simp] theorem deletes_absent (address : Nat) : HandlePoint.absent.deletes address = 0 := rfl

@[simp] theorem deletes_ready (self : Option Nat) (address : Nat) :
    (HandlePoint.ready self).deletes address = 0 := rfl

theorem refs_settled (point : HandlePoint) {self : Option Nat} (points : point.self = some self)
    (settled : point.releasedModel = none) (address : Nat) :
    point.refs address = if self = some address then 1 else 0 := by
  simp [HandlePoint.refs, points, settled]

theorem deletes_settled {point : HandlePoint} (settled : point.deletedModel = none)
    (address : Nat) : point.deletes address = 0 := by
  simp [HandlePoint.deletes, settled]

theorem refs_of_own {point : HandlePoint} {address : Nat}
    (own : point.ownModel = some address) : 1 ≤ point.refs address := by
  have self : point.self = some (some address) := by
    cases point with
    | writable => simpa [HandlePoint.ownModel, HandlePoint.self] using own
    | assigning => simpa [HandlePoint.ownModel, HandlePoint.self] using own
    | releasing _ after | deleting _ after =>
        cases after <;> simp_all [HandlePoint.ownModel, HandlePoint.self, AfterRelease.self]
    | _ => simp [HandlePoint.ownModel] at own
  simp [HandlePoint.refs, self]

@[simp] theorem self_after_point (after : AfterRelease) : after.point.self = after.self := by
  cases after <;> rfl

theorem deletes_after_point (after : AfterRelease) (address : Nat) :
    after.point.deletes address = 0 := by
  cases after <;> rfl

theorem refs_releasing (old : Nat) (after : AfterRelease) (address : Nat) :
    (HandlePoint.releasing old after).refs address =
      after.point.refs address + if old = address then 1 else 0 := by
  cases after <;>
    simp [HandlePoint.refs, HandlePoint.self, HandlePoint.releasedModel, AfterRelease.point,
      AfterRelease.self]

theorem own_releasing (old : Nat) (after : AfterRelease) :
    (HandlePoint.releasing old after).ownModel = after.point.ownModel := by
  cases after <;> rfl

theorem refs_deleting (old : Nat) (after : AfterRelease) (address : Nat) :
    (HandlePoint.deleting old after).refs address = after.point.refs address := by
  cases after <;>
    simp [HandlePoint.refs, HandlePoint.self, HandlePoint.releasedModel, AfterRelease.point,
      AfterRelease.self]

theorem deletes_deleting (old : Nat) (after : AfterRelease) (address : Nat) :
    (HandlePoint.deleting old after).deletes address = if old = address then 1 else 0 := by
  simp [HandlePoint.deletes, HandlePoint.deletedModel]

theorem own_deleting (old : Nat) (after : AfterRelease) :
    (HandlePoint.deleting old after).ownModel = after.point.ownModel := by
  cases after <;> rfl

theorem refs_releasing_old (old : Option Nat) (after : AfterRelease) (address : Nat) :
    (releasingOld old after).refs address =
      after.point.refs address + if old = some address then 1 else 0 := by
  cases old with
  | none => simp [releasingOld]
  | some old => simp [releasingOld, refs_releasing]

theorem deletes_releasing_old (old : Option Nat) (after : AfterRelease) (address : Nat) :
    (releasingOld old after).deletes address = 0 := by
  cases old with
  | none => exact deletes_after_point after address
  | some old => rfl

theorem own_releasing_old (old self : Option Nat) :
    (releasingOld old (.assigned self)).ownModel = none := by
  cases old <;> rfl

variable {Handle Value : Type}

/-- Where the models hold the same for all other objects, only this one is seen to
change. -/
theorem moved_view [DecidableEq Handle] (state : CowState Handle Value)
    {next : CowState Handle Value} (h : Handle) (point : HandlePoint)
    (moved : next.handle = Function.update state.handle h point)
    (values : ∀ address, (next.heap address).map Model.value =
        (state.heap address).map Model.value ∨
      ∀ k, k ≠ h → (state.handle k).refs address = 0) :
    next.view = Function.update state.view h (point.self.map fun self =>
      self.bind fun address => (next.heap address).map Model.value) := by
  funext k
  unfold CowState.view
  rw [moved]
  by_cases same : k = h
  · subst same
    simp
  · rw [Function.update_of_ne same, Function.update_of_ne same]
    cases points : (state.handle k).self with
    | none => rfl
    | some self =>
        cases self with
        | none => rfl
        | some address =>
            rcases values address with unchanged | hidden
            · simp [unchanged]
            · have none := hidden k same
              simp [HandlePoint.refs, points] at none

theorem unmoved_view (state : CowState Handle Value) {next : CowState Handle Value}
    (self : ∀ k, (next.handle k).self = (state.handle k).self)
    (values : ∀ address, (next.heap address).map Model.value =
        (state.heap address).map Model.value ∨ ∀ k, (state.handle k).refs address = 0) :
    next.view = state.view := by
  funext k
  unfold CowState.view
  rw [self]
  cases points : (state.handle k).self with
  | none => rfl
  | some self =>
      cases self with
      | none => rfl
      | some address =>
          rcases values address with unchanged | hidden
          · simp [unchanged]
          · have none := hidden k
            simp [HandlePoint.refs, points] at none

theorem internal_view (state : CowState Handle Value) [DecidableEq Handle] {h : Handle}
    {point : HandlePoint} (self : point.self = (state.handle h).self) :
    (state.setHandle h point).view = state.view := by
  refine unmoved_view state ?_ fun _ => .inl rfl
  intro k
  change (Function.update state.handle h point k).self = _
  by_cases same : k = h
  · subst same
    rw [Function.update_self, self]
  · rw [Function.update_of_ne same]

variable [Fintype Handle]

def CowState.refs (state : CowState Handle Value) (address : Nat) : Nat :=
  tally (HandlePoint.refs address) state.handle

def CowState.deleters (state : CowState Handle Value) (address : Nat) : Nat :=
  tally (HandlePoint.deletes address) state.handle

/-- What the count of a model says. `default_s` counts one for itself. -/
def Accounts (address : Nat) (model : Option (Model Value)) (refs deleters : Nat) : Prop :=
  match model with
  | none => refs = 0 ∧ deleters = 0
  | some model =>
      model.count = refs + (if address = 0 then 1 else 0) ∧
      deleters = if model.count = 0 then 1 else 0

structure CowInvariant (state : CowState Handle Value) : Prop where
  defined : state.undefined = false
  accounts : ∀ address, Accounts address (state.heap address) (state.refs address)
    (state.deleters address)
  fresh : ∀ address, state.nextAddress ≤ address → state.heap address = none
  positive : 0 < state.nextAddress
  own : ∀ h address, (state.handle h).ownModel = some address →
    state.refs address = 1 ∧ address ≠ 0

variable {state next : CowState Handle Value}

theorem CowInvariant.model_of_ref (given : CowInvariant state) {h : Handle} {address : Nat}
    (points : 1 ≤ (state.handle h).refs address) :
    ∃ model, state.heap address = some model ∧
      model.count = state.refs address + (if address = 0 then 1 else 0) ∧
      1 ≤ state.refs address ∧ state.deleters address = 0 := by
  have counted : (state.handle h).refs address ≤ state.refs address :=
    weight_le_tally (HandlePoint.refs address) state.handle h
  have accounts := given.accounts address
  cases allocated : state.heap address with
  | none =>
      rw [allocated] at accounts
      obtain ⟨noRefs, _⟩ := accounts
      omega
  | some model =>
      rw [allocated] at accounts
      obtain ⟨count, deleters⟩ := accounts
      have nonzero : model.count ≠ 0 := by omega
      refine ⟨model, rfl, count, by omega, ?_⟩
      rw [deleters, if_neg nonzero]

theorem CowInvariant.no_refs_when_free (given : CowInvariant state) {address : Nat}
    (free : state.heap address = none) : state.refs address = 0 ∧ state.deleters address = 0 := by
  have accounts := given.accounts address
  rw [free] at accounts
  exact accounts

theorem CowInvariant.accounts_same (given : CowInvariant state) {address refs deleters : Nat}
    (sameRefs : refs = state.refs address) (sameDeleters : deleters = state.deleters address) :
    Accounts address (state.heap address) refs deleters := by
  rw [sameRefs, sameDeleters]
  exact given.accounts address

theorem CowInvariant.fresh_update (given : CowInvariant state) {used : Nat} {model : Model Value}
    (allocated : state.heap used = some model) (other : Option (Model Value)) (address : Nat)
    (beyond : state.nextAddress ≤ address) :
    Function.update state.heap used other address = none := by
  have free := given.fresh address beyond
  rw [Function.update_of_ne, free]
  rintro rfl
  rw [free] at allocated
  cases allocated

theorem CowInvariant.model_deleted (given : CowInvariant state) {h : Handle} {old : Nat}
    {after : AfterRelease} (here : state.handle h = .deleting old after) :
    ∃ model, state.heap old = some model ∧ old ≠ 0 ∧ state.refs old = 0 ∧
      state.deleters old = 1 := by
  have counted : 1 ≤ state.deleters old := by
    have mine : (state.handle h).deletes old ≤ state.deleters old :=
      weight_le_tally (HandlePoint.deletes old) state.handle h
    rw [here, deletes_deleting, if_pos rfl] at mine
    exact mine
  have accounts := given.accounts old
  cases allocated : state.heap old with
  | none =>
      rw [allocated] at accounts
      obtain ⟨_, noDeleters⟩ := accounts
      omega
  | some model =>
      rw [allocated] at accounts
      obtain ⟨count, deleters⟩ := accounts
      split_ifs at deleters with zero
      · have dynamic : old ≠ 0 := by
          rintro rfl
          rw [if_pos rfl] at count
          omega
        rw [if_neg dynamic] at count
        exact ⟨model, rfl, dynamic, by omega, deleters⟩
      · omega

variable [DecidableEq Handle]

theorem CowInvariant.own_alone (given : CowInvariant state) {h k : Handle} {address : Nat}
    (own : (state.handle k).ownModel = some address) (different : h ≠ k) :
    (state.handle h).refs address = 0 := by
  have one := (given.own k address own).1
  have both := two_weights_le_tally (HandlePoint.refs address) state.handle different
  have mine := refs_of_own own
  unfold CowState.refs at one
  omega

omit [Fintype Handle] [DecidableEq Handle] in
theorem deletes_pos {point : HandlePoint} {address : Nat} (deletes : 0 < point.deletes address) :
    ∃ after, point = .deleting address after := by
  cases point with
  | deleting old after =>
      rw [deletes_deleting] at deletes
      split_ifs at deletes with same
      · exact ⟨after, by rw [same]⟩
      · exact absurd deletes (Nat.lt_irrefl 0)
  | _ => exact absurd deletes (Nat.lt_irrefl 0)

theorem one_deleter {address : Nat} (one : state.deleters address = 1) :
    ∃! h, ∃ after, state.handle h = .deleting address after := by
  have there : 0 < state.deleters address := by omega
  obtain ⟨h, deletes⟩ := tally_pos there
  refine ⟨h, deletes_pos deletes, ?_⟩
  rintro k ⟨after, other⟩
  by_contra different
  have both := two_weights_le_tally (HandlePoint.deletes address) state.handle different
  have second : (state.handle k).deletes address = 1 := by
    rw [other, deletes_deleting, if_pos rfl]
  unfold CowState.deleters at one
  omega

/-- The invariant is kept by a step that moves one object, where the accounts of each
model agree with what the object gains and loses, what it newly points to was free or is
shared with an object that does not own it, and what it owns afterwards is its alone. -/
theorem moved_invariant (given : CowInvariant state) (h : Handle) (point : HandlePoint)
    (moved : next.handle = Function.update state.handle h point)
    (defined : next.undefined = false)
    (accounts : ∀ address refs deleters,
      refs + (state.handle h).refs address = state.refs address + point.refs address →
      deleters + (state.handle h).deletes address =
        state.deleters address + point.deletes address →
      Accounts address (next.heap address) refs deleters)
    (fresh : ∀ address, next.nextAddress ≤ address → next.heap address = none)
    (positive : 0 < next.nextAddress)
    (gains : ∀ address, 1 ≤ point.refs address → 1 ≤ (state.handle h).refs address ∨
      state.refs address = 0 ∨ address = 0 ∨
      ∃ source, 1 ≤ (state.handle source).refs address ∧ (state.handle source).ownModel = none)
    (own : ∀ address, point.ownModel = some address →
      state.refs address + point.refs address = 1 + (state.handle h).refs address ∧
      address ≠ 0) :
    CowInvariant next := by
  have refs (address : Nat) : next.refs address + (state.handle h).refs address =
      state.refs address + point.refs address := by
    unfold CowState.refs
    rw [moved]
    exact tally_update (HandlePoint.refs address) state.handle h point
  have deleters (address : Nat) : next.deleters address + (state.handle h).deletes address =
      state.deleters address + point.deletes address := by
    unfold CowState.deleters
    rw [moved]
    exact tally_update (HandlePoint.deletes address) state.handle h point
  refine ⟨defined, fun address => accounts address _ _ (refs address) (deleters address),
    fresh, positive, ?_⟩
  intro k address owns
  rw [moved] at owns
  by_cases same : k = h
  · subst same
    rw [Function.update_self] at owns
    obtain ⟨one, nonzero⟩ := own address owns
    have after := refs address
    exact ⟨by omega, nonzero⟩
  · rw [Function.update_of_ne same] at owns
    obtain ⟨one, nonzero⟩ := given.own k address owns
    have before := given.own_alone owns (Ne.symm same)
    have after := refs address
    have notGained : point.refs address = 0 := by
      by_contra gained
      rcases gains address (by omega) with already | free | shared | ⟨source, points, unowned⟩
      · omega
      · omega
      · exact nonzero shared
      · have different : source ≠ k := by
          rintro rfl
          rw [owns] at unowned
          cases unowned
        have alone := given.own_alone owns different
        omega
    exact ⟨by omega, nonzero⟩

theorem keep_invariant (given : CowInvariant state) {h : Handle} {point : HandlePoint}
    (refs : ∀ address, point.refs address = (state.handle h).refs address)
    (deletes : ∀ address, point.deletes address = (state.handle h).deletes address)
    (own : ∀ address, point.ownModel = some address → state.refs address = 1 ∧ address ≠ 0) :
    CowInvariant (state.setHandle h point) := by
  refine moved_invariant given h point rfl given.defined ?_ given.fresh
    given.positive ?_ ?_
  · intro address after afterDeleters same sameDeleters
    rw [refs] at same
    rw [deletes] at sameDeleters
    exact given.accounts_same (by omega) (by omega)
  · intro address points
    rw [refs] at points
    exact .inl points
  · intro address owns
    obtain ⟨one, nonzero⟩ := own address owns
    rw [refs]
    exact ⟨by omega, nonzero⟩

theorem allocate_invariant (given : CowInvariant state) {h : Handle} {point : HandlePoint}
    (x : Value)
    (refs : ∀ address, point.refs address =
      (state.handle h).refs address + if address = state.nextAddress then 1 else 0)
    (deletes : ∀ address, point.deletes address = (state.handle h).deletes address)
    (own : ∀ address, point.ownModel = some address → address = state.nextAddress) :
    CowInvariant ((state.allocate x).setHandle h point) := by
  obtain ⟨noRefs, noDeleters⟩ :=
    given.no_refs_when_free (given.fresh state.nextAddress (Nat.le_refl _))
  have positive := given.positive
  have nonzero : state.nextAddress ≠ 0 := by omega
  refine moved_invariant given h point rfl given.defined ?_ ?_
    (Nat.succ_pos _) ?_ ?_
  · intro address after afterDeleters same sameDeleters
    rw [refs] at same
    rw [deletes] at sameDeleters
    change Accounts address
      (Function.update state.heap state.nextAddress (some ⟨1, x⟩) address) _ _
    by_cases new : address = state.nextAddress
    · subst new
      rw [if_pos rfl] at same
      rw [Function.update_self]
      simp only [Accounts, if_neg nonzero, one_ne_zero, if_false]
      omega
    · rw [if_neg new] at same
      rw [Function.update_of_ne new]
      exact given.accounts_same (by omega) (by omega)
  · intro address beyond
    have beyond : state.nextAddress + 1 ≤ address := beyond
    change Function.update state.heap state.nextAddress (some ⟨1, x⟩) address = none
    rw [Function.update_of_ne (by omega)]
    exact given.fresh address (by omega)
  · intro address points
    rw [refs] at points
    split_ifs at points with new
    · rw [new]
      exact .inr (.inl noRefs)
    · exact .inl points
  · intro address owns
    have new := own address owns
    subst new
    rw [refs, if_pos rfl, noRefs]
    exact ⟨by omega, nonzero⟩

theorem increment_invariant (given : CowInvariant state) {h : Handle} {point : HandlePoint}
    {shared : Nat} {model : Model Value} (allocated : state.heap shared = some model)
    (alive : model.count ≠ 0)
    (refs : ∀ address, point.refs address =
      (state.handle h).refs address + if address = shared then 1 else 0)
    (deletes : ∀ address, point.deletes address = (state.handle h).deletes address)
    (own : point.ownModel = none)
    (source : shared = 0 ∨ ∃ k, 1 ≤ (state.handle k).refs shared ∧
      (state.handle k).ownModel = none) :
    CowInvariant ((state.increment shared model).setHandle h point) := by
  refine moved_invariant given h point rfl given.defined ?_ ?_
    given.positive ?_ ?_
  · intro address after afterDeleters same sameDeleters
    rw [refs] at same
    rw [deletes] at sameDeleters
    have accounts := given.accounts address
    change Accounts address (Function.update state.heap shared
      (some { model with count := model.count + 1 }) address) _ _
    by_cases here : address = shared
    · subst here
      rw [allocated] at accounts
      obtain ⟨count, deleters⟩ := accounts
      rw [if_pos rfl] at same
      rw [if_neg alive] at deleters
      rw [Function.update_self]
      simp only [Accounts, Nat.succ_ne_zero, if_false]
      omega
    · rw [if_neg here] at same
      rw [Function.update_of_ne here]
      exact given.accounts_same (by omega) (by omega)
  · exact given.fresh_update allocated _
  · intro address points
    rw [refs] at points
    split_ifs at points with here
    · subst here
      exact .inr (.inr source)
    · exact .inl points
  · intro address owns
    rw [own] at owns
    cases owns

theorem store_invariant (given : CowInvariant state) {h : Handle} {self : Nat}
    (own : (state.handle h).ownModel = some self)
    (refs : ∀ address, (state.handle h).refs address = if self = address then 1 else 0)
    (deletes : ∀ address, (state.handle h).deletes address = 0) (x : Value) :
    CowInvariant (state.store h self x) ∧
      (state.store h self x).view = Function.update state.view h (some (some x)) := by
  obtain ⟨model, allocated, _⟩ := given.model_of_ref (refs_of_own own)
  have same : state.store h self x =
      (state.setModel self (some { model with value := x })).setHandle h (.ready (some self)) := by
    simp [CowState.store, CowState.access, allocated]
  rw [same]
  constructor
  · refine moved_invariant given h (.ready (some self)) rfl given.defined ?_ ?_
      given.positive ?_ nofun
    · intro address after afterDeleters sameRefs sameDeleters
      have accounts := given.accounts address
      rw [refs] at sameRefs
      rw [deletes] at sameDeleters
      simp only [HandlePoint.refs, HandlePoint.self, HandlePoint.releasedModel,
        HandlePoint.deletes, HandlePoint.deletedModel, Option.some.injEq, reduceCtorEq,
        if_false] at sameRefs sameDeleters
      have equal : after = state.refs address := by omega
      have equalDeleters : afterDeleters = state.deleters address := by omega
      rw [equal, equalDeleters]
      change Accounts address
        (Function.update state.heap self (some { model with value := x }) address) _ _
      by_cases here : address = self
      · subst here
        rw [allocated] at accounts
        rw [Function.update_self]
        exact accounts
      · rw [Function.update_of_ne here]
        exact accounts
    · exact given.fresh_update allocated _
    · intro address points
      rw [refs]
      simpa [HandlePoint.refs, HandlePoint.self, HandlePoint.releasedModel] using Or.inl points
  · rw [moved_view state h _ rfl]
    · simp [HandlePoint.self, CowState.setHandle, CowState.setModel]
    · intro address
      by_cases here : address = self
      · subst here
        exact .inr fun k different => given.own_alone own different
      · left
        simp [CowState.setHandle, CowState.setModel, here]

/-- The object after its decrement has left `count` with the old model. -/
def droppedPoint (old count : Nat) (after : AfterRelease) : HandlePoint :=
  if count = 0 then .deleting old after else after.point

theorem refs_dropped (old count : Nat) (after : AfterRelease) (address : Nat) :
    (droppedPoint old count after).refs address = after.point.refs address := by
  unfold droppedPoint
  split_ifs
  · exact refs_deleting old after address
  · rfl

theorem deletes_dropped (old count : Nat) (after : AfterRelease) (address : Nat) :
    (droppedPoint old count after).deletes address =
      if count = 0 ∧ old = address then 1 else 0 := by
  unfold droppedPoint
  split_ifs with last both both
  · rw [deletes_deleting, if_pos both.2]
  · rw [deletes_deleting, if_neg fun same => both ⟨last, same⟩]
  · exact absurd both.1 last
  · exact deletes_after_point after address

theorem own_dropped (old count : Nat) (after : AfterRelease) :
    (droppedPoint old count after).ownModel = after.point.ownModel := by
  unfold droppedPoint
  split_ifs
  · exact own_deleting old after
  · rfl

theorem self_dropped (old count : Nat) (after : AfterRelease) :
    (droppedPoint old count after).self = after.self := by
  unfold droppedPoint
  split_ifs
  · rfl
  · exact self_after_point after

/-- A model is changed by an object that goes on pointing to its own: nothing is seen of
it if the model keeps its value, or nobody points to it. -/
theorem dropped_view (state : CowState Handle Value) {h : Handle} {old : Nat}
    {point : HandlePoint} {other : Option (Model Value)}
    (self : point.self = (state.handle h).self)
    (hidden : other.map Model.value = (state.heap old).map Model.value ∨ state.refs old = 0) :
    ((state.setModel old other).setHandle h point).view = state.view := by
  refine unmoved_view state ?_ ?_
  · intro k
    change (Function.update state.handle h point k).self = _
    by_cases mine : k = h
    · subst mine
      rw [Function.update_self, self]
    · rw [Function.update_of_ne mine]
  · intro address
    change (Function.update state.heap old other address).map _ = _ ∨ _
    by_cases dropped : address = old
    · subst dropped
      rw [Function.update_self]
      exact hidden.imp_right fun none => tally_zero_iff.mp none
    · rw [Function.update_of_ne dropped]
      exact .inl rfl

theorem decrement_invariant (given : CowInvariant state) {h : Handle} {old : Nat}
    {after : AfterRelease} {model : Model Value} (here : state.handle h = .releasing old after)
    (allocated : state.heap old = some model) :
    CowInvariant ((state.setModel old (some { model with count := model.count - 1 })).setHandle h
      (droppedPoint old (model.count - 1) after)) := by
  have points : 1 ≤ (state.handle h).refs old := by
    rw [here, refs_releasing, if_pos rfl]
    omega
  obtain ⟨counted, same, count, alive, noDeleters⟩ := given.model_of_ref points
  obtain rfl : model = counted := Option.some.inj (allocated.symm.trans same)
  refine moved_invariant given h _ rfl given.defined ?_ (given.fresh_update allocated _)
    given.positive ?_ ?_
  · intro address afterRefs afterDeleters sameRefs sameDeleters
    rw [here, refs_releasing, refs_dropped] at sameRefs
    rw [here, deletes_dropped] at sameDeleters
    change afterDeleters + 0 = _ at sameDeleters
    change Accounts address (Function.update state.heap old
      (some { model with count := model.count - 1 }) address) _ _
    by_cases dropped : old = address
    · subst dropped
      rw [if_pos rfl] at sameRefs
      rw [Function.update_self]
      simp only [Accounts, and_true] at sameDeleters ⊢
      split_ifs at sameDeleters count ⊢ <;> omega
    · rw [if_neg dropped] at sameRefs
      rw [if_neg fun both => dropped both.2] at sameDeleters
      rw [Function.update_of_ne (Ne.symm dropped)]
      exact given.accounts_same (by omega) (by omega)
  · intro address gained
    rw [refs_dropped] at gained
    rw [here, refs_releasing]
    exact .inl (by omega)
  · intro address owns
    rw [own_dropped] at owns
    have before : (state.handle h).ownModel = some address := by
      rw [here, own_releasing, owns]
    obtain ⟨one, dynamic⟩ := given.own h address before
    have mine : (state.handle h).refs address ≤ state.refs address :=
      weight_le_tally (HandlePoint.refs address) state.handle h
    have still := refs_of_own owns
    rw [here, refs_releasing] at mine ⊢
    rw [refs_dropped]
    exact ⟨by omega, dynamic⟩

theorem release_invariant (given : CowInvariant state) {h : Handle} {old : Nat}
    {after : AfterRelease} (here : state.handle h = .releasing old after) :
    CowInvariant (state.release h old after) ∧ (state.release h old after).view = state.view := by
  have points : 1 ≤ (state.handle h).refs old := by
    rw [here, refs_releasing, if_pos rfl]
    omega
  obtain ⟨model, allocated, _⟩ := given.model_of_ref points
  have same : state.release h old after =
      (state.setModel old (some { model with count := model.count - 1 })).setHandle h
        (droppedPoint old (model.count - 1) after) := by
    simp [CowState.release, CowState.access, allocated, droppedPoint]
  rw [same]
  refine ⟨decrement_invariant given here allocated, dropped_view state ?_ (.inl ?_)⟩
  · rw [here, self_dropped]
    rfl
  · rw [allocated]
    rfl

theorem freed_invariant (given : CowInvariant state) {h : Handle} {old : Nat}
    {after : AfterRelease} {model : Model Value} (here : state.handle h = .deleting old after)
    (allocated : state.heap old = some model) (unreferenced : state.refs old = 0)
    (one : state.deleters old = 1) :
    CowInvariant ((state.setModel old none).setHandle h after.point) := by
  refine moved_invariant given h after.point rfl given.defined ?_
    (given.fresh_update allocated none) given.positive ?_ ?_
  · intro address afterRefs afterDeleters sameRefs sameDeleters
    rw [here, refs_deleting] at sameRefs
    rw [here, deletes_deleting, deletes_after_point] at sameDeleters
    change Accounts address (Function.update state.heap old none address) _ _
    by_cases freed : old = address
    · subst freed
      rw [if_pos rfl] at sameDeleters
      rw [Function.update_self]
      exact ⟨by omega, by omega⟩
    · rw [if_neg freed] at sameDeleters
      rw [Function.update_of_ne (Ne.symm freed)]
      exact given.accounts_same (by omega) (by omega)
  · intro address points
    rw [here, refs_deleting]
    exact .inl points
  · intro address owns
    have before : (state.handle h).ownModel = some address := by
      rw [here, own_deleting, owns]
    obtain ⟨alone, dynamic⟩ := given.own h address before
    rw [here, refs_deleting]
    exact ⟨by omega, dynamic⟩

theorem delete_invariant (given : CowInvariant state) {h : Handle} {old : Nat}
    {after : AfterRelease} (here : state.handle h = .deleting old after) :
    CowInvariant (state.delete h old after) ∧ (state.delete h old after).view = state.view := by
  obtain ⟨model, allocated, dynamic, unreferenced, one⟩ := given.model_deleted here
  have same : state.delete h old after =
      (state.setModel old none).setHandle h after.point := by
    simp [CowState.delete, CowState.access, allocated, dynamic]
  rw [same]
  refine ⟨freed_invariant given here allocated unreferenced one,
    dropped_view state ?_ (.inr unreferenced)⟩
  rw [here, self_after_point]
  rfl

theorem pair_invariant (given : CowInvariant state) {h x : Handle} (different : h ≠ x)
    {hPoint xPoint : HandlePoint}
    (refs : ∀ address, hPoint.refs address + xPoint.refs address =
      (state.handle h).refs address + (state.handle x).refs address)
    (deletes : ∀ address, hPoint.deletes address + xPoint.deletes address =
      (state.handle h).deletes address + (state.handle x).deletes address)
    (hOwn : hPoint.ownModel = none) (xOwn : xPoint.ownModel = none) :
    CowInvariant ((state.setHandle x xPoint).setHandle h hPoint) := by
  have tallies (weight : Nat → HandlePoint → Nat) (address : Nat)
      (balanced : weight address hPoint + weight address xPoint =
        weight address (state.handle h) + weight address (state.handle x)) :
      tally (weight address) ((state.setHandle x xPoint).setHandle h hPoint).handle =
        tally (weight address) state.handle := by
    have first := tally_update (weight address) state.handle x xPoint
    have second := tally_update (weight address) (Function.update state.handle x xPoint) h hPoint
    rw [Function.update_of_ne different] at second
    simp only [CowState.setHandle]
    omega
  have sameRefs (address : Nat) :
      ((state.setHandle x xPoint).setHandle h hPoint).refs address = state.refs address :=
    tallies HandlePoint.refs address (refs address)
  have sameDeleters (address : Nat) :
      ((state.setHandle x xPoint).setHandle h hPoint).deleters address =
        state.deleters address :=
    tallies HandlePoint.deletes address (deletes address)
  refine ⟨given.defined, ?_, given.fresh, given.positive, ?_⟩
  · intro address
    rw [sameRefs, sameDeleters]
    exact given.accounts address
  · intro k address owns
    rw [sameRefs]
    refine given.own k address ?_
    change (Function.update (Function.update state.handle x xPoint) h hPoint k).ownModel = _
      at owns
    by_cases isH : k = h
    · subst isH
      rw [Function.update_self, hOwn] at owns
      cases owns
    · rw [Function.update_of_ne isH] at owns
      by_cases isX : k = x
      · subst isX
        rw [Function.update_self, xOwn] at owns
        cases owns
      · rwa [Function.update_of_ne isX] at owns

omit [Fintype Handle] in
theorem pair_view (state : CowState Handle Value) (h x : Handle) (hPoint xPoint : HandlePoint) :
    ((state.setHandle x xPoint).setHandle h hPoint).view =
      Function.update (Function.update state.view x (xPoint.self.map fun self =>
        self.bind fun address => (state.heap address).map Model.value)) h
        (hPoint.self.map fun self =>
          self.bind fun address => (state.heap address).map Model.value) := by
  have inner : (state.setHandle x xPoint).view = Function.update state.view x
      (xPoint.self.map fun self =>
        self.bind fun address => (state.heap address).map Model.value) :=
    moved_view state _ _ rfl fun _ => .inl rfl
  rw [← inner]
  exact moved_view (state.setHandle x xPoint) _ _ rfl fun _ => .inl rfl

end Schedulers.Stlab
