import Schedulers.Stlab.CopyOnWriteSharing

/-!
# Objects of `copy_on_write` are values

Each step keeps the accounts of the models and does to what the objects are seen to hold
what the operation does to objects that share nothing. So whatever the threads do, no
store is seen through another object, no model is used after it has been freed or freed
twice, and none is left behind.
-/

namespace Schedulers.Stlab

open Schedulers.TransitionSystem Schedulers.Tally

set_option autoImplicit false

variable {Handle Value : Type} {state next : CowState Handle Value}

def CowState.valueAt (state : CowState Handle Value) (self : Option Nat) : Option Value :=
  self.bind fun address => (state.heap address).map Model.value

theorem view_ready {h : Handle} {self : Option Nat} (here : state.handle h = .ready self) :
    state.view h = some (state.valueAt self) := by
  simp [CowState.view, here, HandlePoint.self, CowState.valueAt]

section

variable [Fintype Handle]

theorem CowInvariant.unseen (given : CowInvariant state) (k : Handle) :
    (state.handle k).refs state.nextAddress = 0 := by
  have none := (given.no_refs_when_free (given.fresh _ (Nat.le_refl _))).1
  have mine : (state.handle k).refs state.nextAddress ≤ state.refs state.nextAddress :=
    weight_le_tally (HandlePoint.refs state.nextAddress) state.handle k
  omega

theorem CowInvariant.model_of_ready (given : CowInvariant state) {x : Handle} {address : Nat}
    (there : state.handle x = .ready (some address)) :
    ∃ model, state.heap address = some model ∧ model.count ≠ 0 ∧
      state.view x = some (some model.value) := by
  have points : 1 ≤ (state.handle x).refs address := by
    rw [there]
    simp
  obtain ⟨model, allocated, count, counted, _⟩ := given.model_of_ref points
  refine ⟨model, allocated, by omega, ?_⟩
  rw [view_ready there]
  simp [CowState.valueAt, allocated]

/-- What `unique` has found: the model is in one hand, and not the static one. -/
theorem CowInvariant.unique (given : CowInvariant state) {h : Handle} {self : Nat}
    {model : Model Value} (here : state.handle h = .ready (some self))
    (allocated : state.heap self = some model) (one : model.count = 1) :
    state.refs self = 1 ∧ self ≠ 0 := by
  have points : 1 ≤ (state.handle h).refs self := by
    rw [here]
    simp
  obtain ⟨_, same, count, counted, _⟩ := given.model_of_ref points
  rw [allocated] at same
  cases same
  split_ifs at count with static
  · omega
  · exact ⟨by omega, static⟩

end

section

variable [Inhabited Value]

/-- The default value is the value of the static model, which is never stored to. -/
def DefaultKept (state : CowState Handle Value) : Prop :=
  (state.heap 0).map Model.value = some default

theorem default_access (kept : DefaultKept state) {address : Nat}
    {use : Model Value → CowState Handle Value}
    (each : ∀ model, state.heap address = some model → DefaultKept (use model)) :
    DefaultKept (state.access address use) := by
  unfold CowState.access
  split
  case h_1 model allocated => exact each model allocated
  case h_2 => exact kept

theorem default_set (kept : DefaultKept state) {address : Nat} {model : Option (Model Value)}
    (same : address ≠ 0 ∨ model.map Model.value = (state.heap address).map Model.value) :
    DefaultKept (state.setModel address model) := by
  change (Function.update state.heap address model 0).map Model.value = some default
  by_cases static : address = 0
  · subst static
    rw [Function.update_self, same.resolve_left (fun away => away rfl)]
    exact kept
  · rw [Function.update_of_ne (Ne.symm static)]
    exact kept

theorem default_increment (kept : DefaultKept state) {address : Nat} {model : Model Value}
    (allocated : state.heap address = some model) :
    DefaultKept (state.increment address model) :=
  default_set kept (.inr (by simp [allocated]))

variable [Fintype Handle] in
theorem default_allocate (given : CowInvariant state) (kept : DefaultKept state) (x : Value) :
    DefaultKept (state.allocate x) := by
  have positive := given.positive
  exact default_set kept (.inl (by omega))

variable [DecidableEq Handle]

variable [Fintype Handle] in
theorem default_store (given : CowInvariant state) (kept : DefaultKept state) {h : Handle}
    {self : Nat} (own : (state.handle h).ownModel = some self) (x : Value) :
    DefaultKept (state.store h self x) :=
  default_access kept fun _ _ => default_set kept (.inl (given.own h self own).2)

variable [Fintype Handle] in
theorem default_kept (given : CowInvariant state) (kept : DefaultKept state)
    {label : CowLabel Handle Value} (taken : cowStep label state = some next) :
    DefaultKept next := by
  cases label with
  | construct h x =>
      cases here : state.handle h <;> simp only [cowStep, here, reduceCtorEq] at taken
      cases taken
      exact default_allocate given kept x
  | constructDefault h =>
      cases here : state.handle h <;> simp only [cowStep, here, reduceCtorEq] at taken
      cases taken
      exact default_access kept fun _ allocated => default_increment kept allocated
  | copyConstruct h x | copyAssign h x =>
      simp only [cowStep] at taken
      split at taken
      case h_2 => cases taken
      case h_1 =>
        cases taken
        exact default_access kept fun _ allocated => default_increment kept allocated
  | moveConstruct h x | swap h x =>
      simp only [cowStep] at taken
      split at taken <;> cases taken
      exact kept
  | moveAssign h x =>
      simp only [cowStep] at taken
      split at taken
      case h_2 => cases taken
      case h_1 => split_ifs at taken <;> cases taken <;> exact kept
  | destroy h =>
      cases here : state.handle h <;> simp only [cowStep, here, reduceCtorEq] at taken
      cases taken
      exact kept
  | beginWrite h =>
      simp only [cowStep] at taken
      split at taken <;> cases taken
      exact default_access kept fun _ _ => kept
  | copyModel h =>
      cases here : state.handle h <;> simp only [cowStep, here, reduceCtorEq] at taken
      cases taken
      exact default_access kept fun model _ => default_allocate given kept model.value
  | store h x =>
      cases here : state.handle h <;> simp only [cowStep, here, reduceCtorEq] at taken
      cases taken
      exact default_store given kept (by rw [here]; rfl) x
  | beginAssign h =>
      cases here : state.handle h <;> simp only [cowStep, here, reduceCtorEq] at taken
      case ready self =>
        cases taken
        cases self with
        | none => exact kept
        | some address => exact default_access kept fun _ _ => kept
  | finishAssign h x =>
      cases here : state.handle h <;> simp only [cowStep, here, reduceCtorEq] at taken
      case assigning self =>
        cases taken
        exact default_store given kept (by rw [here]; rfl) x
      case replacing self =>
        cases taken
        exact default_allocate given kept x
  | release h =>
      cases here : state.handle h <;> simp only [cowStep, here, reduceCtorEq] at taken
      cases taken
      exact default_access kept fun _ allocated => default_set kept (.inr (by simp [allocated]))
  | delete h =>
      cases here : state.handle h <;> simp only [cowStep, here, reduceCtorEq] at taken
      case deleting old after =>
        cases taken
        unfold CowState.delete
        split_ifs with static
        · exact kept
        · exact default_access kept fun _ _ => default_set kept (.inl static)

end

variable [DecidableEq Handle]

theorem allocate_view {h : Handle} {point : HandlePoint} (x : Value)
    (unseen : ∀ k : Handle, (state.handle k).refs state.nextAddress = 0)
    (self : point.self = some (some state.nextAddress)) :
    ((state.allocate x).setHandle h point).view =
      Function.update state.view h (some (some x)) := by
  rw [moved_view state h point rfl]
  · rw [self]
    simp [CowState.allocate, CowState.setHandle, CowState.setModel]
  · intro address
    by_cases new : address = state.nextAddress
    · subst new
      exact .inr fun k _ => unseen k
    · left
      simp [CowState.allocate, CowState.setHandle, CowState.setModel, new]

theorem increment_view {h : Handle} {point : HandlePoint} {shared : Nat} {model : Model Value}
    (allocated : state.heap shared = some model) (self : point.self = some (some shared)) :
    ((state.increment shared model).setHandle h point).view =
      Function.update state.view h (some (some model.value)) := by
  rw [moved_view state h point rfl]
  · rw [self]
    simp [CowState.increment, CowState.setHandle, CowState.setModel]
  · intro address
    left
    by_cases here : address = shared
    · subst here
      simp [CowState.increment, CowState.setHandle, CowState.setModel, allocated]
    · simp [CowState.increment, CowState.setHandle, CowState.setModel, here]

variable [Fintype Handle]

theorem decides (given : CowInvariant state) {h : Handle} {self : Option Nat}
    (here : state.handle h = .ready self) (point : HandlePoint)
    (points : point.self = some self) (settled : point.releasedModel = none)
    (keeps : point.deletedModel = none)
    (own : ∀ address, point.ownModel = some address → state.refs address = 1 ∧ address ≠ 0) :
    CowInvariant (state.setHandle h point) ∧ (state.setHandle h point).view = state.view := by
  constructor
  · refine keep_invariant given ?_ ?_ own
    · intro address
      rw [refs_settled point points settled, here, refs_ready]
    · intro address
      rw [deletes_settled keeps, here, deletes_ready]
  · exact internal_view state (by rw [points, here]; rfl)

/-- The step is safe and has the effect of the operation on separate objects. -/
def ActsOnValues [Inhabited Value] (label : CowLabel Handle Value)
    (state next : CowState Handle Value) : Prop :=
  CowInvariant next ∧ valueStep label state.view = some next.view

variable [Inhabited Value]

theorem acts_construct (given : CowInvariant state) {h : Handle} (here : state.handle h = .absent)
    (x : Value) : ActsOnValues (.construct h x) state
      ((state.allocate x).setHandle h (.ready (some state.nextAddress))) := by
  constructor
  · refine allocate_invariant given x ?_ ?_ nofun
    · intro address
      simp [here, eq_comm]
    · intro address
      simp [here]
  · rw [allocate_view x given.unseen rfl]
    rfl

theorem acts_construct_default (given : CowInvariant state) {h : Handle} {model : Model Value}
    (here : state.handle h = .absent) (allocated : state.heap 0 = some model)
    (value : model.value = default) : ActsOnValues (.constructDefault h) state
      ((state.increment 0 model).setHandle h (.ready (some 0))) := by
  have alive : model.count ≠ 0 := by
    have accounts := given.accounts 0
    rw [allocated] at accounts
    rw [accounts.1, if_pos rfl]
    omega
  constructor
  · refine increment_invariant given allocated alive ?_ ?_ rfl (.inl rfl)
    · intro address
      simp [here, eq_comm]
    · intro address
      simp [here]
  · rw [increment_view allocated rfl, value]
    rfl

theorem acts_copy_construct (given : CowInvariant state) {h x : Handle} {address : Nat}
    {model : Model Value} (here : state.handle h = .absent)
    (there : state.handle x = .ready (some address)) (allocated : state.heap address = some model)
    (alive : model.count ≠ 0) (seen : state.view x = some (some model.value)) :
    ActsOnValues (.copyConstruct h x) state
      ((state.increment address model).setHandle h (.ready (some address))) := by
  constructor
  · refine increment_invariant given allocated alive ?_ ?_ rfl (.inr ⟨x, ?_, ?_⟩)
    · intro other
      simp [here, eq_comm]
    · intro other
      simp [here]
    · simp [there]
    · rw [there]
      rfl
  · rw [increment_view allocated rfl, ← seen]
    rfl

/-- The new model is counted before the old one is released, so an object can be
assigned to itself. -/
theorem acts_copy_assign (given : CowInvariant state) {h x : Handle} {self : Option Nat}
    {address : Nat} {model : Model Value} (here : state.handle h = .ready self)
    (there : state.handle x = .ready (some address)) (allocated : state.heap address = some model)
    (alive : model.count ≠ 0) (seen : state.view x = some (some model.value)) :
    ActsOnValues (.copyAssign h x) state ((state.increment address model).setHandle h
      (releasingOld self (.assigned (some address)))) := by
  constructor
  · refine increment_invariant given allocated alive ?_ ?_ (own_releasing_old _ _)
      (.inr ⟨x, ?_, ?_⟩)
    · intro other
      rw [refs_releasing_old, here]
      simp [AfterRelease.point, Nat.add_comm, eq_comm]
    · intro other
      rw [deletes_releasing_old, here]
      rfl
    · simp [there]
    · rw [there]
      rfl
  · rw [increment_view allocated, ← seen]
    · rfl
    · cases self <;> rfl

theorem acts_move_construct (given : CowInvariant state) {h x : Handle} {address : Nat}
    (here : state.handle h = .absent) (there : state.handle x = .ready (some address)) :
    ActsOnValues (.moveConstruct h x) state
      ((state.setHandle x (.ready none)).setHandle h (.ready (some address))) := by
  have different : h ≠ x := by
    rintro rfl
    rw [here] at there
    cases there
  constructor
  · refine pair_invariant given different ?_ ?_ rfl rfl
    · intro other
      simp [here, there]
    · intro other
      simp [here, there]
  · rw [pair_view]
    simp only [valueStep, view_ready there]
    rfl

theorem acts_move_assign (given : CowInvariant state) {h x : Handle} {self : Option Nat}
    {address : Nat} (different : h ≠ x) (here : state.handle h = .ready self)
    (there : state.handle x = .ready (some address)) :
    ActsOnValues (.moveAssign h x) state ((state.setHandle x (.ready none)).setHandle h
      (releasingOld self (.assigned (some address)))) := by
  constructor
  · refine pair_invariant given different ?_ ?_ (own_releasing_old _ _) rfl
    · intro other
      rw [refs_releasing_old, here, there]
      simp [AfterRelease.point, Nat.add_comm]
    · intro other
      rw [deletes_releasing_old, here, there]
      rfl
  · rw [pair_view]
    simp only [valueStep, view_ready there]
    cases self <;> rfl

theorem acts_self_move (given : CowInvariant state) (h : Handle) :
    ActsOnValues (.moveAssign h h) state state := by
  refine ⟨given, ?_⟩
  simp [valueStep]

theorem acts_swap (given : CowInvariant state) {h x : Handle} {self other : Option Nat}
    (here : state.handle h = .ready self) (there : state.handle x = .ready other) :
    ActsOnValues (.swap h x) state
      ((state.setHandle h (.ready other)).setHandle x (.ready self)) := by
  by_cases same : h = x
  · subst same
    rw [here] at there
    cases there
    have unchanged : (state.setHandle h (.ready self)).setHandle h (.ready self) = state := by
      simp [CowState.setHandle, ← here]
    rw [unchanged]
    refine ⟨given, ?_⟩
    simp [valueStep]
  · constructor
    · refine pair_invariant given (Ne.symm same) ?_ ?_ rfl rfl
      · intro address
        rw [here, there]
        exact Nat.add_comm _ _
      · intro address
        rw [here, there]
        rfl
    · rw [pair_view]
      simp only [valueStep, view_ready here, view_ready there]
      rfl

theorem acts_destroy (given : CowInvariant state) {h : Handle} {self : Option Nat}
    (here : state.handle h = .ready self) : ActsOnValues (.destroy h) state
      (state.setHandle h (releasingOld self .destroyed)) := by
  constructor
  · refine keep_invariant given ?_ ?_ ?_
    · intro address
      rw [refs_releasing_old, here]
      simp [AfterRelease.point]
    · intro address
      rw [deletes_releasing_old, here]
      rfl
    · intro address owns
      cases self <;> cases owns
  · have seen : (state.setHandle h (releasingOld self .destroyed)).view =
        Function.update state.view h _ := moved_view state _ _ rfl fun _ => .inl rfl
    rw [seen]
    cases self <;> rfl

theorem acts_begin_write (given : CowInvariant state) {h : Handle} {self : Nat}
    {model : Model Value} (here : state.handle h = .ready (some self))
    (allocated : state.heap self = some model) :
    ActsOnValues (.beginWrite h) state (state.beginWrite h self) := by
  simp only [CowState.beginWrite, CowState.access, allocated]
  split_ifs with one
  · obtain ⟨kept, seen⟩ := decides given here (.writable self) rfl rfl rfl <| by
      intro address owns
      cases owns
      exact given.unique here allocated one
    exact ⟨kept, congrArg some seen.symm⟩
  · obtain ⟨kept, seen⟩ := decides given here (.copying self) rfl rfl rfl fun _ owns => by
      cases owns
    exact ⟨kept, congrArg some seen.symm⟩

theorem acts_begin_assign (given : CowInvariant state) {h : Handle} {self : Option Nat}
    (here : state.handle h = .ready self) :
    ActsOnValues (.beginAssign h) state (state.beginAssign h self) := by
  obtain ⟨replaced, seenReplaced⟩ :=
    decides given here (.replacing self) rfl rfl rfl fun _ owns => by cases owns
  cases self with
  | none => exact ⟨replaced, congrArg some seenReplaced.symm⟩
  | some address =>
      obtain ⟨model, allocated, _, _⟩ := given.model_of_ready here
      simp only [CowState.beginAssign, CowState.access, allocated]
      split_ifs with one
      · obtain ⟨kept, seen⟩ := decides given here (.assigning address) rfl rfl rfl <| by
          intro other owns
          cases owns
          exact given.unique here allocated one
        exact ⟨kept, congrArg some seen.symm⟩
      · exact ⟨replaced, congrArg some seenReplaced.symm⟩

theorem acts_copy_model (given : CowInvariant state) {h : Handle} {self : Nat}
    (here : state.handle h = .copying self) :
    ActsOnValues (.copyModel h) state (state.copyModel h self) := by
  have points : 1 ≤ (state.handle h).refs self := by
    rw [here, refs_settled _ rfl rfl, if_pos rfl]
  obtain ⟨model, allocated, _⟩ := given.model_of_ref points
  simp only [CowState.copyModel, CowState.access, allocated]
  constructor
  · refine allocate_invariant given model.value ?_ ?_ ?_
    · intro address
      rw [here, refs_settled (.copying self) rfl rfl]
      simp [HandlePoint.refs, HandlePoint.self, HandlePoint.releasedModel, AfterRelease.self,
        Nat.add_comm, eq_comm]
    · intro address
      rw [here]
      rfl
    · intro address owns
      cases owns
      rfl
  · rw [allocate_view model.value given.unseen rfl]
    have seen : state.view h = some (some model.value) := by
      simp [CowState.view, here, HandlePoint.self, allocated]
    rw [← seen, Function.update_eq_self]
    rfl

theorem acts_replace (given : CowInvariant state) {h : Handle} {self : Option Nat}
    (here : state.handle h = .replacing self) (x : Value) :
    ActsOnValues (.finishAssign h x) state (state.replace h self x) := by
  constructor
  · refine allocate_invariant given x ?_ ?_ ?_
    · intro address
      rw [refs_releasing_old, here, refs_settled (.replacing self) rfl rfl]
      simp [AfterRelease.point, Nat.add_comm, eq_comm]
    · intro address
      rw [deletes_releasing_old, here]
      rfl
    · intro address owns
      rw [own_releasing_old] at owns
      cases owns
  · have self : (releasingOld self (.assigned (some state.nextAddress))).self =
        some (some state.nextAddress) := by
      cases self <;> rfl
    exact congrArg some (allocate_view x given.unseen self).symm

theorem acts_step (given : CowInvariant state) (kept : DefaultKept state)
    {label : CowLabel Handle Value} (taken : cowStep label state = some next) :
    ActsOnValues label state next := by
  cases label with
  | construct h x =>
      cases here : state.handle h <;> simp only [cowStep, here, reduceCtorEq] at taken
      cases taken
      exact acts_construct given here x
  | constructDefault h =>
      cases here : state.handle h <;> simp only [cowStep, here, reduceCtorEq] at taken
      obtain ⟨model, allocated, value⟩ := Option.map_eq_some_iff.mp kept
      simp only [CowState.access, allocated] at taken
      cases taken
      exact acts_construct_default given here allocated value
  | copyConstruct h x =>
      simp only [cowStep] at taken
      split at taken
      case h_2 => cases taken
      case h_1 here there =>
        obtain ⟨model, allocated, alive, seen⟩ := given.model_of_ready there
        simp only [CowState.access, allocated] at taken
        cases taken
        exact acts_copy_construct given here there allocated alive seen
  | moveConstruct h x =>
      simp only [cowStep] at taken
      split at taken
      case h_2 => cases taken
      case h_1 here there =>
        cases taken
        exact acts_move_construct given here there
  | destroy h =>
      cases here : state.handle h <;> simp only [cowStep, here, reduceCtorEq] at taken
      cases taken
      exact acts_destroy given here
  | copyAssign h x =>
      simp only [cowStep] at taken
      split at taken
      case h_2 => cases taken
      case h_1 here there =>
        obtain ⟨model, allocated, alive, seen⟩ := given.model_of_ready there
        simp only [CowState.access, allocated] at taken
        cases taken
        exact acts_copy_assign given here there allocated alive seen
  | moveAssign h x =>
      simp only [cowStep] at taken
      split at taken
      case h_2 => cases taken
      case h_1 here there =>
        split_ifs at taken with same
        · cases taken
          subst same
          exact acts_self_move given h
        · cases taken
          exact acts_move_assign given same here there
  | swap h x =>
      simp only [cowStep] at taken
      split at taken
      case h_2 => cases taken
      case h_1 here there =>
        cases taken
        exact acts_swap given here there
  | beginWrite h =>
      simp only [cowStep] at taken
      split at taken
      case h_2 => cases taken
      case h_1 here =>
        cases taken
        obtain ⟨model, allocated, _, _⟩ := given.model_of_ready here
        exact acts_begin_write given here allocated
  | copyModel h =>
      cases here : state.handle h <;> simp only [cowStep, here, reduceCtorEq] at taken
      cases taken
      exact acts_copy_model given here
  | store h x =>
      cases here : state.handle h <;> simp only [cowStep, here, reduceCtorEq] at taken
      cases taken
      obtain ⟨kept, seen⟩ := store_invariant given (by rw [here]; rfl)
        (fun address => by rw [here, refs_settled _ rfl rfl]; simp) (fun _ => by rw [here]; rfl) x
      exact ⟨kept, congrArg some seen.symm⟩
  | beginAssign h =>
      cases here : state.handle h <;> simp only [cowStep, here, reduceCtorEq] at taken
      cases taken
      exact acts_begin_assign given here
  | finishAssign h x =>
      cases here : state.handle h <;> simp only [cowStep, here, reduceCtorEq] at taken
      case assigning self =>
        cases taken
        obtain ⟨kept, seen⟩ := store_invariant given (by rw [here]; rfl)
          (fun address => by rw [here, refs_settled _ rfl rfl]; simp) (fun _ => by rw [here]; rfl) x
        exact ⟨kept, congrArg some seen.symm⟩
      case replacing self =>
        cases taken
        exact acts_replace given here x
  | release h =>
      cases here : state.handle h <;> simp only [cowStep, here, reduceCtorEq] at taken
      cases taken
      obtain ⟨kept, seen⟩ := release_invariant given here
      exact ⟨kept, congrArg some seen.symm⟩
  | delete h =>
      cases here : state.handle h <;> simp only [cowStep, here, reduceCtorEq] at taken
      cases taken
      obtain ⟨kept, seen⟩ := delete_invariant given here
      exact ⟨kept, congrArg some seen.symm⟩

omit [DecidableEq Handle] in
theorem cow_start : CowInvariant (CowState.start : CowState Handle Value) := by
  have noRefs (address : Nat) : (CowState.start : CowState Handle Value).refs address = 0 :=
    tally_zero_iff.mpr fun _ => rfl
  have noDeleters (address : Nat) :
      (CowState.start : CowState Handle Value).deleters address = 0 :=
    tally_zero_iff.mpr fun _ => rfl
  refine ⟨rfl, ?_, ?_, Nat.one_pos, nofun⟩
  · intro address
    rw [noRefs, noDeleters]
    by_cases static : address = 0
    · subst static
      simp [CowState.start, Accounts]
    · simp [CowState.start, Accounts, static]
  · intro address beyond
    have away : address ≠ 0 := Nat.ne_of_gt beyond
    simp [CowState.start, away]

theorem reachable_cow (reached : Reachable (cowSystem Handle Value) anyStep state) :
    CowInvariant state ∧ DefaultKept state := by
  apply reached.keeps
  · rintro _ rfl
    exact ⟨cow_start, by simp [DefaultKept, CowState.start]⟩
  · rintro label before next ⟨given, kept⟩ _ taken
    exact ⟨(acts_step given kept taken).1, default_kept given kept taken⟩

/-- No model is used or deleted where there is none, the count of each model is the number
of objects that point to it, and a model outlives its last object only until the one
object that dropped it has deleted it. -/
theorem copy_on_write_memory_safe (state : CowState Handle Value)
    (reached : Reachable (cowSystem Handle Value) anyStep state) :
    state.undefined = false ∧
    (∀ address model, state.heap address = some model →
      model.count = state.refs address + (if address = 0 then 1 else 0) ∧
      (model.count = 0 → ∃! h, ∃ after, state.handle h = .deleting address after)) ∧
    ((∀ h, state.handle h = .absent) →
      ∀ address, address ≠ 0 → state.heap address = none) := by
  obtain ⟨given, _⟩ := reachable_cow reached
  refine ⟨given.defined, ?_, ?_⟩
  · intro address model allocated
    have accounts := given.accounts address
    rw [allocated] at accounts
    refine ⟨accounts.1, fun zero => one_deleter ?_⟩
    rw [accounts.2, if_pos zero]
  · intro gone address dynamic
    by_contra left
    obtain ⟨model, allocated⟩ := Option.ne_none_iff_exists'.mp left
    have accounts := given.accounts address
    rw [allocated] at accounts
    have unreferenced : state.refs address = 0 :=
      tally_zero_iff.mpr fun h => by rw [gone h]; rfl
    have zero : model.count = 0 := by
      rw [accounts.1, unreferenced, if_neg dynamic]
    have one : state.deleters address = 1 := by
      rw [accounts.2, if_pos zero]
    obtain ⟨h, ⟨after, here⟩, _⟩ := one_deleter one
    rw [gone h] at here
    cases here

/-- Two objects that share a model are destroyed at the same time. -/
theorem copy_on_write_memory_safe_two_destructors :
    ∃ state : CowState Bool Nat, (∀ h, state.handle h = .absent) ∧ state.nextAddress = 2 ∧
      state.heap 1 = none := by
  obtain ⟨state, reached, gone, used⟩ : ∃ state, Reachable (cowSystem Bool Nat) anyStep state ∧
      (∀ h, state.handle h = .absent) ∧ state.nextAddress = 2 :=
    schedule_reaches [.construct true 5, .copyConstruct false true, .destroy true, .destroy false,
      .release true, .release false, .delete false] rfl (by decide)
  exact ⟨state, gone, used,
    (copy_on_write_memory_safe state reached).2.2 gone 1 Nat.one_ne_zero⟩

end Schedulers.Stlab
