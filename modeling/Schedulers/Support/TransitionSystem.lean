import Mathlib.Tactic.Common

/-!
# Labelled transition systems

A system is a set of initial states and a partial step function; a label names the
party that moves and what it does. Runs may be limited to steps that meet a
condition on the state they are taken in, and invariants are proved from what one
such step preserves.
-/

namespace Schedulers.TransitionSystem

set_option autoImplicit false

/-- A step that is not enabled has no result. -/
structure System (State Label : Type) where
  initial : State → Prop
  step : Label → State → Option State

variable {State Label : Type}

/-- A condition on the steps of a run: the label and the state it is taken in. -/
abbrev Permission (State Label : Type) := Label → State → Prop

def anyStep : Permission State Label := fun _ _ => True

inductive Run (system : System State Label) (permitted : Permission State Label) :
    State → State → Prop where
  | refl (state : State) : Run system permitted state state
  | tail {start middle finish : State} (label : Label) (before : Run system permitted start middle)
      (allowed : permitted label middle) (taken : system.step label middle = some finish) :
      Run system permitted start finish

def Reachable (system : System State Label) (permitted : Permission State Label)
    (state : State) : Prop :=
  ∃ start, system.initial start ∧ Run system permitted start state

variable {system : System State Label} {permitted : Permission State Label}

theorem Run.trans {start middle finish : State} (first : Run system permitted start middle)
    (second : Run system permitted middle finish) : Run system permitted start finish := by
  induction second with
  | refl => exact first
  | tail label _ allowed taken ih => exact ih.tail label allowed taken

theorem Run.single {start finish : State} (label : Label) (allowed : permitted label start)
    (taken : system.step label start = some finish) : Run system permitted start finish :=
  (Run.refl start).tail label allowed taken

theorem Run.keeps {fact : State → Prop}
    (kept : ∀ label state next, fact state → permitted label state →
      system.step label state = some next → fact next)
    {start finish : State} (run : Run system permitted start finish) (atStart : fact start) :
    fact finish := by
  induction run with
  | refl => exact atStart
  | tail label _ allowed taken ih => exact kept label _ _ ih allowed taken

/-- The invariant rule: what holds at the start and is kept by each permitted step
holds in every reachable state. -/
theorem Reachable.keeps {fact : State → Prop} (atStart : ∀ state, system.initial state → fact state)
    (kept : ∀ label state next, fact state → permitted label state →
      system.step label state = some next → fact next)
    {state : State} (reached : Reachable system permitted state) : fact state := by
  obtain ⟨start, begins, run⟩ := reached
  exact run.keeps kept (atStart start begins)

theorem Reachable.next {state next : State} (label : Label)
    (reached : Reachable system permitted state) (allowed : permitted label state)
    (taken : system.step label state = some next) : Reachable system permitted next := by
  obtain ⟨start, begins, run⟩ := reached
  exact ⟨start, begins, run.tail label allowed taken⟩

/-- Takes the labels one after the other, as long as each is enabled and permitted. -/
def System.follow (system : System State Label) (permitted : Permission State Label)
    [∀ label state, Decidable (permitted label state)] : List Label → State → Option State
  | [], state => some state
  | label :: labels, state =>
      if permitted label state then
        (system.step label state).bind (system.follow permitted labels)
      else none

instance (label : Label) (state : State) : Decidable (anyStep label state) := isTrue trivial

theorem follow_cons_any (system : System State Label) (label : Label) (labels : List Label)
    (state : State) :
    system.follow anyStep (label :: labels) state =
      (system.step label state).bind (system.follow anyStep labels) :=
  if_pos trivial

theorem follow_snoc_any (system : System State Label) (labels : List Label) (label : Label)
    (state : State) :
    system.follow anyStep (labels ++ [label]) state =
      (system.follow anyStep labels state).bind (system.step label) := by
  induction labels generalizing state with
  | nil =>
      rw [List.nil_append, follow_cons_any]
      exact Option.bind_fun_some _
  | cons first rest ih =>
      rw [List.cons_append, follow_cons_any, follow_cons_any, Option.bind_assoc]
      exact congrArg _ (funext ih)

theorem follow_run [∀ label state, Decidable (permitted label state)] {labels : List Label}
    {start finish : State} (followed : system.follow permitted labels start = some finish) :
    Run system permitted start finish := by
  induction labels generalizing start with
  | nil =>
      cases followed
      exact .refl _
  | cons label labels ih =>
      unfold System.follow at followed
      split_ifs at followed with allowed
      obtain ⟨next, taken, rest⟩ := Option.bind_eq_some_iff.mp followed
      exact (Run.single label allowed taken).trans (ih rest)

/-- A schedule whose last state has a property shows that some reachable state has it. -/
theorem schedule_reaches [∀ label state, Decidable (permitted label state)] {start : State}
    {property : State → Prop} [DecidablePred property] (labels : List Label)
    (begins : system.initial start)
    (found : (system.follow permitted labels start).any (property ·) = true) :
    ∃ state, Reachable system permitted state ∧ property state := by
  cases followed : system.follow permitted labels start with
  | none => simp [followed] at found
  | some state =>
      refine ⟨state, ⟨start, begins, follow_run followed⟩, ?_⟩
      simpa [followed] using found

end Schedulers.TransitionSystem
