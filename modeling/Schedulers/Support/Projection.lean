import Schedulers.Support.TransitionSystem

/-!
# Seeing only part of a state

A system in which each step depends only on what is seen of the state has the runs of
the system of what is seen: every run is seen as one of those, and each of those is what
is seen of some run. The steps need to agree in states that the seen system can reach.
-/

namespace Schedulers.TransitionSystem

set_option autoImplicit false

variable {State Seen Label : Type}

/-- `holds` is an invariant of the seen system, under which the steps agree. -/
structure Projects (system : System State Label) (seen : System Seen Label)
    (view : State → Seen) (holds : Seen → Prop) : Prop where
  initial : ∀ state, system.initial state → seen.initial (view state)
  begins : ∀ state, seen.initial state → holds state
  kept : ∀ label state next, holds state → seen.step label state = some next → holds next
  steps : ∀ label state, holds (view state) →
    (system.step label state).map view = seen.step label (view state)

variable {system : System State Label} {seen : System Seen Label} {view : State → Seen}
  {holds : Seen → Prop} {permitted : Permission State Label}
  {permittedSeen : Permission Seen Label}

theorem Projects.run (projects : Projects system seen view holds)
    (allowed : ∀ label state, permitted label state → permittedSeen label (view state))
    {start finish : State} (run : Run system permitted start finish)
    (atStart : holds (view start)) :
    holds (view finish) ∧ Run seen permittedSeen (view start) (view finish) := by
  induction run with
  | refl => exact ⟨atStart, .refl _⟩
  | tail label _ permits taken ih =>
      obtain ⟨before, seenRun⟩ := ih
      have seenStep := projects.steps label _ before
      rw [taken] at seenStep
      exact ⟨projects.kept label _ _ before seenStep.symm,
        seenRun.tail label (allowed label _ permits) seenStep.symm⟩

theorem Projects.reachable (projects : Projects system seen view holds)
    (allowed : ∀ label state, permitted label state → permittedSeen label (view state))
    {state : State} (reached : Reachable system permitted state) :
    Reachable seen permittedSeen (view state) := by
  obtain ⟨start, begins, run⟩ := reached
  have atStart := projects.initial start begins
  exact ⟨view start, atStart, (projects.run allowed run (projects.begins _ atStart)).2⟩

/-- Each run of what is seen is what is seen of a run. -/
theorem Projects.lift (projects : Projects system seen view holds)
    (allowed : ∀ label state, permittedSeen label (view state) → permitted label state)
    {start : State} {finish : Seen} (run : Run seen permittedSeen (view start) finish)
    (atStart : holds (view start)) :
    ∃ state, Run system permitted start state ∧ view state = finish := by
  have both : ∃ state, Run system permitted start state ∧ view state = finish ∧
      holds finish := by
    induction run with
    | refl => exact ⟨start, .refl start, rfl, atStart⟩
    | tail label _ permits taken ih =>
        obtain ⟨state, reached, rfl, before⟩ := ih
        have steps := projects.steps label state before
        rw [taken] at steps
        obtain ⟨next, moved, shows⟩ := Option.map_eq_some_iff.mp steps
        exact ⟨next, reached.tail label (allowed label state permits) moved, shows,
          projects.kept label _ _ before taken⟩
  obtain ⟨state, reached, shows, _⟩ := both
  exact ⟨state, reached, shows⟩

end Schedulers.TransitionSystem
