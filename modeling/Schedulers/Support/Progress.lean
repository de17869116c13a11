import Schedulers.Support.TransitionSystem
import Mathlib.Tactic.Common

/-!
# Runs that come to an end

A run with its number of steps, the states in which no permitted step is enabled, and
the potential rule: where each permitted step lowers a potential, no run is longer than
the potential it starts with, and every state has a run to a settled one.
-/

namespace Schedulers.TransitionSystem

set_option autoImplicit false

variable {State Label : Type}

inductive CountedRun (system : System State Label) (permitted : Permission State Label) :
    Nat → State → State → Prop where
  | refl (state : State) : CountedRun system permitted 0 state state
  | tail {steps : Nat} {start middle finish : State} (label : Label)
      (before : CountedRun system permitted steps start middle) (allowed : permitted label middle)
      (taken : system.step label middle = some finish) :
      CountedRun system permitted (steps + 1) start finish

def Settled (system : System State Label) (permitted : Permission State Label)
    (state : State) : Prop :=
  ∀ label, permitted label state → system.step label state = none

variable {system : System State Label} {permitted : Permission State Label}

theorem Run.weaken {weaker : Permission State Label}
    (implied : ∀ label state, permitted label state → weaker label state) {start finish : State}
    (run : Run system permitted start finish) : Run system weaker start finish := by
  induction run with
  | refl => exact .refl _
  | tail label _ allowed taken ih => exact ih.tail label (implied label _ allowed) taken

theorem Reachable.unrestricted {state : State} (reached : Reachable system permitted state) :
    Reachable system anyStep state := by
  obtain ⟨origin, begins, run⟩ := reached
  exact ⟨origin, begins, run.weaken fun _ _ _ => trivial⟩

theorem Reachable.extend {start finish : State} (reached : Reachable system anyStep start)
    (run : Run system permitted start finish) : Reachable system anyStep finish := by
  obtain ⟨origin, begins, before⟩ := reached
  exact ⟨origin, begins, before.trans (run.weaken fun _ _ _ => trivial)⟩

/-- `potential state amount`: at most `amount` permitted steps can follow. Each permitted
step leaves less of it. -/
def Lowers (system : System State Label) (permitted : Permission State Label)
    (potential : State → Nat → Prop) : Prop :=
  ∀ label state next amount, potential state amount → permitted label state →
    system.step label state = some next → ∃ less, less < amount ∧ potential next less

variable {potential : State → Nat → Prop}

theorem CountedRun.spends (lowers : Lowers system permitted potential) {steps amount : Nat}
    {start finish : State} (counted : CountedRun system permitted steps start finish)
    (atStart : potential start amount) :
    ∃ left, steps + left ≤ amount ∧ potential finish left := by
  induction counted with
  | refl => exact ⟨amount, by omega, atStart⟩
  | tail label _ allowed taken ih =>
      obtain ⟨left, within, remains⟩ := ih atStart
      obtain ⟨less, smaller, after⟩ := lowers label _ _ left remains allowed taken
      exact ⟨less, by omega, after⟩

/-- Whatever the order of the steps, they come to an end. -/
theorem CountedRun.bounded (lowers : Lowers system permitted potential) {steps amount : Nat}
    {start finish : State} (counted : CountedRun system permitted steps start finish)
    (atStart : potential start amount) : steps ≤ amount := by
  obtain ⟨left, within, _⟩ := counted.spends lowers atStart
  omega

theorem Lowers.settled (lowers : Lowers system permitted potential) {state : State}
    (nothingLeft : potential state 0) : Settled system permitted state := by
  intro label allowed
  by_contra enabled
  obtain ⟨next, taken⟩ := Option.ne_none_iff_exists'.mp enabled
  obtain ⟨less, smaller, _⟩ := lowers label state next 0 nothingLeft allowed taken
  exact Nat.not_lt_zero less smaller

theorem settles (lowers : Lowers system permitted potential) {amount : Nat} {start : State}
    (atStart : potential start amount) :
    ∃ finish, Run system permitted start finish ∧ Settled system permitted finish := by
  induction amount using Nat.strongRecOn generalizing start with
  | ind amount ih =>
      by_cases settled : Settled system permitted start
      · exact ⟨start, .refl start, settled⟩
      · unfold Settled at settled
        push Not at settled
        obtain ⟨label, allowed, enabled⟩ := settled
        obtain ⟨next, taken⟩ := Option.ne_none_iff_exists'.mp enabled
        obtain ⟨less, smaller, after⟩ := lowers label start next amount atStart allowed taken
        obtain ⟨finish, rest, settles⟩ := ih less smaller after
        exact ⟨finish, (Run.single label allowed taken).trans rest, settles⟩

end Schedulers.TransitionSystem
