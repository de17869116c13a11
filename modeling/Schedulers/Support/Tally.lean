import Mathlib.Algebra.BigOperators.Group.Finset.Piecewise
import Mathlib.Algebra.Order.BigOperators.Group.Finset
import Mathlib.Tactic.Common

/-!
# Tallies

The sum of a weight over the points of finitely many parties, and what it becomes when
one of them moves. Invariants that count (references to a block, places a task is in)
are kept by comparing the tallies before and after a step.
-/

namespace Schedulers.Tally

set_option autoImplicit false

variable {Index Point : Type} [Fintype Index]

def tally (weight : Point → Nat) (points : Index → Point) : Nat :=
  ∑ index, weight (points index)

theorem weight_le_tally (weight : Point → Nat) (points : Index → Point) (index : Index) :
    weight (points index) ≤ tally weight points :=
  Finset.single_le_sum (f := fun index => weight (points index)) (fun _ _ => Nat.zero_le _)
    (Finset.mem_univ index)

theorem tally_zero_iff {weight : Point → Nat} {points : Index → Point} :
    tally weight points = 0 ↔ ∀ index, weight (points index) = 0 := by
  simp [tally]

theorem tally_pos {weight : Point → Nat} {points : Index → Point}
    (positive : 0 < tally weight points) : ∃ index, 0 < weight (points index) := by
  by_contra none
  push Not at none
  have zero : tally weight points = 0 := tally_zero_iff.mpr fun index => by
    simpa using none index
  omega

variable [DecidableEq Index]

omit [Fintype Index] in
/-- One of the parties counted moves: the sum loses its old weight and gains the new one. -/
theorem sum_update {parties : Finset Index} (weight : Point → Nat) (points : Index → Point)
    {index : Index} (member : index ∈ parties) (point : Point) :
    ∑ other ∈ parties, weight (Function.update points index point other) +
        weight (points index) =
      ∑ other ∈ parties, weight (points other) + weight point := by
  have others : ∑ other ∈ parties.erase index,
      weight (Function.update points index point other) =
      ∑ other ∈ parties.erase index, weight (points other) := by
    refine Finset.sum_congr rfl fun other member => ?_
    rw [Function.update_of_ne (Finset.ne_of_mem_erase member)]
  have after := Finset.add_sum_erase parties
    (fun other => weight (Function.update points index point other)) member
  have before := Finset.add_sum_erase parties (fun other => weight (points other)) member
  simp only [Function.update_self, others] at after
  omega

theorem tally_update (weight : Point → Nat) (points : Index → Point) (index : Index)
    (point : Point) :
    tally weight (Function.update points index point) + weight (points index) =
      tally weight points + weight point :=
  sum_update weight points (Finset.mem_univ index) point

theorem two_weights_le_tally (weight : Point → Nat) (points : Index → Point)
    {index other : Index} (different : other ≠ index) :
    weight (points index) + weight (points other) ≤ tally weight points := by
  have rest := Finset.add_sum_erase Finset.univ (fun index => weight (points index))
    (Finset.mem_univ index)
  have part : weight (points other) ≤ ∑ index ∈ Finset.univ.erase index, weight (points index) :=
    Finset.single_le_sum (f := fun index => weight (points index)) (fun _ _ => Nat.zero_le _)
      (Finset.mem_erase.mpr ⟨different, Finset.mem_univ other⟩)
  unfold tally
  omega

end Schedulers.Tally
