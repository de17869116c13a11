import Mathlib.Data.Finset.Card
import Mathlib.Logic.Function.Basic

/-!
# Counting threads at a point

How many threads are at a point of some kind, where the threads may be any type:
`AtLeast` gives that many different ones. The lemmas say what one thread that moves
does to the count.
-/

namespace Schedulers.ThreadCounting

set_option autoImplicit false

variable {Thread Point : Type}

def AtLeast (count : Nat) (kind : Point → Prop) (points : Thread → Point) : Prop :=
  ∃ threads : Finset Thread, count ≤ threads.card ∧ ∀ thread ∈ threads, kind (points thread)

variable {kind : Point → Prop} {points : Thread → Point} {count : Nat}

theorem at_least_zero (kind : Point → Prop) (points : Thread → Point) : AtLeast 0 kind points :=
  ⟨∅, Nat.zero_le _, by simp⟩

theorem AtLeast.fewer {fewer : Nat} (given : AtLeast count kind points) (less : fewer ≤ count) :
    AtLeast fewer kind points := by
  obtain ⟨threads, enough, each⟩ := given
  exact ⟨threads, Nat.le_trans less enough, each⟩

theorem at_least_one {thread : Thread} (there : kind (points thread)) : AtLeast 1 kind points := by
  refine ⟨{thread}, by simp, ?_⟩
  intro other member
  rw [Finset.mem_singleton.mp member]
  exact there

theorem AtLeast.somebody (given : AtLeast (count + 1) kind points) :
    ∃ thread, kind (points thread) := by
  obtain ⟨threads, enough, each⟩ := given
  obtain ⟨thread, member⟩ := Finset.card_pos.mp (Nat.lt_of_lt_of_le (Nat.succ_pos count) enough)
  exact ⟨thread, each thread member⟩

variable [DecidableEq Thread] {thread : Thread} {point : Point}

theorem AtLeast.arrive (given : AtLeast count kind points) (before : ¬kind (points thread))
    (now : kind point) : AtLeast (count + 1) kind (Function.update points thread point) := by
  obtain ⟨threads, enough, each⟩ := given
  have fresh : thread ∉ threads := fun member => before (each thread member)
  refine ⟨insert thread threads, ?_, ?_⟩
  · rw [Finset.card_insert_of_notMem fresh]
    exact Nat.succ_le_succ enough
  · intro other member
    rcases Finset.mem_insert.mp member with rfl | inside
    · rw [Function.update_self]
      exact now
    · have different : other ≠ thread := fun same => fresh (same ▸ inside)
      rw [Function.update_of_ne different]
      exact each other inside

/-- Whatever one thread does, at most one is lost. -/
theorem AtLeast.leave (given : AtLeast (count + 1) kind points) :
    AtLeast count kind (Function.update points thread point) := by
  obtain ⟨threads, enough, each⟩ := given
  refine ⟨threads.erase thread, ?_, ?_⟩
  · have remaining := @Finset.pred_card_le_card_erase _ threads thread _
    omega
  · intro other member
    obtain ⟨different, inside⟩ := Finset.mem_erase.mp member
    rw [Function.update_of_ne different]
    exact each other inside

end Schedulers.ThreadCounting
