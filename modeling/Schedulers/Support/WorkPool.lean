import Mathlib.Data.List.Perm.Basic

/-!
# Pools of routines that do work

A pool accepts work or answers with an error, and gives work to a routine that is free.
When it refuses and what it gives first is the pool's affair; what its users rely on is
that accepted work is given once, and that a free routine is not kept from work that
waits. A queue with a capacity is such a pool.
-/

namespace Schedulers.WorkPools

set_option autoImplicit false

/-- `choice` is what only the pool knows when it decides. `postWork` without a result is
its error; `nextWork` without one has nothing to give. -/
structure WorkPool (Pool Work : Type) where
  new : Pool
  postWork : (choice : Nat) → Work → Pool → Option Pool
  nextWork : (choice : Nat) → Pool → Option (Work × Pool)

variable {Pool Work : Type}

/-- What the users of a pool rely on, with `queued` the work that it has accepted and not
yet given to a routine. -/
structure WorkPool.Delivers (pool : WorkPool Pool Work) (queued : Pool → List Work) : Prop where
  startsEmpty : queued pool.new = []
  accepts : ∀ {choice work before after}, pool.postWork choice work before = some after →
    (queued after).Perm (work :: queued before)
  gives : ∀ {choice work before after}, pool.nextWork choice before = some (work, after) →
    (queued before).Perm (work :: queued after)
  serves : ∀ state, queued state ≠ [] → ∃ choice, pool.nextWork choice state ≠ none

/-- Accepts work while less than `capacity` waits, and gives the oldest first. -/
def boundedFifo (Work : Type) (capacity : Nat) : WorkPool (List Work) Work where
  new := []
  postWork _ work queued :=
    if queued.length < capacity then some (queued ++ [work]) else none
  nextWork _ queued :=
    match queued with
    | [] => none
    | work :: rest => some (work, rest)

theorem bounded_fifo_delivers (Work : Type) (capacity : Nat) :
    (boundedFifo Work capacity).Delivers id where
  startsEmpty := rfl
  accepts := by
    intro choice work before after accepted
    simp only [boundedFifo] at accepted
    split_ifs at accepted
    cases accepted
    exact List.perm_append_singleton work before
  gives := by
    intro choice work before after given
    cases before with
    | nil => cases given
    | cons first rest =>
        cases given
        exact List.Perm.refl _
  serves := by
    intro state filled
    cases state with
    | nil => exact absurd rfl filled
    | cons first rest => exact ⟨0, nofun⟩

end Schedulers.WorkPools
