import Mathlib.Tactic.Common

/-!
# Code under one mutex, with copies that may throw

What one thread executes from taking a mutex to releasing it: reads and updates of the
shared data, notifications, and copies of elements, each of which may throw. The mutex
is not recursive. A scoped lock releases it on the way out of an exception; a mutex that
was locked by hand stays locked.
-/

namespace Schedulers.LockedCode

set_option autoImplicit false

inductive Signal (Condition : Type) where
  | one (condition : Condition)
  | all (condition : Condition)
  deriving DecidableEq, Repr

/-- `signals` has the notifications issued so far, and `copies` says which of the coming
copies throw. -/
structure Memory (Shared Condition : Type) where
  shared : Shared
  locked : Bool
  signals : List (Signal Condition)
  copies : List Bool
  deriving DecidableEq, Repr

/-- Why code does not come to its end: an exception, or a lock that is never released. -/
inductive Stop (Exception : Type) where
  | thrown (exception : Exception)
  | stuck
  deriving DecidableEq, Repr

abbrev Code (Shared Condition Exception : Type) :=
  EStateM (Stop Exception) (Memory Shared Condition)

variable {Shared Condition Exception Value : Type}

abbrev Outcome (Shared Condition Exception Value : Type) :=
  EStateM.Result (Stop Exception) (Memory Shared Condition) Value

def lock : Code Shared Condition Exception Unit := fun memory =>
  if memory.locked then .error .stuck memory else .ok () { memory with locked := true }

def unlock : Code Shared Condition Exception Unit :=
  modify fun memory => { memory with locked := false }

/-- The end of a scope that holds the lock: its destructor runs unless the thread is
stuck. -/
def released : Outcome Shared Condition Exception Value → Outcome Shared Condition Exception Value
  | .ok value memory => .ok value { memory with locked := false }
  | .error (.thrown exception) memory => .error (.thrown exception) { memory with locked := false }
  | .error .stuck memory => .error .stuck memory

def holding (body : Code Shared Condition Exception Value) :
    Code Shared Condition Exception Value := fun memory =>
  released (body.run memory)

def scopedLock (body : Code Shared Condition Exception Value) :
    Code Shared Condition Exception Value := do
  lock
  holding body

def readShared : Code Shared Condition Exception Shared := do
  return (← get).shared

def update (change : Shared → Shared) : Code Shared Condition Exception Unit :=
  modify fun memory => { memory with shared := change memory.shared }

def notify (signal : Signal Condition) : Code Shared Condition Exception Unit :=
  modify fun memory => { memory with signals := memory.signals ++ [signal] }

def raise (exception : Exception) : Code Shared Condition Exception Value :=
  throw (.thrown exception)

def nextThrows (copies : List Bool) : Bool := copies.headD false

def copy (failure : Exception) (value : Value) : Code Shared Condition Exception Value :=
  fun memory =>
    let after := { memory with copies := memory.copies.tail }
    if nextThrows memory.copies then .error (.thrown failure) after else .ok value after

def memoryAfter : Outcome Shared Condition Exception Value → Memory Shared Condition
  | .ok _ memory => memory
  | .error _ memory => memory

def isStuck : Outcome Shared Condition Exception Value → Bool
  | .error .stuck _ => true
  | _ => false

section Runs

variable (memory : Memory Shared Condition)

theorem run_lock (free : memory.locked = false) :
    (lock : Code Shared Condition Exception Unit).run memory =
      .ok () { memory with locked := true } := by
  simp [lock, EStateM.run, free]

theorem run_lock_held (held : memory.locked = true) :
    (lock : Code Shared Condition Exception Unit).run memory = .error .stuck memory := by
  simp [lock, EStateM.run, held]

@[simp] theorem run_unlock :
    (unlock : Code Shared Condition Exception Unit).run memory =
      .ok () { memory with locked := false } := rfl

@[simp] theorem run_readShared :
    (readShared : Code Shared Condition Exception Shared).run memory =
      .ok memory.shared memory := rfl

@[simp] theorem run_update (change : Shared → Shared) :
    (update change : Code Shared Condition Exception Unit).run memory =
      .ok () { memory with shared := change memory.shared } := rfl

@[simp] theorem run_notify (signal : Signal Condition) :
    (notify signal : Code Shared Condition Exception Unit).run memory =
      .ok () { memory with signals := memory.signals ++ [signal] } := rfl

@[simp] theorem run_raise (exception : Exception) :
    (raise exception : Code Shared Condition Exception Value).run memory =
      .error (.thrown exception) memory := rfl

@[simp] theorem run_copy (failure : Exception) (value : Value) :
    (copy failure value : Code Shared Condition Exception Value).run memory =
      if nextThrows memory.copies then
        .error (.thrown failure) { memory with copies := memory.copies.tail }
      else .ok value { memory with copies := memory.copies.tail } := rfl

theorem run_lock_read (rest : Shared → Code Shared Condition Exception Value) :
    (lock >>= fun _ => readShared >>= rest).run memory =
      (lock >>= fun _ => rest memory.shared).run memory := by
  cases held : memory.locked with
  | true => rw [EStateM.run_bind, EStateM.run_bind, run_lock_held memory held]
  | false => simp [run_lock memory held]

@[simp] theorem run_map {Mapped : Type} (function : Value → Mapped)
    (code : Code Shared Condition Exception Value) :
    (function <$> code).run memory =
      match code.run memory with
      | .ok value after => .ok (function value) after
      | .error stop after => .error stop after := by
  rw [map_eq_pure_bind, EStateM.run_bind]
  cases code.run memory <;> rfl

theorem run_map_error {Mapped : Type} {function : Value → Mapped}
    {code : Code Shared Condition Exception Value} {memory after : Memory Shared Condition}
    {stop : Stop Exception} (ran : (function <$> code).run memory = .error stop after) :
    code.run memory = .error stop after := by
  rw [run_map] at ran
  cases outcome : code.run memory with
  | ok => simp [outcome] at ran
  | error => simpa [outcome] using ran

@[simp] theorem released_ok (value : Value) :
    (released (.ok value memory) : Outcome Shared Condition Exception Value) =
      .ok value { memory with locked := false } := rfl

@[simp] theorem released_thrown (exception : Exception) :
    (released (.error (.thrown exception) memory) : Outcome Shared Condition Exception Value) =
      .error (.thrown exception) { memory with locked := false } := rfl

@[simp] theorem released_stuck :
    (released (.error .stuck memory) : Outcome Shared Condition Exception Value) =
      .error .stuck memory := rfl

theorem run_scopedLock_held (body : Code Shared Condition Exception Value)
    (held : memory.locked = true) : (scopedLock body).run memory = .error .stuck memory := by
  rw [scopedLock, EStateM.run_bind, run_lock_held memory held]

theorem run_scopedLock (body : Code Shared Condition Exception Value)
    (free : memory.locked = false) :
    (scopedLock body).run memory = released (body.run { memory with locked := true }) := by
  rw [scopedLock, EStateM.run_bind, run_lock memory free]
  rfl

end Runs

/-- Code that comes to its end has taken the free mutex and released it, and an exception
leaves it as it was. -/
def Restores (memory : Memory Shared Condition) : Outcome Shared Condition Exception Value → Prop
  | .ok _ after => memory.locked = false ∧ after.locked = false
  | .error (.thrown _) after => after.locked = memory.locked
  | .error .stuck _ => True

theorem restores_scopedLock (body : Code Shared Condition Exception Value)
    (memory : Memory Shared Condition) : Restores memory ((scopedLock body).run memory) := by
  cases held : memory.locked with
  | true =>
      rw [run_scopedLock_held memory body held]
      trivial
  | false =>
      rw [run_scopedLock memory body held]
      rcases body.run { memory with locked := true } with ⟨value, after⟩ | ⟨_ | _, after⟩
      · exact ⟨held, rfl⟩
      · exact held.symm
      · trivial

theorem restores_map {Mapped : Type} (function : Value → Mapped)
    {code : Code Shared Condition Exception Value} {memory : Memory Shared Condition}
    (given : Restores memory (code.run memory)) :
    Restores memory ((function <$> code).run memory) := by
  rw [run_map]
  revert given
  rcases code.run memory with ⟨value, after⟩ | ⟨_ | _, after⟩ <;> exact id

theorem restores_copy_bind {Result : Type} (failure : Exception) (value : Value)
    {rest : Value → Code Shared Condition Exception Result}
    (given : ∀ memory, Restores memory ((rest value).run memory))
    (memory : Memory Shared Condition) :
    Restores memory ((copy failure value >>= rest).run memory) := by
  rw [EStateM.run_bind, run_copy]
  by_cases throws : nextThrows memory.copies = true
  · rw [if_pos throws]
    exact rfl
  · rw [if_neg throws]
    exact given { memory with copies := memory.copies.tail }

end Schedulers.LockedCode
