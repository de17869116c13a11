import Schedulers.Support.TransitionSystem
import Mathlib.Logic.Function.Basic
import Mathlib.Tactic.Common

/-!
# Futures and their continuations

`async`, `then` and `recover` each make a `shared` object: its function, its outcome, and
in `_then` the packaged tasks of the continuations attached before it was ready. A packaged
task owns its object weakly, a future owns it, and the function of a continuation owns the
future it continues. An object lives as long as somebody owns it.

The objects are numbered as they are made, and the futures that clients hold of each are
counted. The tasks given to executors may be taken, or destroyed, in any order. Each
section under the mutex of an object is one step; `remove_promise` keeps the mutex until the
tasks in `_then` are gone.

The functions return no futures (`R` is `reduced_t<R>`): the reduction of a future of a
future, and the branch of `remove_promise` for it that only counts, are not modelled. Nor are
futures of values that can only be moved, which hold a single continuation, and the calls on a
future that is given away (`then`, `recover` and `get_try` of an rvalue).
-/

namespace Schedulers.Futures

open Schedulers.TransitionSystem

set_option autoImplicit false

inductive Origin where
  | async
  | thenOf (future : Nat)
  | recoverOf (future : Nat)
  deriving DecidableEq, Repr

inductive FutureError (Failure : Type) where
  | brokenPromise
  | thrown (failure : Failure)
  deriving DecidableEq, Repr

/-- `_result` or `_exception` -/
abbrev Outcome (Value Failure : Type) := Except (FutureError Failure) Value

inductive Argument (Value Failure : Type) where
  | nothing
  | value (value : Value)
  | future (outcome : Outcome Value Failure)

/-- Where the packaged task of an object is. `promised`: not yet called or destroyed.
`entered`, `called`, `proceeding`: in `operator()` before or in the call of the function,
before `proceed` takes the mutex, and in its loop with the tasks still to be handed on.
`breaking`: in `remove_promise`, with the task of `_then` that is being destroyed. -/
inductive TaskPoint where
  | promised
  | entered
  | called
  | proceeding (tasks : List Nat)
  | breaking (task : Option Nat)
  | done
  deriving DecidableEq, Repr

/-- `futures` counts what clients hold; `function` is set while `_f` is not empty; `hold`:
the executor that `detach` has put into `_then` owns the object. -/
structure Shared (Value Failure : Type) where
  origin : Origin
  futures : Nat
  function : Bool
  outcome : Option (Outcome Value Failure)
  ready : Bool
  thenTasks : List Nat
  hold : Bool
  point : TaskPoint

/-- `submitted`: the packaged tasks that executors have. `calls`: what functions have been
called with, in order. -/
structure FutureState (Value Failure : Type) where
  count : Nat
  shared : Nat → Shared Value Failure
  submitted : List Nat
  calls : List (Nat × Argument Value Failure)

inductive FutureLabel where
  | make (origin : Origin)
  | copy (future : Nat)
  | drop (future : Nat)
  | detach (future : Nat)
  | start (task : Nat)
  | call (task : Nat)
  | proceed (task : Nat)
  | submit (task : Nat)
  | finish (task : Nat)
  | discard (task : Nat)
  | resetTask (task : Nat)
  | breakPromise (task : Nat)
  | destroy (task : Nat)
  deriving DecidableEq, Repr

variable {Value Failure : Type}

def Origin.antecedent : Origin → Option Nat
  | .async => none
  | .thenOf future | .recoverOf future => some future

/-- `get_ready` in `then` rethrows; `recover` passes the future on. -/
def Origin.takes : Origin → Outcome Value Failure →
    Except (FutureError Failure) (Argument Value Failure)
  | .async, _ => .ok .nothing
  | .thenOf _, outcome => outcome.map .value
  | .recoverOf _, outcome => .ok (.future outcome)

/-- The thread in `operator()` or `remove_promise` holds the pointer it has locked. -/
def TaskPoint.owns : TaskPoint → Bool
  | .entered | .called | .proceeding _ | .breaking _ => true
  | _ => false

def TaskPoint.locks : TaskPoint → Bool
  | .breaking _ => true
  | _ => false

def Shared.package (origin : Origin) : Shared Value Failure where
  origin := origin
  futures := 1
  function := true
  outcome := none
  ready := false
  thenTasks := []
  hold := false
  point := .promised

def Shared.unused : Shared Value Failure :=
  { Shared.package .async with futures := 0, function := false }

namespace FutureState

variable (state : FutureState Value Failure)

def modify (task : Nat) (change : Shared Value Failure → Shared Value Failure) :
    FutureState Value Failure :=
  { state with shared := Function.update state.shared task (change (state.shared task)) }

def goTo (task : Nat) (point : TaskPoint) : FutureState Value Failure :=
  state.modify task fun shared => { shared with point := point }

def store (task : Nat) (outcome : Outcome Value Failure) : FutureState Value Failure :=
  state.modify task fun shared => { shared with outcome := some outcome, point := .called }

def create (origin : Origin) : FutureState Value Failure :=
  { state with
    count := state.count + 1
    shared := Function.update state.shared state.count (Shared.package origin) }

def antecedent (task : Nat) : Option Nat := (state.shared task).origin.antecedent

/-- The function of a continuation owns a future of the object. -/
def captured (task : Nat) : Prop :=
  ∃ other < state.count, state.antecedent other = some task ∧
    (state.shared other).function = true

instance (task : Nat) : Decidable (state.captured task) := by
  unfold captured
  infer_instance

/-- `use_count` is not zero. -/
def alive (task : Nat) : Prop :=
  0 < (state.shared task).futures ∨ (state.shared task).hold = true ∨
    (state.shared task).point.owns = true ∨ state.captured task

instance (task : Nat) : Decidable (state.alive task) := by
  unfold alive
  infer_instance

/-- A client has a future of the object, or the function of a `recover` has been given one
and has not returned. -/
def holdsFuture (task : Nat) : Prop :=
  0 < (state.shared task).futures ∨
    ∃ other < state.count, (state.shared other).origin = .recoverOf task ∧
      (state.shared other).function = true ∧ (state.shared other).point = .entered

instance (task : Nat) : Decidable (state.holdsFuture task) := by
  unfold holdsFuture
  infer_instance

def input (task : Nat) : Option (Except (FutureError Failure) (Argument Value Failure)) :=
  match state.antecedent task with
  | none => some (.ok .nothing)
  | some future => (state.shared future).outcome.map (state.shared task).origin.takes

def getTry (future : Nat) : Option (Outcome Value Failure) :=
  if (state.shared future).ready then (state.shared future).outcome else none

end FutureState

/-- `async`, and `recover` with the choice between `_then` and the executor. -/
def stepMake (origin : Origin) (state : FutureState Value Failure) :
    Option (FutureState Value Failure) :=
  match origin.antecedent with
  | none => some { state.create origin with submitted := state.submitted ++ [state.count] }
  | some future =>
      if 0 < (state.shared future).futures ∧ (state.shared future).point.locks = false then
        if (state.shared future).ready then
          some { state.create origin with submitted := state.submitted ++ [state.count] }
        else
          some ((state.create origin).modify future fun shared =>
            { shared with thenTasks := shared.thenTasks ++ [state.count] })
      else none

def stepCopy (future : Nat) (state : FutureState Value Failure) :
    Option (FutureState Value Failure) :=
  if state.holdsFuture future then
    some (state.modify future fun shared => { shared with futures := shared.futures + 1 })
  else none

def stepDrop (future : Nat) (state : FutureState Value Failure) :
    Option (FutureState Value Failure) :=
  if 0 < (state.shared future).futures then
    some (state.modify future fun shared => { shared with futures := shared.futures - 1 })
  else none

/-- `detach`: of the continuation only its executor stays behind, in `_then`. -/
def stepDetach (future : Nat) (state : FutureState Value Failure) :
    Option (FutureState Value Failure) :=
  if 0 < (state.shared future).futures ∧ (state.shared future).point.locks = false then
    if (state.shared future).ready then some state
    else some (state.modify future fun shared => { shared with hold := true })
  else none

/-- `packaged_task::operator()`: nothing is called once the object is gone. -/
def stepStart (task : Nat) (state : FutureState Value Failure) :
    Option (FutureState Value Failure) :=
  if task ∈ state.submitted then
    let taken := { state with submitted := state.submitted.erase task }
    if state.alive task then some (taken.goTo task .entered) else some taken
  else none

/-- `_f(...)` in `set_value`; what it throws, and what `get_ready` throws, is for
`set_exception`. -/
def stepCall (body : Nat → Argument Value Failure → Outcome Value Failure) (task : Nat)
    (state : FutureState Value Failure) : Option (FutureState Value Failure) :=
  match (state.shared task).point with
  | .entered =>
      if (state.shared task).function then
        match state.input task with
        | some (.ok argument) =>
            some { state.store task (body task argument) with
              calls := state.calls ++ [(task, argument)] }
        | some (.error error) => some (state.store task (.error error))
        | none => none
      else some (state.goTo task .done)
  | _ => none

/-- `proceed`, and the same section of `set_exception`. -/
def stepProceed (task : Nat) (state : FutureState Value Failure) :
    Option (FutureState Value Failure) :=
  match (state.shared task).point with
  | .called =>
      some (state.modify task fun shared =>
        { shared with
          ready := true
          thenTasks := []
          hold := false
          point := .proceeding shared.thenTasks })
  | _ => none

def stepSubmit (task : Nat) (state : FutureState Value Failure) :
    Option (FutureState Value Failure) :=
  match (state.shared task).point with
  | .proceeding (next :: tasks) =>
      some { state.goTo task (.proceeding tasks) with submitted := state.submitted ++ [next] }
  | _ => none

/-- `_f = function_t()`; `remove_promise` then finds the object ready. -/
def stepFinish (task : Nat) (state : FutureState Value Failure) :
    Option (FutureState Value Failure) :=
  match (state.shared task).point with
  | .proceeding [] =>
      some (state.modify task fun shared => { shared with function := false, point := .done })
  | _ => none

/-- An executor destroys a packaged task it has not called: `remove_promise`, where
`std::is_same<R, reduced_t<R>>` holds. -/
def stepDiscard (task : Nat) (state : FutureState Value Failure) :
    Option (FutureState Value Failure) :=
  if task ∈ state.submitted then
    let taken := { state with submitted := state.submitted.erase task }
    if state.alive task ∧ (state.shared task).ready = false then
      some (taken.goTo task (.breaking none))
    else some taken
  else none

/-- `reset` in `remove_promise` destroys the next packaged task of `_then`. -/
def stepResetTask (task : Nat) (state : FutureState Value Failure) :
    Option (FutureState Value Failure) :=
  match (state.shared task).point, (state.shared task).thenTasks with
  | .breaking none, next :: tasks =>
      let left := state.modify task fun shared => { shared with thenTasks := tasks }
      if state.alive next ∧ (state.shared next).ready = false then
        some ((left.goTo task (.breaking (some next))).goTo next (.breaking none))
      else some left
  | _, _ => none

/-- The end of `remove_promise`; where `reset` of another object has called it, that one
goes on. -/
def stepBreakPromise (task : Nat) (state : FutureState Value Failure) :
    Option (FutureState Value Failure) :=
  match (state.shared task).point, (state.shared task).thenTasks with
  | .breaking none, [] =>
      let broken := state.modify task fun shared =>
        { shared with
          function := false
          outcome := some (.error .brokenPromise)
          ready := true
          hold := false
          point := .done }
      match state.antecedent task with
      | none => some broken
      | some future =>
          if (state.shared future).point = .breaking (some task) then
            some (broken.goTo future (.breaking none))
          else some broken
  | _, _ => none

def stepDestroy (task : Nat) (state : FutureState Value Failure) :
    Option (FutureState Value Failure) :=
  if state.alive task then none
  else if (state.shared task).function then
    some (state.modify task fun shared => { shared with function := false })
  else none

/-- `body` has what the functions given to `async`, `then` and `recover` return, which is no
future, or throw. -/
def futureStep (body : Nat → Argument Value Failure → Outcome Value Failure) :
    FutureLabel → FutureState Value Failure → Option (FutureState Value Failure)
  | .make origin, state => stepMake origin state
  | .copy future, state => stepCopy future state
  | .drop future, state => stepDrop future state
  | .detach future, state => stepDetach future state
  | .start task, state => stepStart task state
  | .call task, state => stepCall body task state
  | .proceed task, state => stepProceed task state
  | .submit task, state => stepSubmit task state
  | .finish task, state => stepFinish task state
  | .discard task, state => stepDiscard task state
  | .resetTask task, state => stepResetTask task state
  | .breakPromise task, state => stepBreakPromise task state
  | .destroy task, state => stepDestroy task state

def FutureState.start : FutureState Value Failure where
  count := 0
  shared := fun _ => .unused
  submitted := []
  calls := []

def futureSystem (body : Nat → Argument Value Failure → Outcome Value Failure) :
    System (FutureState Value Failure) FutureLabel where
  initial state := state = .start
  step := futureStep body

/-- Executors call every task they are given. -/
def keepsTasks : Permission (FutureState Value Failure) FutureLabel
  | .discard _, _ => False
  | _, _ => True

instance (label : FutureLabel) (state : FutureState Value Failure) :
    Decidable (keepsTasks label state) := by
  cases label <;> first | exact isFalse id | exact isTrue trivial

def ownFutureSteps : Permission (FutureState Value Failure) FutureLabel
  | .make _, _ | .copy _, _ | .drop _, _ | .detach _, _ => False
  | _, _ => True

end Schedulers.Futures
