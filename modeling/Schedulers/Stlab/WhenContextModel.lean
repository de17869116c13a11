import Schedulers.Support.TransitionSystem
import Schedulers.Support.Tally
import Mathlib.Logic.Function.Basic

/-!
# `when_all` and `when_any` on a range of futures

`create_range_of_futures` makes a `common_context` and attaches a continuation to each
future of a range that is not empty; each continuation reports its future's value or
exception to the context, whose collectors decide which report calls `_f` and so executes
the function.

The context is owned by the function `_f` calls, until it has been executed or the
returned future has been dropped, by the thread that attaches, and by the continuations
that have locked it. A continuation runs if its future in `_holds`, or with the thread
that attaches it, is still there. Of the futures: the continuation of each is given to
the executor once, when the future is ready, but for a future whose promise is broken
while the continuation is attached: `remove_promise` makes it ready with an exception and
destroys the continuation. Each access to an element of `_holds` is one step.
-/

namespace Schedulers.Stlab

open Schedulers.TransitionSystem

set_option autoImplicit false

inductive WhenKind where
  | whenAll
  | whenAny
  deriving DecidableEq, Repr

inductive Trigger where
  | all
  | single
  deriving DecidableEq, Repr

/-- The continuation attached to a future. `called`: the executor runs it; `storing` and
`counting`: in `all_trigger::go` before `apply` and before `--_remaining`; `flagging` and
`resetting`: in `single_trigger::go` before `test_and_set` and in the loop over `_holds`;
`applying` and `firing`: before `apply` and before `_f()`. `broken`: it was destroyed with
the promise of its future. `cancelled` and `contextGone`: its own future, or the context,
was gone. -/
inductive ContinuationPoint where
  | unattached
  | attached
  | broken
  | called
  | storing
  | counting
  | flagging
  | resetting (hold : Nat)
  | applying (trigger : Trigger)
  | firing (trigger : Trigger)
  | finished (trigger : Trigger)
  | cancelled
  | contextGone
  deriving DecidableEq, Repr

/-- The thread in `do_it`: before `recover` for an index, before the assignment to
`_holds`, and after its return. -/
inductive AttacherPoint where
  | attaching (index : Nat)
  | assigning (index : Nat)
  | returned
  deriving DecidableEq, Repr

/-- What a call of `_f` has brought about: the exception, or the call of the function with
the results of `when_all` or the result and index of `when_any`. -/
inductive Executed (Value Failure : Type) (count : Nat) where
  | failed (error : Failure)
  | allOf (results : Fin count → Option Value)
  | anyOf (result : Option (Value × Fin count))
  deriving DecidableEq

/-- `result` is `_results` and `_index` of `when_any`. `fires` counts the calls of `_f`. -/
structure ContextState (Value Failure : Type) (count : Nat) where
  attacher : AttacherPoint
  ready : Fin count → Bool
  point : Fin count → ContinuationPoint
  holds : Fin count → Bool
  remaining : Nat
  singleEventTrigger : Bool
  results : Fin count → Option Value
  result : Option (Value × Fin count)
  exception : Option Failure
  dropped : Bool
  fires : Nat
  executed : List (Executed Value Failure count)

inductive ContextLabel (count : Nat) where
  | attach
  | assign
  | resolve (index : Fin count)
  | breakPromise (index : Fin count)
  | run (index : Fin count)
  | enter (index : Fin count)
  | store (index : Fin count)
  | countDown (index : Fin count)
  | flag (index : Fin count)
  | resetHold (index : Fin count)
  | apply (index : Fin count)
  | fire (index : Fin count)
  | drop
  deriving DecidableEq, Repr

variable {Value Failure : Type} {count : Nat}

def collector : WhenKind → Except Failure Value → Trigger
  | .whenAll, .ok _ => .all
  | .whenAll, .error _ => .single
  | .whenAny, .ok _ => .single
  | .whenAny, .error _ => .all

/-- The continuation holds the `shared_ptr` it has got from `_context.lock()`. -/
def ContinuationPoint.locks : ContinuationPoint → Bool
  | .storing | .counting | .flagging | .resetting _ | .applying _ | .firing _ => true
  | _ => false

namespace ContextState

def goTo (state : ContextState Value Failure count) (index : Fin count)
    (point : ContinuationPoint) : ContextState Value Failure count :=
  { state with point := Function.update state.point index point }

/-- The function that `_f` calls has not been executed, and owns the context. -/
def waits (state : ContextState Value Failure count) : Bool :=
  !state.dropped && state.fires == 0

def contextAlive (state : ContextState Value Failure count) : Bool :=
  decide (state.attacher ≠ .returned) || state.waits ||
    decide (∃ index, (state.point index).locks = true)

def continuationAlive (state : ContextState Value Failure count) (index : Fin count) : Bool :=
  decide (state.attacher = .assigning index) || (state.contextAlive && state.holds index)

def execute (kind : WhenKind) (state : ContextState Value Failure count) :
    Executed Value Failure count :=
  match state.exception, kind with
  | some error, _ => .failed error
  | none, .whenAll => .allOf state.results
  | none, .whenAny => .anyOf state.result

end ContextState

def stepAttach (state : ContextState Value Failure count) :
    Option (ContextState Value Failure count) :=
  match state.attacher with
  | .attaching index =>
      if bound : index < count then
        some { state.goTo ⟨index, bound⟩ .attached with attacher := .assigning index }
      else some { state with attacher := .returned }
  | _ => none

def stepAssign (state : ContextState Value Failure count) :
    Option (ContextState Value Failure count) :=
  match state.attacher with
  | .assigning index =>
      if bound : index < count then
        some { state with
          holds := Function.update state.holds ⟨index, bound⟩ true
          attacher := .attaching (index + 1) }
      else none
  | _ => none

/-- `remove_promise` of a future that waits with its continuation in `_then`; a promise
that is broken before `recover` is a future that is ready with an exception. -/
def stepBreakPromise (outcome : Except Failure Value) (index : Fin count)
    (state : ContextState Value Failure count) : Option (ContextState Value Failure count) :=
  match state.point index, state.ready index, outcome with
  | .attached, false, .error _ =>
      some { state.goTo index .broken with ready := Function.update state.ready index true }
  | _, _, _ => none

def stepRun (index : Fin count) (state : ContextState Value Failure count) :
    Option (ContextState Value Failure count) :=
  match state.point index, state.ready index with
  | .attached, true =>
      if state.continuationAlive index then some (state.goTo index .called)
      else some (state.goTo index .cancelled)
  | _, _ => none

/-- `_context.lock()`, and the choice between `failure` and `done`. -/
def stepEnter (kind : WhenKind) (outcome : Except Failure Value) (index : Fin count)
    (state : ContextState Value Failure count) : Option (ContextState Value Failure count) :=
  match state.point index with
  | .called =>
      if state.contextAlive then
        match collector kind outcome, outcome with
        | .all, .ok _ => some (state.goTo index .storing)
        | .all, .error _ => some (state.goTo index .counting)
        | .single, _ => some (state.goTo index .flagging)
      else some (state.goTo index .contextGone)
  | _ => none

def stepStore (outcome : Except Failure Value) (index : Fin count)
    (state : ContextState Value Failure count) : Option (ContextState Value Failure count) :=
  match state.point index, outcome with
  | .storing, .ok value =>
      some { state.goTo index .counting with
        results := Function.update state.results index (some value) }
  | _, _ => none

/-- `--context._remaining == 0`; an exception is applied only then. -/
def stepCountDown (outcome : Except Failure Value) (index : Fin count)
    (state : ContextState Value Failure count) : Option (ContextState Value Failure count) :=
  match state.point index with
  | .counting =>
      let counted := { state with remaining := state.remaining - 1 }
      if state.remaining - 1 = 0 then
        match outcome with
        | .ok _ => some (counted.goTo index (.firing .all))
        | .error _ => some (counted.goTo index (.applying .all))
      else some (counted.goTo index (.finished .all))
  | _ => none

/-- `_single_event_trigger.test_and_set()` -/
def stepFlag (index : Fin count) (state : ContextState Value Failure count) :
    Option (ContextState Value Failure count) :=
  match state.point index with
  | .flagging =>
      if state.singleEventTrigger then some (state.goTo index (.finished .single))
      else some { state.goTo index (.resetting 0) with singleEventTrigger := true }
  | _ => none

def stepResetHold (index : Fin count) (state : ContextState Value Failure count) :
    Option (ContextState Value Failure count) :=
  match state.point index with
  | .resetting hold =>
      if bound : hold < count then
        some { state.goTo index (.resetting (hold + 1)) with
          holds := Function.update state.holds ⟨hold, bound⟩ false }
      else some (state.goTo index (.applying .single))
  | _ => none

def stepApply (outcome : Except Failure Value) (index : Fin count)
    (state : ContextState Value Failure count) : Option (ContextState Value Failure count) :=
  match state.point index, outcome with
  | .applying trigger, .ok value =>
      some { state.goTo index (.firing trigger) with result := some (value, index) }
  | .applying trigger, .error error =>
      some { state.goTo index (.firing trigger) with exception := some error }
  | _, _ => none

/-- `context._f()`, which does nothing when the returned future has been dropped. -/
def stepFire (kind : WhenKind) (index : Fin count) (state : ContextState Value Failure count) :
    Option (ContextState Value Failure count) :=
  match state.point index with
  | .firing trigger =>
      let called := { state with fires := state.fires + 1 }
      if state.dropped then some (called.goTo index (.finished trigger))
      else
        some { called.goTo index (.finished trigger) with
          executed := state.executed ++ [state.execute kind] }
  | _ => none

/-- `outcome` has what each future becomes when it is ready. -/
def contextStep (kind : WhenKind) (outcome : Fin count → Except Failure Value) :
    ContextLabel count → ContextState Value Failure count →
      Option (ContextState Value Failure count)
  | .attach, state => stepAttach state
  | .assign, state => stepAssign state
  | .resolve index, state =>
      if state.ready index then none
      else some { state with ready := Function.update state.ready index true }
  | .breakPromise index, state => stepBreakPromise (outcome index) index state
  | .run index, state => stepRun index state
  | .enter index, state => stepEnter kind (outcome index) index state
  | .store index, state => stepStore (outcome index) index state
  | .countDown index, state => stepCountDown (outcome index) index state
  | .flag index, state => stepFlag index state
  | .resetHold index, state => stepResetHold index state
  | .apply index, state => stepApply (outcome index) index state
  | .fire index, state => stepFire kind index state
  | .drop, state =>
      if state.attacher = .returned then some { state with dropped := true } else none

def ContextState.start : ContextState Value Failure count where
  attacher := .attaching 0
  ready := fun _ => false
  point := fun _ => .unattached
  holds := fun _ => false
  remaining := count
  singleEventTrigger := false
  results := fun _ => none
  result := none
  exception := none
  dropped := false
  fires := 0
  executed := []

def contextSystem (kind : WhenKind) (outcome : Fin count → Except Failure Value) :
    System (ContextState Value Failure count) (ContextLabel count) where
  initial state := state = .start
  step := contextStep kind outcome

/-- All steps but those of the futures of the range and of the owner of the returned
future. -/
def ownContextSteps : Permission (ContextState Value Failure count) (ContextLabel count)
  | .resolve _, _ => False
  | .breakPromise _, _ => False
  | .drop, _ => False
  | _, _ => True

end Schedulers.Stlab
