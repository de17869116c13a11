import Schedulers.Support.TransitionSystem
import Mathlib.Logic.Function.Basic

/-!
# `copy_on_write` of stlab's `copy_on_write.hpp`

Objects of the class point to models with an atomic count. The steps are the accesses to
`_count`, the allocation, the store and the `delete`, in any order over the objects that
different threads work on; a thread uses an object only while no other thread has an
operation on it under way, copies from it apart. The reference that `write` returns is
used for one store, before the object is copied, assigned or destroyed: a reference that
is kept while a copy is made writes to the copy as well. The model at address 0 is the
static `default_s`, whose own count is never dropped. Counts do not overflow.
-/

namespace Schedulers.Stlab

open Schedulers.TransitionSystem

set_option autoImplicit false

structure Model (Value : Type) where
  count : Nat
  value : Value
  deriving DecidableEq, Repr

/-- What an object is once the temporary that holds its old model has been destroyed. -/
inductive AfterRelease where
  | destroyed
  | assigned (self : Option Nat)
  | written (self : Nat)
  deriving DecidableEq, Repr

/-- An object and the operation under way on it. `ready none` has been moved from;
`writable` is one whose reference has been returned by `write` and not yet used. -/
inductive HandlePoint where
  | absent
  | ready (self : Option Nat)
  | copying (self : Nat)
  | writable (self : Nat)
  | assigning (self : Nat)
  | replacing (self : Option Nat)
  | releasing (old : Nat) (after : AfterRelease)
  | deleting (old : Nat) (after : AfterRelease)
  deriving DecidableEq, Repr

/-- `undefined`: a model has been used or deleted where there is none. -/
structure CowState (Handle Value : Type) where
  heap : Nat → Option (Model Value)
  nextAddress : Nat
  handle : Handle → HandlePoint
  undefined : Bool

inductive CowLabel (Handle Value : Type) where
  | construct (h : Handle) (x : Value)
  | constructDefault (h : Handle)
  | copyConstruct (h x : Handle)
  | moveConstruct (h x : Handle)
  | destroy (h : Handle)
  | copyAssign (h x : Handle)
  | moveAssign (h x : Handle)
  | swap (h x : Handle)
  | beginWrite (h : Handle)
  | copyModel (h : Handle)
  | store (h : Handle) (x : Value)
  | beginAssign (h : Handle)
  | finishAssign (h : Handle) (x : Value)
  | release (h : Handle)
  | delete (h : Handle)
  deriving DecidableEq, Repr

def AfterRelease.point : AfterRelease → HandlePoint
  | .destroyed => .absent
  | .assigned self => .ready self
  | .written self => .writable self

def releasingOld (old : Option Nat) (after : AfterRelease) : HandlePoint :=
  match old with
  | none => after.point
  | some address => .releasing address after

variable {Handle Value : Type} [DecidableEq Handle]

namespace CowState

def setHandle (state : CowState Handle Value) (h : Handle) (point : HandlePoint) :
    CowState Handle Value :=
  { state with handle := Function.update state.handle h point }

def setModel (state : CowState Handle Value) (address : Nat) (model : Option (Model Value)) :
    CowState Handle Value :=
  { state with heap := Function.update state.heap address model }

def access (state : CowState Handle Value) (address : Nat)
    (use : Model Value → CowState Handle Value) : CowState Handle Value :=
  match state.heap address with
  | some model => use model
  | none => { state with undefined := true }

def allocate (state : CowState Handle Value) (x : Value) : CowState Handle Value :=
  { state.setModel state.nextAddress (some ⟨1, x⟩) with nextAddress := state.nextAddress + 1 }

def increment (state : CowState Handle Value) (address : Nat) (model : Model Value) :
    CowState Handle Value :=
  state.setModel address (some { model with count := model.count + 1 })

/-- `if (--_self->_count == 0) delete _self`, up to the `delete`. -/
def release (state : CowState Handle Value) (h : Handle) (old : Nat) (after : AfterRelease) :
    CowState Handle Value :=
  state.access old fun model =>
    (state.setModel old (some { model with count := model.count - 1 })).setHandle h
      (if model.count - 1 = 0 then .deleting old after else after.point)

def delete (state : CowState Handle Value) (h : Handle) (old : Nat) (after : AfterRelease) :
    CowState Handle Value :=
  if old = 0 then { state with undefined := true }
  else state.access old fun _ => (state.setModel old none).setHandle h after.point

/-- `if (!unique())` of `write`. -/
def beginWrite (state : CowState Handle Value) (h : Handle) (self : Nat) :
    CowState Handle Value :=
  state.access self fun model =>
    state.setHandle h (if model.count = 1 then .writable self else .copying self)

/-- `*this = copy_on_write(read())`, up to the release of the old model. -/
def copyModel (state : CowState Handle Value) (h : Handle) (self : Nat) :
    CowState Handle Value :=
  state.access self fun model =>
    (state.allocate model.value).setHandle h (.releasing self (.written state.nextAddress))

def store (state : CowState Handle Value) (h : Handle) (self : Nat) (x : Value) :
    CowState Handle Value :=
  state.access self fun model =>
    (state.setModel self (some { model with value := x })).setHandle h (.ready (some self))

/-- `_self && unique()` of the assignment of a value. -/
def beginAssign (state : CowState Handle Value) (h : Handle) (self : Option Nat) :
    CowState Handle Value :=
  match self with
  | none => state.setHandle h (.replacing none)
  | some address => state.access address fun model =>
      state.setHandle h (if model.count = 1 then .assigning address else .replacing self)

def replace (state : CowState Handle Value) (h : Handle) (self : Option Nat) (x : Value) :
    CowState Handle Value :=
  (state.allocate x).setHandle h (releasingOld self (.assigned (some state.nextAddress)))

end CowState

def cowStep : CowLabel Handle Value → CowState Handle Value → Option (CowState Handle Value)
  | .construct h x, state =>
      match state.handle h with
      | .absent => some ((state.allocate x).setHandle h (.ready (some state.nextAddress)))
      | _ => none
  | .constructDefault h, state =>
      match state.handle h with
      | .absent => some (state.access 0 fun model =>
          (state.increment 0 model).setHandle h (.ready (some 0)))
      | _ => none
  | .copyConstruct h x, state =>
      match state.handle h, state.handle x with
      | .absent, .ready (some address) => some (state.access address fun model =>
          (state.increment address model).setHandle h (.ready (some address)))
      | _, _ => none
  | .moveConstruct h x, state =>
      match state.handle h, state.handle x with
      | .absent, .ready (some address) =>
          some ((state.setHandle x (.ready none)).setHandle h (.ready (some address)))
      | _, _ => none
  | .destroy h, state =>
      match state.handle h with
      | .ready self => some (state.setHandle h (releasingOld self .destroyed))
      | _ => none
  | .copyAssign h x, state =>
      match state.handle h, state.handle x with
      | .ready self, .ready (some address) => some (state.access address fun model =>
          (state.increment address model).setHandle h
            (releasingOld self (.assigned (some address))))
      | _, _ => none
  | .moveAssign h x, state =>
      match state.handle h, state.handle x with
      | .ready self, .ready (some address) =>
          if h = x then some state
          else some ((state.setHandle x (.ready none)).setHandle h
            (releasingOld self (.assigned (some address))))
      | _, _ => none
  | .swap h x, state =>
      match state.handle h, state.handle x with
      | .ready self, .ready other =>
          some ((state.setHandle h (.ready other)).setHandle x (.ready self))
      | _, _ => none
  | .beginWrite h, state =>
      match state.handle h with
      | .ready (some self) => some (state.beginWrite h self)
      | _ => none
  | .copyModel h, state =>
      match state.handle h with
      | .copying self => some (state.copyModel h self)
      | _ => none
  | .store h x, state =>
      match state.handle h with
      | .writable self => some (state.store h self x)
      | _ => none
  | .beginAssign h, state =>
      match state.handle h with
      | .ready self => some (state.beginAssign h self)
      | _ => none
  | .finishAssign h x, state =>
      match state.handle h with
      | .assigning self => some (state.store h self x)
      | .replacing self => some (state.replace h self x)
      | _ => none
  | .release h, state =>
      match state.handle h with
      | .releasing old after => some (state.release h old after)
      | _ => none
  | .delete h, state =>
      match state.handle h with
      | .deleting old after => some (state.delete h old after)
      | _ => none

def CowState.start [Inhabited Value] : CowState Handle Value where
  heap := Function.update (fun _ => none) 0 (some ⟨1, default⟩)
  nextAddress := 1
  handle := fun _ => .absent
  undefined := false

def cowSystem (Handle Value : Type) [DecidableEq Handle] [Inhabited Value] :
    System (CowState Handle Value) (CowLabel Handle Value) where
  initial state := state = .start
  step := cowStep

/-- What each object is: not constructed, moved from, or a value of its own. -/
abbrev ValueState (Handle Value : Type) := Handle → Option (Option Value)

def valueStep [Inhabited Value] :
    CowLabel Handle Value → ValueState Handle Value → Option (ValueState Handle Value)
  | .construct h x, values => some (Function.update values h (some (some x)))
  | .constructDefault h, values => some (Function.update values h (some (some default)))
  | .copyConstruct h x, values => some (Function.update values h (values x))
  | .copyAssign h x, values => some (Function.update values h (values x))
  | .moveConstruct h x, values =>
      some (Function.update (Function.update values x (some none)) h (values x))
  | .moveAssign h x, values =>
      some (Function.update (Function.update values x (some none)) h (values x))
  | .swap h x, values =>
      some (Function.update (Function.update values h (values x)) x (values h))
  | .destroy h, values => some (Function.update values h none)
  | .store h x, values => some (Function.update values h (some (some x)))
  | .finishAssign h x, values => some (Function.update values h (some (some x)))
  | _, values => some values

def valueSystem (Handle Value : Type) [DecidableEq Handle] [Inhabited Value] :
    System (ValueState Handle Value) (CowLabel Handle Value) where
  initial values := values = fun _ => none
  step := valueStep

def AfterRelease.self : AfterRelease → Option (Option Nat)
  | .destroyed => none
  | .assigned self => some self
  | .written self => some (some self)

def HandlePoint.self : HandlePoint → Option (Option Nat)
  | .absent => none
  | .ready self => some self
  | .copying self => some (some self)
  | .writable self => some (some self)
  | .assigning self => some (some self)
  | .replacing self => some self
  | .releasing _ after => after.self
  | .deleting _ after => after.self

def CowState.view (state : CowState Handle Value) : ValueState Handle Value := fun h =>
  (state.handle h).self.map fun self => self.bind fun address =>
    (state.heap address).map Model.value

end Schedulers.Stlab
