import Schedulers.Support.TransitionSystem
import Mathlib.Logic.Function.Basic

/-!
# Objects with one locked section a call

A call prepares a request from its own arguments, executes one section under the
lock and returns. The history has the invocations, the sections and the returns of
all threads in the order in which they happened. When the sections do what a
sequential object does, the sections in lock order are a run of that object, and
each lies between the invocation and the return of its own call: the object is
linearizable.
-/

namespace Schedulers.LockedObjects

open Schedulers.TransitionSystem

set_option autoImplicit false

structure LockedObject (Data Call Request Result : Type) where
  prepare : Call → Request
  locked : Request → Data → Data × Result

inductive CallPoint (Call Request Result : Type) where
  | idle
  | entered (call : Call)
  | locking (call : Call) (request : Request)
  | returning (call : Call) (result : Result)
  deriving DecidableEq, Repr

inductive CallEvent (Call Result : Type) where
  | invoked (call : Call)
  | took (call : Call) (result : Result)
  | returned (call : Call) (result : Result)
  deriving DecidableEq, Repr

structure ObjectState (Thread Data Call Request Result : Type) where
  data : Data
  thread : Thread → CallPoint Call Request Result
  history : List (Thread × CallEvent Call Result)

inductive ObjectLabel (Thread Call : Type) where
  | invoke (thread : Thread) (call : Call)
  | prepare (thread : Thread)
  | locked (thread : Thread)
  | giveBack (thread : Thread)
  deriving DecidableEq, Repr

variable {Thread Data Call Request Result Abstract : Type}

def CallEvent.effect : CallEvent Call Result → Option (Call × Result)
  | .invoked _ => none
  | .took call result => some (call, result)
  | .returned _ _ => none

def ObjectState.effects (state : ObjectState Thread Data Call Request Result) :
    List (Call × Result) :=
  state.history.filterMap fun entry => entry.2.effect

section Steps

variable [DecidableEq Thread]

def ObjectState.trace (state : ObjectState Thread Data Call Request Result) (thread : Thread) :
    List (CallEvent Call Result) :=
  state.history.filterMap fun entry => if entry.1 = thread then some entry.2 else none

def ObjectState.record (state : ObjectState Thread Data Call Request Result) (thread : Thread)
    (point : CallPoint Call Request Result) (event : CallEvent Call Result) :
    ObjectState Thread Data Call Request Result :=
  { state with
    thread := Function.update state.thread thread point
    history := state.history ++ [(thread, event)] }

def LockedObject.step (object : LockedObject Data Call Request Result) :
    ObjectLabel Thread Call → ObjectState Thread Data Call Request Result →
      Option (ObjectState Thread Data Call Request Result)
  | .invoke thread call, state =>
      match state.thread thread with
      | .idle => some (state.record thread (.entered call) (.invoked call))
      | _ => none
  | .prepare thread, state =>
      match state.thread thread with
      | .entered call =>
          some { state with
            thread := Function.update state.thread thread
              (.locking call (object.prepare call)) }
      | _ => none
  | .locked thread, state =>
      match state.thread thread with
      | .locking call request =>
          let done := object.locked request state.data
          some { state.record thread (.returning call done.2) (.took call done.2) with
            data := done.1 }
      | _ => none
  | .giveBack thread, state =>
      match state.thread thread with
      | .returning call result => some (state.record thread .idle (.returned call result))
      | _ => none

def LockedObject.system (object : LockedObject Data Call Request Result) (start : Data) :
    System (ObjectState Thread Data Call Request Result) (ObjectLabel Thread Call) where
  initial state := state = { data := start, thread := fun _ => .idle, history := [] }
  step := object.step

end Steps

/-- What a call does when nobody else is there. -/
abbrev Sequential (Abstract Call Result : Type) := Call → Abstract → Abstract × Result

/-- The sequential object can answer the calls like this, and is left so. -/
inductive Explains (sequential : Sequential Abstract Call Result) (start : Abstract) :
    List (Call × Result) → Abstract → Prop where
  | start : Explains sequential start [] start
  | call {effects : List (Call × Result)} {contents : Abstract}
      (before : Explains sequential start effects contents) (call : Call) :
      Explains sequential start (effects ++ [(call, (sequential call contents).2)])
        (sequential call contents).1

/-- Each section of the object does what its call does to the sequential one. -/
structure Implements (object : LockedObject Data Call Request Result) (start : Data)
    (sequential : Sequential Abstract Call Result) (empty : Abstract)
    (represents : Data → Abstract → Prop) : Prop where
  start : represents start empty
  locked : ∀ call data contents, represents data contents →
    represents (object.locked (object.prepare call) data).1 (sequential call contents).1 ∧
    (object.locked (object.prepare call) data).2 = (sequential call contents).2

/-- The events of a thread that calls the object and is at this point: every section
comes after the invocation of its call and before the return. -/
inductive CallTrace (object : LockedObject Data Call Request Result) :
    List (CallEvent Call Result) → CallPoint Call Request Result → Prop where
  | start : CallTrace object [] .idle
  | invoked {events : List (CallEvent Call Result)} (before : CallTrace object events .idle)
      (call : Call) : CallTrace object (events ++ [.invoked call]) (.entered call)
  | prepared {events : List (CallEvent Call Result)} {call : Call}
      (before : CallTrace object events (.entered call)) :
      CallTrace object events (.locking call (object.prepare call))
  | took {events : List (CallEvent Call Result)} {call : Call} {request : Request}
      (before : CallTrace object events (.locking call request)) (result : Result) :
      CallTrace object (events ++ [.took call result]) (.returning call result)
  | returned {events : List (CallEvent Call Result)} {call : Call} {result : Result}
      (before : CallTrace object events (.returning call result)) :
      CallTrace object (events ++ [.returned call result]) .idle

theorem CallTrace.request {object : LockedObject Data Call Request Result}
    {events : List (CallEvent Call Result)} {call : Call} {request : Request}
    (trace : CallTrace object events (.locking call request)) :
    request = object.prepare call := by
  cases trace with
  | prepared before => rfl

section Rules

variable [DecidableEq Thread] {object : LockedObject Data Call Request Result}
  {state next : ObjectState Thread Data Call Request Result}

theorem step_cases {label : ObjectLabel Thread Call} (taken : object.step label state = some next) :
    (∃ thread call, label = .invoke thread call ∧ state.thread thread = .idle ∧
      next = state.record thread (.entered call) (.invoked call)) ∨
    (∃ thread call, label = .prepare thread ∧ state.thread thread = .entered call ∧
      next = { state with
        thread := Function.update state.thread thread (.locking call (object.prepare call)) }) ∨
    (∃ thread call request, label = .locked thread ∧
      state.thread thread = .locking call request ∧
      next = { state.record thread (.returning call (object.locked request state.data).2)
          (.took call (object.locked request state.data).2) with
        data := (object.locked request state.data).1 }) ∨
    (∃ thread call result, label = .giveBack thread ∧
      state.thread thread = .returning call result ∧
      next = state.record thread .idle (.returned call result)) := by
  cases label with
  | invoke thread call =>
      cases point : state.thread thread <;> simp only [LockedObject.step, point, reduceCtorEq,
        Option.some.injEq] at taken
      exact .inl ⟨thread, call, rfl, point, taken.symm⟩
  | prepare thread =>
      cases point : state.thread thread <;> simp only [LockedObject.step, point, reduceCtorEq,
        Option.some.injEq] at taken
      exact .inr (.inl ⟨thread, _, rfl, point, taken.symm⟩)
  | locked thread =>
      cases point : state.thread thread <;> simp only [LockedObject.step, point, reduceCtorEq,
        Option.some.injEq] at taken
      exact .inr (.inr (.inl ⟨thread, _, _, rfl, point, taken.symm⟩))
  | giveBack thread =>
      cases point : state.thread thread <;> simp only [LockedObject.step, point, reduceCtorEq,
        Option.some.injEq] at taken
      exact .inr (.inr (.inr ⟨thread, _, _, rfl, point, taken.symm⟩))

theorem locked_step {thread : Thread} {call : Call} {request : Request}
    (trace : CallTrace object (state.trace thread) (state.thread thread))
    (point : state.thread thread = .locking call request)
    (taken : object.step (.locked thread) state = some next) :
    next.data = (object.locked (object.prepare call) state.data).1 ∧
      next.thread thread =
        .returning call (object.locked (object.prepare call) state.data).2 := by
  rw [point] at trace
  rw [← trace.request]
  simp only [LockedObject.step, point, Option.some.injEq] at taken
  subst taken
  exact ⟨rfl, by simp [ObjectState.record]⟩

@[simp] theorem effects_record (thread : Thread) (point : CallPoint Call Request Result)
    (event : CallEvent Call Result) :
    (state.record thread point event).effects = state.effects ++ event.effect.toList := by
  cases effect : event.effect <;> simp [ObjectState.effects, ObjectState.record, effect]

theorem trace_record {thread : Thread} {point : CallPoint Call Request Result}
    {event : CallEvent Call Result}
    (given : ∀ other, CallTrace object (state.trace other) (state.thread other))
    (own : CallTrace object (state.trace thread ++ [event]) point) (other : Thread) :
    CallTrace object ((state.record thread point event).trace other)
      ((state.record thread point event).thread other) := by
  by_cases same : other = thread
  · subst same
    simpa [ObjectState.record, ObjectState.trace] using own
  · have foreign : thread ≠ other := fun equal => same equal.symm
    simpa [ObjectState.record, ObjectState.trace, same, foreign] using given other

theorem trace_step {label : ObjectLabel Thread Call}
    (given : ∀ thread, CallTrace object (state.trace thread) (state.thread thread))
    (taken : object.step label state = some next) (other : Thread) :
    CallTrace object (next.trace other) (next.thread other) := by
  rcases step_cases taken with ⟨thread, call, _, point, rfl⟩ | ⟨thread, call, _, point, rfl⟩ |
    ⟨thread, call, request, _, point, rfl⟩ | ⟨thread, call, result, _, point, rfl⟩
  · have before := given thread
    rw [point] at before
    exact trace_record given (before.invoked call) other
  · have before := given thread
    rw [point] at before
    by_cases same : other = thread
    · subst same
      simpa [ObjectState.trace] using before.prepared
    · simpa [ObjectState.trace, same] using given other
  · have before := given thread
    rw [point] at before
    exact trace_record given (before.took _) other
  · have before := given thread
    rw [point] at before
    exact trace_record given before.returned other

/-- In every reachable state the sections in lock order are a run of the sequential
object, and each was executed within its own call. -/
theorem Implements.linearizable {start : Data} {sequential : Sequential Abstract Call Result}
    {empty : Abstract} {represents : Data → Abstract → Prop}
    {permitted : Permission (ObjectState Thread Data Call Request Result)
      (ObjectLabel Thread Call)}
    (implements : Implements object start sequential empty represents)
    (reached : Reachable (object.system start) permitted state) :
    (∀ thread, CallTrace object (state.trace thread) (state.thread thread)) ∧
    ∃ contents, Explains sequential empty state.effects contents ∧
      represents state.data contents := by
  apply reached.keeps
  · intro state begins
    rw [begins]
    exact ⟨fun _ => .start, empty, .start, implements.start⟩
  · intro label before after ⟨traces, contents, explained, represented⟩ _ taken
    refine ⟨fun thread => trace_step traces taken thread, ?_⟩
    rcases step_cases taken with ⟨thread, call, _, _, rfl⟩ | ⟨thread, call, _, _, rfl⟩ |
      ⟨thread, call, request, _, point, rfl⟩ | ⟨thread, call, result, _, _, rfl⟩
    · refine ⟨contents, ?_, represented⟩
      rw [effects_record]
      simpa [CallEvent.effect] using explained
    · exact ⟨contents, explained, represented⟩
    · have trace := traces thread
      rw [point] at trace
      have prepared := trace.request
      subst prepared
      obtain ⟨data, answer⟩ := implements.locked call before.data contents represented
      refine ⟨(sequential call contents).1, ?_, data⟩
      have grown := explained.call call
      rw [← answer] at grown
      generalize (object.locked (object.prepare call) before.data).2 = result at grown
      change Explains sequential empty
        (before.record thread (.returning call result) (.took call result)).effects _
      rw [effects_record]
      exact grown
    · refine ⟨contents, ?_, represented⟩
      rw [effects_record]
      simpa [CallEvent.effect] using explained

end Rules

end Schedulers.LockedObjects
