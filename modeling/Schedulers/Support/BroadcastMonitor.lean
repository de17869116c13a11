import Schedulers.Support.TransitionSystem
import Mathlib.Logic.Function.Basic

/-!
# Monitors that broadcast after the unlock

An object whose calls are locked sections over shared data. A section ends in a
wait on a condition, which releases the lock, or in the unlock, after which the
caller still has some broadcasts to issue. Every section is one atomic step; a
broadcast is a step of its own; a woken caller enters a section of its own when it
has the lock again, and may be woken for no reason.

`Covered` is what loses no wake-up: as long as the shared data is of interest to
somebody who waits, a broadcast to them is on its way. `covered_perform` says what
one section must do for it.
-/

namespace Schedulers.BroadcastMonitor

open Schedulers.TransitionSystem

set_option autoImplicit false

/-- How a locked section ends: in a wait, with what the caller remembers, or in the
unlock, with the result and the broadcasts that follow it. -/
inductive Section (Shared Frame Condition Result : Type) where
  | wait (shared : Shared) (condition : Condition) (frame : Frame)
  | leave (shared : Shared) (result : Result) (broadcasts : List Condition)

/-- `enter` is the section from the start of a call to its first wait or unlock and
`resume` the one from a return of the wait. -/
structure Monitor (Shared Call Frame Condition Result : Type) where
  enter : Call → Shared → Section Shared Frame Condition Result
  resume : Frame → Shared → Section Shared Frame Condition Result

inductive ThreadPoint (Frame Condition : Type) where
  | outside
  | blocked (condition : Condition) (frame : Frame)
  | woken (frame : Frame)
  | broadcasting (next : Condition) (rest : List Condition)
  deriving DecidableEq, Repr

/-- `log` has the results of the calls in the order of their last sections. -/
structure MonitorState (Thread Shared Frame Condition Result : Type) where
  shared : Shared
  thread : Thread → ThreadPoint Frame Condition
  log : List (Thread × Result)

inductive MonitorLabel (Thread Call : Type) where
  | enter (thread : Thread) (call : Call)
  | resume (thread : Thread)
  | broadcast (thread : Thread)
  | spurious (thread : Thread)
  deriving DecidableEq, Repr

variable {Thread Shared Call Frame Condition Result : Type}

def ThreadPoint.leaving : List Condition → ThreadPoint Frame Condition
  | [] => .outside
  | next :: rest => .broadcasting next rest

def Section.shared : Section Shared Frame Condition Result → Shared
  | .wait shared _ _ => shared
  | .leave shared _ _ => shared

def Section.results (done : Section Shared Frame Condition Result) (results : List Result) :
    List Result :=
  match done with
  | .wait _ _ _ => results
  | .leave _ result _ => results ++ [result]

def MonitorState.results (state : MonitorState Thread Shared Frame Condition Result) :
    List Result :=
  state.log.map Prod.snd

section Steps

variable [DecidableEq Thread] [DecidableEq Condition]

def perform (state : MonitorState Thread Shared Frame Condition Result) (thread : Thread) :
    Section Shared Frame Condition Result → MonitorState Thread Shared Frame Condition Result
  | .wait shared condition frame =>
      { state with
        shared := shared
        thread := Function.update state.thread thread (.blocked condition frame) }
  | .leave shared result broadcasts =>
      { shared := shared
        thread := Function.update state.thread thread (.leaving broadcasts)
        log := state.log ++ [(thread, result)] }

def ThreadPoint.notified (condition : Condition) :
    ThreadPoint Frame Condition → ThreadPoint Frame Condition
  | .blocked waitsFor frame =>
      if waitsFor = condition then .woken frame else .blocked waitsFor frame
  | point => point

def Monitor.step (monitor : Monitor Shared Call Frame Condition Result) :
    MonitorLabel Thread Call → MonitorState Thread Shared Frame Condition Result →
      Option (MonitorState Thread Shared Frame Condition Result)
  | .enter thread call, state =>
      match state.thread thread with
      | .outside => some (perform state thread (monitor.enter call state.shared))
      | _ => none
  | .resume thread, state =>
      match state.thread thread with
      | .woken frame => some (perform state thread (monitor.resume frame state.shared))
      | _ => none
  | .broadcast thread, state =>
      match state.thread thread with
      | .broadcasting next rest =>
          some { state with
            thread := Function.update (fun other => (state.thread other).notified next) thread
              (.leaving rest) }
      | _ => none
  | .spurious thread, state =>
      match state.thread thread with
      | .blocked _ frame =>
          some { state with thread := Function.update state.thread thread (.woken frame) }
      | _ => none

def Monitor.system (monitor : Monitor Shared Call Frame Condition Result) (start : Shared) :
    System (MonitorState Thread Shared Frame Condition Result) (MonitorLabel Thread Call) where
  initial state := state = { shared := start, thread := fun _ => .outside, log := [] }
  step := monitor.step

/-- No thread can move but to start a call or to wake up for no reason. -/
def Quiescent (monitor : Monitor Shared Call Frame Condition Result)
    (state : MonitorState Thread Shared Frame Condition Result) : Prop :=
  ∀ thread, monitor.step (.resume thread) state = none ∧
    monitor.step (.broadcast thread) state = none

end Steps

def Waiting (condition : Condition)
    (state : MonitorState Thread Shared Frame Condition Result) : Prop :=
  ∃ thread frame, state.thread thread = .blocked condition frame

def ThreadPoint.announces (condition : Condition) : ThreadPoint Frame Condition → Prop
  | .broadcasting next rest => condition = next ∨ condition ∈ rest
  | _ => False

def Pending (condition : Condition)
    (state : MonitorState Thread Shared Frame Condition Result) : Prop :=
  ∃ thread, (state.thread thread).announces condition

def Covered (needs : Shared → Prop) (condition : Condition)
    (state : MonitorState Thread Shared Frame Condition Result) : Prop :=
  needs state.shared → Waiting condition state → Pending condition state

theorem announces_leaving {condition : Condition} {broadcasts : List Condition} :
    (ThreadPoint.leaving broadcasts : ThreadPoint Frame Condition).announces condition ↔
      condition ∈ broadcasts := by
  cases broadcasts with
  | nil => simp [ThreadPoint.leaving, ThreadPoint.announces]
  | cons next rest => simp [ThreadPoint.leaving, ThreadPoint.announces]

theorem leaving_not_blocked (broadcasts : List Condition) (condition : Condition) (frame : Frame) :
    ThreadPoint.leaving broadcasts ≠ .blocked condition frame := by
  cases broadcasts <;> simp [ThreadPoint.leaving]

section Rules

variable [DecidableEq Thread] {monitor : Monitor Shared Call Frame Condition Result}
  {state : MonitorState Thread Shared Frame Condition Result}

@[simp] theorem perform_shared (state : MonitorState Thread Shared Frame Condition Result)
    (thread : Thread) (done : Section Shared Frame Condition Result) :
    (perform state thread done).shared = done.shared := by
  cases done <;> rfl

@[simp] theorem perform_results (state : MonitorState Thread Shared Frame Condition Result)
    (thread : Thread) (done : Section Shared Frame Condition Result) :
    (perform state thread done).results = done.results state.results := by
  cases done with
  | wait => rfl
  | leave => simp [MonitorState.results, Section.results, perform]

theorem perform_other (state : MonitorState Thread Shared Frame Condition Result)
    {thread other : Thread} (different : other ≠ thread)
    (done : Section Shared Frame Condition Result) :
    (perform state thread done).thread other = state.thread other := by
  cases done <;> exact Function.update_of_ne different _ _

/-- What a section has to do for the waiters of `condition`. -/
def Covers (needs : Shared → Prop) (condition : Condition)
    (state : MonitorState Thread Shared Frame Condition Result) :
    Section Shared Frame Condition Result → Prop
  | .wait shared waitsFor _ =>
      needs shared → waitsFor ≠ condition ∧ needs state.shared
  | .leave shared _ broadcasts =>
      needs shared → condition ∉ broadcasts →
        needs state.shared ∨ ¬Waiting condition state ∨ Pending condition state

theorem pending_perform {condition : Condition} {thread : Thread}
    (silent : ¬(state.thread thread).announces condition)
    (done : Section Shared Frame Condition Result) (pending : Pending condition state) :
    Pending condition (perform state thread done) := by
  obtain ⟨announcer, announces⟩ := pending
  have different : announcer ≠ thread := by
    intro same
    rw [same] at announces
    exact silent announces
  refine ⟨announcer, ?_⟩
  rw [perform_other state different]
  exact announces

/-- The rule for a locked section. -/
theorem covered_perform {needs : Shared → Prop} {condition : Condition} {thread : Thread}
    {done : Section Shared Frame Condition Result}
    (silent : ¬(state.thread thread).announces condition)
    (given : Covered needs condition state) (covers : Covers needs condition state done) :
    Covered needs condition (perform state thread done) := by
  intro needed waiting
  rw [perform_shared] at needed
  obtain ⟨waiter, frame, blocked⟩ := waiting
  cases done with
  | wait shared waitsFor remembered =>
      obtain ⟨other, before⟩ := covers needed
      have different : waiter ≠ thread := by
        intro same
        subst same
        simp only [perform, Function.update_self, ThreadPoint.blocked.injEq] at blocked
        exact other blocked.1
      rw [perform_other state different] at blocked
      exact pending_perform silent _ (given before ⟨waiter, frame, blocked⟩)
  | leave shared result broadcasts =>
      by_cases announced : condition ∈ broadcasts
      · refine ⟨thread, ?_⟩
        simp only [perform, Function.update_self]
        exact announces_leaving.mpr announced
      · have different : waiter ≠ thread := by
          intro same
          subst same
          simp only [perform, Function.update_self] at blocked
          exact leaving_not_blocked broadcasts condition frame blocked
        rw [perform_other state different] at blocked
        apply pending_perform silent
        rcases covers needed announced with before | nobody | pending
        · exact given before ⟨waiter, frame, blocked⟩
        · exact absurd ⟨waiter, frame, blocked⟩ nobody
        · exact pending

theorem covered_spurious {needs : Shared → Prop} {condition waitsFor : Condition}
    {thread : Thread} {remembered : Frame}
    (point : state.thread thread = .blocked waitsFor remembered)
    (given : Covered needs condition state) :
    Covered needs condition
      { state with thread := Function.update state.thread thread (.woken remembered) } := by
  intro needed waiting
  obtain ⟨waiter, frame, blocked⟩ := waiting
  have different : waiter ≠ thread := by
    intro same
    subst same
    simp at blocked
  simp only [Function.update_of_ne different] at blocked
  obtain ⟨announcer, announces⟩ := given needed ⟨waiter, frame, blocked⟩
  have speaks : announcer ≠ thread := by
    intro same
    rw [same, point] at announces
    exact announces
  refine ⟨announcer, ?_⟩
  simp only [Function.update_of_ne speaks]
  exact announces

variable [DecidableEq Condition]

theorem notified_blocked {woke condition : Condition} {point : ThreadPoint Frame Condition}
    {frame : Frame} (blocked : point.notified woke = .blocked condition frame) :
    point = .blocked condition frame ∧ condition ≠ woke := by
  cases point with
  | blocked waitsFor remembered =>
      simp only [ThreadPoint.notified] at blocked
      split_ifs at blocked with same
      obtain ⟨rfl, rfl⟩ := ThreadPoint.blocked.inj blocked
      exact ⟨rfl, same⟩
  | _ => simp [ThreadPoint.notified] at blocked

theorem notified_announces {woke condition : Condition} {point : ThreadPoint Frame Condition}
    (announces : point.announces condition) : (point.notified woke).announces condition := by
  cases point <;> first | exact announces.elim | exact announces

theorem step_cases {label : MonitorLabel Thread Call}
    {next : MonitorState Thread Shared Frame Condition Result}
    (taken : monitor.step label state = some next) :
    (∃ thread call, label = .enter thread call ∧ state.thread thread = .outside ∧
      next = perform state thread (monitor.enter call state.shared)) ∨
    (∃ thread frame, label = .resume thread ∧ state.thread thread = .woken frame ∧
      next = perform state thread (monitor.resume frame state.shared)) ∨
    (∃ thread condition rest, label = .broadcast thread ∧
      state.thread thread = .broadcasting condition rest ∧
      next = { state with
        thread := Function.update (fun other => (state.thread other).notified condition) thread
          (.leaving rest) }) ∨
    (∃ thread condition frame, label = .spurious thread ∧
      state.thread thread = .blocked condition frame ∧
      next = { state with thread := Function.update state.thread thread (.woken frame) }) := by
  cases label with
  | enter thread call =>
      cases point : state.thread thread <;> simp only [Monitor.step, point, reduceCtorEq,
        Option.some.injEq] at taken
      exact .inl ⟨thread, call, rfl, point, taken.symm⟩
  | resume thread =>
      cases point : state.thread thread <;> simp only [Monitor.step, point, reduceCtorEq,
        Option.some.injEq] at taken
      exact .inr (.inl ⟨thread, _, rfl, point, taken.symm⟩)
  | broadcast thread =>
      cases point : state.thread thread <;> simp only [Monitor.step, point, reduceCtorEq,
        Option.some.injEq] at taken
      exact .inr (.inr (.inl ⟨thread, _, _, rfl, point, taken.symm⟩))
  | spurious thread =>
      cases point : state.thread thread <;> simp only [Monitor.step, point, reduceCtorEq,
        Option.some.injEq] at taken
      exact .inr (.inr (.inr ⟨thread, _, _, rfl, point, taken.symm⟩))

theorem results_step {fact : Shared → List Result → Prop} {label : MonitorLabel Thread Call}
    {next : MonitorState Thread Shared Frame Condition Result}
    (entered : ∀ call shared results, fact shared results →
      fact (monitor.enter call shared).shared ((monitor.enter call shared).results results))
    (resumed : ∀ frame shared results, fact shared results →
      fact (monitor.resume frame shared).shared ((monitor.resume frame shared).results results))
    (given : fact state.shared state.results) (taken : monitor.step label state = some next) :
    fact next.shared next.results := by
  rcases step_cases taken with ⟨thread, call, _, _, rfl⟩ | ⟨thread, frame, _, _, rfl⟩ |
    ⟨thread, condition, rest, _, _, rfl⟩ | ⟨thread, condition, frame, _, _, rfl⟩
  · rw [perform_shared, perform_results]
    exact entered call _ _ given
  · rw [perform_shared, perform_results]
    exact resumed frame _ _ given
  · exact given
  · exact given

theorem shared_step {fact : Shared → Prop} {label : MonitorLabel Thread Call}
    {next : MonitorState Thread Shared Frame Condition Result}
    (entered : ∀ call shared, fact shared → fact (monitor.enter call shared).shared)
    (resumed : ∀ frame shared, fact shared → fact (monitor.resume frame shared).shared)
    (given : fact state.shared) (taken : monitor.step label state = some next) :
    fact next.shared :=
  @results_step _ _ _ _ _ _ _ monitor state _ (fun shared _ => fact shared) label next
    (fun call shared _ => entered call shared) (fun frame shared _ => resumed frame shared)
    given taken

theorem covered_broadcast {needs : Shared → Prop} {condition woke : Condition} {thread : Thread}
    {rest : List Condition} (point : state.thread thread = .broadcasting woke rest)
    (given : Covered needs condition state) :
    Covered needs condition { state with
      thread := Function.update (fun other => (state.thread other).notified woke) thread
        (.leaving rest) } := by
  intro needed waiting
  obtain ⟨waiter, frame, blocked⟩ := waiting
  have different : waiter ≠ thread := by
    intro same
    subst same
    simp only [Function.update_self] at blocked
    exact leaving_not_blocked rest condition frame blocked
  simp only [Function.update_of_ne different] at blocked
  obtain ⟨before, foreign⟩ := notified_blocked blocked
  obtain ⟨announcer, announces⟩ := given needed ⟨waiter, frame, before⟩
  refine ⟨announcer, ?_⟩
  by_cases same : announcer = thread
  · subst same
    rw [point] at announces
    simp only [Function.update_self]
    exact announces_leaving.mpr (announces.resolve_left foreign)
  · simp only [Function.update_of_ne same]
    exact notified_announces announces

/-- No wake-up is lost when every permitted section covers the waiters. -/
theorem covered_step {needs : Shared → Prop} {condition : Condition}
    {label : MonitorLabel Thread Call} {next : MonitorState Thread Shared Frame Condition Result}
    (entered : ∀ thread call, label = .enter thread call →
      Covers needs condition state (monitor.enter call state.shared))
    (resumed : ∀ thread frame, label = .resume thread → state.thread thread = .woken frame →
      Covers needs condition state (monitor.resume frame state.shared))
    (given : Covered needs condition state) (taken : monitor.step label state = some next) :
    Covered needs condition next := by
  rcases step_cases taken with ⟨thread, call, same, point, rfl⟩ |
    ⟨thread, frame, same, point, rfl⟩ |
    ⟨thread, woke, rest, _, point, rfl⟩ | ⟨thread, waitsFor, frame, _, point, rfl⟩
  · exact covered_perform (by simp [point, ThreadPoint.announces]) given (entered thread call same)
  · exact covered_perform (by simp [point, ThreadPoint.announces]) given
      (resumed thread frame same point)
  · exact covered_broadcast point given
  · exact covered_spurious point given

theorem results_reachable {fact : Shared → List Result → Prop} {start : Shared}
    {permitted : Permission (MonitorState Thread Shared Frame Condition Result)
      (MonitorLabel Thread Call)}
    (atStart : fact start [])
    (entered : ∀ call shared results, fact shared results →
      fact (monitor.enter call shared).shared ((monitor.enter call shared).results results))
    (resumed : ∀ frame shared results, fact shared results →
      fact (monitor.resume frame shared).shared ((monitor.resume frame shared).results results))
    (reached : Reachable (monitor.system start) permitted state) :
    fact state.shared state.results := by
  have begins : ∀ state : MonitorState Thread Shared Frame Condition Result,
      (monitor.system start).initial state → fact state.shared state.results := by
    intro state initial
    rw [initial]
    exact atStart
  have kept : ∀ label (before after : MonitorState Thread Shared Frame Condition Result),
      fact before.shared before.results → permitted label before →
        (monitor.system start).step label before = some after →
          fact after.shared after.results :=
    fun _ _ _ given _ taken => results_step entered resumed given taken
  exact reached.keeps begins kept

theorem step_enter {thread : Thread} (call : Call) (outside : state.thread thread = .outside) :
    monitor.step (.enter thread call) state =
      some (perform state thread (monitor.enter call state.shared)) := by
  simp only [Monitor.step, outside]

theorem step_resume {thread : Thread} {frame : Frame} (woken : state.thread thread = .woken frame) :
    monitor.step (.resume thread) state =
      some (perform state thread (monitor.resume frame state.shared)) := by
  simp only [Monitor.step, woken]

theorem step_broadcast {thread : Thread} {condition : Condition} {rest : List Condition}
    (announces : state.thread thread = .broadcasting condition rest) :
    monitor.step (.broadcast thread) state = some { state with
      thread := Function.update (fun other => (state.thread other).notified condition) thread
        (.leaving rest) } := by
  simp only [Monitor.step, announces]

theorem step_spurious {thread : Thread} {condition : Condition} {frame : Frame}
    (blocked : state.thread thread = .blocked condition frame) :
    monitor.step (.spurious thread) state =
      some { state with thread := Function.update state.thread thread (.woken frame) } := by
  simp only [Monitor.step, blocked]

theorem leaving_gets_outside {start : Shared} {thread : Thread} (broadcasts : List Condition)
    (reached : Reachable (monitor.system start) anyStep state)
    (leaving : state.thread thread = .leaving broadcasts) :
    ∃ next, Reachable (monitor.system start) anyStep next ∧ next.thread thread = .outside ∧
      next.shared = state.shared := by
  induction broadcasts generalizing state with
  | nil => exact ⟨state, reached, leaving, rfl⟩
  | cons condition rest induction =>
      let next : MonitorState Thread Shared Frame Condition Result := { state with
        thread := Function.update (fun other => (state.thread other).notified condition) thread
          (.leaving rest) }
      have taken : monitor.step (.broadcast thread) state = some next := step_broadcast leaving
      have moved : Reachable (monitor.system start) anyStep next :=
        reached.next (.broadcast thread) trivial taken
      have rests : next.thread thread = .leaving rest := by
        simp only [next, Function.update_self]
      obtain ⟨final, after, outside, shared⟩ := induction moved rests
      exact ⟨final, after, outside, shared⟩

theorem quiescent_not_pending (quiet : Quiescent monitor state) (condition : Condition) :
    ¬Pending condition state := by
  intro ⟨thread, announces⟩
  have stays := (quiet thread).2
  cases point : state.thread thread with
  | broadcasting next rest => simp [Monitor.step, point] at stays
  | _ => simp [point, ThreadPoint.announces] at announces

/-- In a quiescent state that is covered nobody waits for what is there. -/
theorem Covered.not_waiting {needs : Shared → Prop} {condition : Condition}
    (given : Covered needs condition state) (quiet : Quiescent monitor state)
    (needed : needs state.shared) : ¬Waiting condition state :=
  fun waiting => quiescent_not_pending quiet condition (given needed waiting)

end Rules

end Schedulers.BroadcastMonitor
