import Schedulers.Support.LockedCode
import Schedulers.Support.TransitionSystem
import Mathlib.Logic.Function.Basic

/-!
# Monitors of code

An object whose calls execute code under one mutex. A call enters a section; the section
ends in a wait on a condition, which has released the mutex, or in the end of the call,
after which the caller may still have some notifications to issue, or in an exception, or
nowhere, when it waits for a mutex that is never released. Every section is one atomic
step, its notifications included. A woken caller enters a section of its own, and may be
woken for no reason. A label says which copies throw and which waiters a `notify_one`
picks; a notification whose pick does not wait is lost.
-/

namespace Schedulers.CodeMonitors

open Schedulers.TransitionSystem Schedulers.LockedCode

set_option autoImplicit false

inductive Exit (Frame Condition Result : Type) where
  | wait (condition : Condition) (frame : Frame)
  | leave (result : Result) (signals : List (Signal Condition))
  deriving DecidableEq, Repr

/-- `enter` is the code from the start of a call to its first wait or its end and `resume`
the one from a return of the wait. -/
structure CodeMonitor (Shared Call Frame Condition Exception Result : Type) where
  enter : Call → Code Shared Condition Exception (Exit Frame Condition Result)
  resume : Frame → Code Shared Condition Exception (Exit Frame Condition Result)

inductive ThreadPoint (Frame Condition : Type) where
  | outside
  | blocked (condition : Condition) (frame : Frame)
  | woken (frame : Frame)
  | signalling (next : Signal Condition) (rest : List (Signal Condition))
  | stuck
  deriving DecidableEq, Repr

/-- `log` has what the calls ended with, in the order of their last sections. -/
structure MonitorState (Thread Shared Frame Condition Exception Result : Type) where
  shared : Shared
  locked : Bool
  thread : Thread → ThreadPoint Frame Condition
  log : List (Thread × Except Exception Result)

inductive MonitorLabel (Thread Call : Type) where
  | enter (thread : Thread) (call : Call) (copies : List Bool) (picks : List Thread)
  | resume (thread : Thread) (copies : List Bool) (picks : List Thread)
  | signal (thread : Thread) (picks : List Thread)
  | spurious (thread : Thread)
  deriving DecidableEq, Repr

variable {Thread Shared Call Frame Condition Exception Result : Type}

abbrev SectionOutcome (Shared Frame Condition Exception Result : Type) :=
  Outcome Shared Condition Exception (Exit Frame Condition Result)

def MonitorState.start (shared : Shared) :
    MonitorState Thread Shared Frame Condition Exception Result where
  shared := shared
  locked := false
  thread _ := .outside
  log := []

def MonitorState.memory (state : MonitorState Thread Shared Frame Condition Exception Result)
    (copies : List Bool) : Memory Shared Condition where
  shared := state.shared
  locked := state.locked
  signals := []
  copies := copies

def ThreadPoint.leaving : List (Signal Condition) → ThreadPoint Frame Condition
  | [] => .outside
  | next :: rest => .signalling next rest

theorem leaving_not_blocked (signals : List (Signal Condition)) (condition : Condition)
    (frame : Frame) : ThreadPoint.leaving signals ≠ .blocked condition frame := by
  cases signals <;> simp [ThreadPoint.leaving]

theorem leaving_not_woken (signals : List (Signal Condition)) (frame : Frame) :
    (.leaving signals : ThreadPoint Frame Condition) ≠ .woken frame := by
  cases signals <;> simp [ThreadPoint.leaving]

def pointAfter : SectionOutcome Shared Frame Condition Exception Result →
    ThreadPoint Frame Condition
  | .ok (.wait condition frame) _ => .blocked condition frame
  | .ok (.leave _ signals) _ => .leaving signals
  | .error (.thrown _) _ => .outside
  | .error .stuck _ => .stuck

theorem pointAfter_not_woken (outcome : SectionOutcome Shared Frame Condition Exception Result)
    (frame : Frame) : pointAfter outcome ≠ .woken frame := by
  rcases outcome with ⟨_ | ⟨_, signals⟩, _⟩ | ⟨_ | _, _⟩
  · simp [pointAfter]
  · exact leaving_not_woken signals frame
  · simp [pointAfter]
  · simp [pointAfter]

def endedWith (thread : Thread) : SectionOutcome Shared Frame Condition Exception Result →
    List (Thread × Except Exception Result)
  | .ok (.wait _ _) _ => []
  | .ok (.leave result _) _ => [(thread, .ok result)]
  | .error (.thrown exception) _ => [(thread, .error exception)]
  | .error .stuck _ => []

theorem endedWith_error {thread : Thread} {exception : Exception}
    {outcome : SectionOutcome Shared Frame Condition Exception Result} :
    endedWith thread outcome = [(thread, .error exception)] ↔
      ∃ after, outcome = .error (.thrown exception) after := by
  rcases outcome with ⟨_ | _, _⟩ | ⟨_ | _, _⟩ <;> simp [endedWith]

section Steps

variable [DecidableEq Thread] [DecidableEq Condition]

def ThreadPoint.notified (condition : Condition) :
    ThreadPoint Frame Condition → ThreadPoint Frame Condition
  | .blocked waitsFor frame =>
      if waitsFor = condition then .woken frame else .blocked waitsFor frame
  | point => point

/-- Issues the notifications; each `notify_one` takes the next pick. -/
def deliver : List (Signal Condition) → List Thread → (Thread → ThreadPoint Frame Condition) →
    Thread → ThreadPoint Frame Condition
  | [], _, points => points
  | .all condition :: signals, picks, points =>
      deliver signals picks fun thread => (points thread).notified condition
  | .one _ :: signals, [], points => deliver signals [] points
  | .one condition :: signals, pick :: picks, points =>
      deliver signals picks (Function.update points pick ((points pick).notified condition))

def finish (state : MonitorState Thread Shared Frame Condition Exception Result) (thread : Thread)
    (picks : List Thread) (outcome : SectionOutcome Shared Frame Condition Exception Result) :
    MonitorState Thread Shared Frame Condition Exception Result where
  shared := (memoryAfter outcome).shared
  locked := (memoryAfter outcome).locked
  thread := Function.update (deliver (memoryAfter outcome).signals picks state.thread) thread
    (pointAfter outcome)
  log := state.log ++ endedWith thread outcome

/-- A thread that needs the mutex while another one has it does not move; one that needs
it twice is stuck with it. -/
def takeSection (state : MonitorState Thread Shared Frame Condition Exception Result)
    (thread : Thread) (picks : List Thread)
    (outcome : SectionOutcome Shared Frame Condition Exception Result) :
    Option (MonitorState Thread Shared Frame Condition Exception Result) :=
  if state.locked && isStuck outcome then none else some (finish state thread picks outcome)

def CodeMonitor.step (monitor : CodeMonitor Shared Call Frame Condition Exception Result) :
    MonitorLabel Thread Call → MonitorState Thread Shared Frame Condition Exception Result →
      Option (MonitorState Thread Shared Frame Condition Exception Result)
  | .enter thread call copies picks, state =>
      match state.thread thread with
      | .outside =>
          takeSection state thread picks ((monitor.enter call).run (state.memory copies))
      | _ => none
  | .resume thread copies picks, state =>
      match state.thread thread with
      | .woken frame =>
          takeSection state thread picks ((monitor.resume frame).run (state.memory copies))
      | _ => none
  | .signal thread picks, state =>
      match state.thread thread with
      | .signalling next rest =>
          some { state with
            thread := Function.update (deliver [next] picks state.thread) thread (.leaving rest) }
      | _ => none
  | .spurious thread, state =>
      match state.thread thread with
      | .blocked _ frame =>
          some { state with thread := Function.update state.thread thread (.woken frame) }
      | _ => none

def CodeMonitor.system (monitor : CodeMonitor Shared Call Frame Condition Exception Result)
    (shared : Shared) :
    System (MonitorState Thread Shared Frame Condition Exception Result)
      (MonitorLabel Thread Call) where
  initial state := state = .start shared
  step := monitor.step

end Steps

section Rules

variable [DecidableEq Thread] [DecidableEq Condition]
  {monitor : CodeMonitor Shared Call Frame Condition Exception Result}
  {state next : MonitorState Thread Shared Frame Condition Exception Result}
  {thread : Thread} {picks : List Thread}
  {outcome : SectionOutcome Shared Frame Condition Exception Result}

theorem takeSection_eq_some :
    takeSection state thread picks outcome = some next ↔
      (isStuck outcome = true → state.locked = false) ∧
        finish state thread picks outcome = next := by
  unfold takeSection
  cases state.locked <;> cases isStuck outcome <;> simp

theorem notified_cases (condition : Condition) (point : ThreadPoint Frame Condition) :
    point.notified condition = point ∨
      ∃ frame, point = .blocked condition frame ∧ point.notified condition = .woken frame := by
  cases point with
  | blocked waitsFor frame =>
      by_cases same : waitsFor = condition
      · subst same
        exact .inr ⟨frame, rfl, if_pos rfl⟩
      · exact .inl (if_neg same)
  | _ => exact .inl rfl

theorem notified_not_blocked (condition : Condition) (point : ThreadPoint Frame Condition)
    (frame : Frame) : point.notified condition ≠ .blocked condition frame := by
  intro blocked
  rcases notified_cases condition point with same | ⟨_, _, woken⟩
  · rw [same] at blocked
    simp [blocked, ThreadPoint.notified] at same
  · rw [woken] at blocked
    cases blocked

theorem deliver_cases (signals : List (Signal Condition)) (picks : List Thread)
    (points : Thread → ThreadPoint Frame Condition) (thread : Thread) :
    deliver signals picks points thread = points thread ∨
      ∃ condition frame, points thread = .blocked condition frame ∧
        deliver signals picks points thread = .woken frame := by
  induction signals generalizing picks points with
  | nil => exact .inl rfl
  | cons signal signals induction =>
      cases signal with
      | all condition =>
          have rest := induction picks fun thread => (points thread).notified condition
          rcases notified_cases condition (points thread) with same | ⟨frame, blocked, woken⟩
          · simpa only [deliver, same] using rest
          · refine .inr ⟨condition, frame, blocked, ?_⟩
            simpa [deliver, woken] using rest
      | one condition =>
          cases picks with
          | nil => exact induction [] points
          | cons pick picks =>
              have rest := induction picks
                (Function.update points pick ((points pick).notified condition))
              by_cases picked : thread = pick
              · subst picked
                simp only [Function.update_self] at rest
                rcases notified_cases condition (points thread) with same | ⟨frame, blocked, woken⟩
                · simpa only [deliver, same] using rest
                · refine .inr ⟨condition, frame, blocked, ?_⟩
                  simpa [deliver, woken] using rest
              · simpa only [deliver, Function.update_of_ne picked] using rest

theorem deliver_all {signals : List (Signal Condition)} {condition : Condition}
    (announced : .all condition ∈ signals) (picks : List Thread)
    (points : Thread → ThreadPoint Frame Condition) (thread : Thread) (frame : Frame) :
    deliver signals picks points thread ≠ .blocked condition frame := by
  induction signals generalizing picks points with
  | nil => cases announced
  | cons signal signals induction =>
      rcases List.mem_cons.mp announced with rfl | later
      · rw [deliver]
        rcases deliver_cases signals picks (fun thread => (points thread).notified condition) thread
          with same | ⟨_, _, _, woken⟩
        · rw [same]
          exact notified_not_blocked condition (points thread) frame
        · rw [woken]
          simp
      · cases signal with
        | all => exact induction later picks _
        | one =>
            cases picks with
            | nil => exact induction later [] points
            | cons pick picks => exact induction later picks _

theorem step_cases {label : MonitorLabel Thread Call}
    (taken : monitor.step label state = some next) :
    (∃ thread call copies picks, label = .enter thread call copies picks ∧
      state.thread thread = .outside ∧
      takeSection state thread picks ((monitor.enter call).run (state.memory copies)) =
        some next) ∨
    (∃ thread frame copies picks, label = .resume thread copies picks ∧
      state.thread thread = .woken frame ∧
      takeSection state thread picks ((monitor.resume frame).run (state.memory copies)) =
        some next) ∨
    (∃ thread signal rest picks, label = .signal thread picks ∧
      state.thread thread = .signalling signal rest ∧
      next = { state with
        thread := Function.update (deliver [signal] picks state.thread) thread
          (.leaving rest) }) ∨
    (∃ thread condition frame, label = .spurious thread ∧
      state.thread thread = .blocked condition frame ∧
      next = { state with thread := Function.update state.thread thread (.woken frame) }) := by
  cases label with
  | enter thread call copies picks =>
      cases point : state.thread thread <;> simp only [CodeMonitor.step, point, reduceCtorEq]
        at taken
      exact .inl ⟨thread, call, copies, picks, rfl, point, taken⟩
  | resume thread copies picks =>
      cases point : state.thread thread <;> simp only [CodeMonitor.step, point, reduceCtorEq]
        at taken
      exact .inr (.inl ⟨thread, _, copies, picks, rfl, point, taken⟩)
  | signal thread picks =>
      cases point : state.thread thread <;> simp only [CodeMonitor.step, point, reduceCtorEq,
        Option.some.injEq] at taken
      exact .inr (.inr (.inl ⟨thread, _, _, picks, rfl, point, taken.symm⟩))
  | spurious thread =>
      cases point : state.thread thread <;> simp only [CodeMonitor.step, point, reduceCtorEq,
        Option.some.injEq] at taken
      exact .inr (.inr (.inr ⟨thread, _, _, rfl, point, taken.symm⟩))

theorem step_enter {call : Call} {copies : List Bool}
    (taken : monitor.step (.enter thread call copies picks) state = some next) :
    state.thread thread = .outside ∧
      finish state thread picks ((monitor.enter call).run (state.memory copies)) = next := by
  rcases step_cases taken with ⟨_, _, _, _, same, point, entered⟩ | ⟨_, _, _, _, other, _⟩ |
    ⟨_, _, _, _, other, _⟩ | ⟨_, _, _, other, _⟩
  · cases same
    exact ⟨point, (takeSection_eq_some.mp entered).2⟩
  · cases other
  · cases other
  · cases other

theorem step_resume {frame : Frame} {copies : List Bool}
    (taken : monitor.step (.resume thread copies picks) state = some next)
    (woken : state.thread thread = .woken frame) :
    finish state thread picks ((monitor.resume frame).run (state.memory copies)) = next := by
  simp only [CodeMonitor.step, woken] at taken
  exact (takeSection_eq_some.mp taken).2

@[simp] theorem finish_thread_self
    (state : MonitorState Thread Shared Frame Condition Exception Result) (thread : Thread)
    (picks : List Thread) (outcome : SectionOutcome Shared Frame Condition Exception Result) :
    (finish state thread picks outcome).thread thread = pointAfter outcome :=
  Function.update_self ..

theorem finish_thread_other (state : MonitorState Thread Shared Frame Condition Exception Result)
    {thread other : Thread} (different : other ≠ thread) (picks : List Thread)
    (outcome : SectionOutcome Shared Frame Condition Exception Result) :
    (finish state thread picks outcome).thread other =
      deliver (memoryAfter outcome).signals picks state.thread other :=
  Function.update_of_ne different ..

theorem finish_thrown {exception : Exception} {after : Memory Shared Condition}
    (point : state.thread thread = .outside) (shared : after.shared = state.shared)
    (locked : after.locked = state.locked) (signals : after.signals = []) :
    finish state thread picks (.error (.thrown exception) after) =
      { state with log := state.log ++ [(thread, .error exception)] } := by
  have unmoved : Function.update state.thread thread .outside = state.thread := by
    rw [← point, Function.update_eq_self]
  simp only [finish, memoryAfter, shared, locked, signals, deliver, pointAfter, unmoved, endedWith]

theorem finish_blocked {other : Thread} {condition : Condition} {frame : Frame}
    (blocked : (finish state thread picks outcome).thread other = .blocked condition frame) :
    (other = thread ∧ pointAfter outcome = .blocked condition frame) ∨
      (other ≠ thread ∧ state.thread other = .blocked condition frame ∧
        .all condition ∉ (memoryAfter outcome).signals) := by
  by_cases same : other = thread
  · subst same
    rw [finish_thread_self] at blocked
    exact .inl ⟨rfl, blocked⟩
  · rw [finish_thread_other state same] at blocked
    refine .inr ⟨same, ?_, fun announced => deliver_all announced picks _ other frame blocked⟩
    rcases deliver_cases (memoryAfter outcome).signals picks state.thread other
      with unmoved | ⟨_, _, _, woken⟩
    · rw [← unmoved]
      exact blocked
    · rw [woken] at blocked
      cases blocked

theorem deliver_stuck {signals : List (Signal Condition)} {picks : List Thread}
    {points : Thread → ThreadPoint Frame Condition} (stuck : points thread = .stuck) :
    deliver signals picks points thread = .stuck := by
  rcases deliver_cases signals picks points thread with same | ⟨_, _, blocked, _⟩
  · rw [same, stuck]
  · rw [stuck] at blocked
    cases blocked

theorem stuck_stays {label : MonitorLabel Thread Call}
    (taken : monitor.step label state = some next) {other : Thread}
    (stuck : state.thread other = .stuck) : next.thread other = .stuck := by
  have elsewhere : ∀ {thread : Thread}, state.thread thread ≠ .stuck → other ≠ thread := by
    intro thread moves same
    rw [same] at stuck
    exact moves stuck
  rcases step_cases taken with ⟨thread, call, copies, picks, _, point, entered⟩ |
    ⟨thread, frame, copies, picks, _, point, resumed⟩ |
    ⟨thread, signal, rest, picks, _, point, rfl⟩ | ⟨thread, condition, frame, _, point, rfl⟩
  · obtain ⟨_, rfl⟩ := takeSection_eq_some.mp entered
    rw [finish_thread_other state (elsewhere (by simp [point]))]
    exact deliver_stuck stuck
  · obtain ⟨_, rfl⟩ := takeSection_eq_some.mp resumed
    rw [finish_thread_other state (elsewhere (by simp [point]))]
    exact deliver_stuck stuck
  · have different : other ≠ thread := elsewhere (by simp [point])
    simp only [Function.update_of_ne different]
    exact deliver_stuck stuck
  · have different : other ≠ thread := elsewhere (by simp [point])
    simp only [Function.update_of_ne different]
    exact stuck

/-- What holds of the run of every section. -/
def EverySection (monitor : CodeMonitor Shared Call Frame Condition Exception Result)
    (holds : Memory Shared Condition →
      SectionOutcome Shared Frame Condition Exception Result → Prop) : Prop :=
  (∀ call memory, holds memory ((monitor.enter call).run memory)) ∧
    ∀ frame memory, holds memory ((monitor.resume frame).run memory)

/-- A step is a section, of which the thread comes that was not stuck, or it leaves the
shared data, the mutex and the log alone. -/
theorem step_of_sections {label : MonitorLabel Thread Call}
    {holds : Thread → Memory Shared Condition →
      SectionOutcome Shared Frame Condition Exception Result → Prop}
    (every : ∀ thread, EverySection monitor (holds thread))
    (taken : monitor.step label state = some next) :
    (∃ thread copies picks outcome, holds thread (state.memory copies) outcome ∧
      state.thread thread ≠ .stuck ∧ next = finish state thread picks outcome) ∨
    (next.shared = state.shared ∧ next.locked = state.locked ∧ next.log = state.log) := by
  rcases step_cases taken with ⟨thread, call, copies, picks, _, point, entered⟩ |
    ⟨thread, frame, copies, picks, _, point, resumed⟩ |
    ⟨thread, signal, rest, picks, _, _, rfl⟩ | ⟨thread, condition, frame, _, _, rfl⟩
  · left
    have ended := (takeSection_eq_some.mp entered).2
    exact ⟨thread, copies, picks, _, (every thread).1 call _, by simp [point], ended.symm⟩
  · left
    have ended := (takeSection_eq_some.mp resumed).2
    exact ⟨thread, copies, picks, _, (every thread).2 frame _, by simp [point], ended.symm⟩
  · exact .inr ⟨rfl, rfl, rfl⟩
  · exact .inr ⟨rfl, rfl, rfl⟩

theorem section_invariant {fact : Shared → List (Thread × Except Exception Result) → Prop}
    {permitted : Permission (MonitorState Thread Shared Frame Condition Exception Result)
      (MonitorLabel Thread Call)} {shared : Shared} (atStart : fact shared [])
    (kept : ∀ thread log, EverySection monitor fun memory outcome =>
      fact memory.shared log → fact (memoryAfter outcome).shared (log ++ endedWith thread outcome))
    (reached : Reachable (monitor.system shared) permitted state) :
    fact state.shared state.log := by
  apply reached.keeps
  · intro start begins
    rw [begins]
    exact atStart
  · intro label before after given _ taken
    rcases step_of_sections (fun thread => kept thread before.log) taken with
      ⟨thread, copies, picks, outcome, keeps, _, rfl⟩ | ⟨sameShared, _, sameLog⟩
    · exact keeps given
    · rw [sameShared, sameLog]
      exact given

/-- Only a thread that waits for its own mutex ever keeps it. -/
def HeldByStuck (state : MonitorState Thread Shared Frame Condition Exception Result) : Prop :=
  state.locked = true → ∃ thread, state.thread thread = .stuck

theorem finish_held_by_stuck {copies : List Bool} (given : HeldByStuck state)
    (moves : state.thread thread ≠ .stuck) (restores : Restores (state.memory copies) outcome) :
    HeldByStuck (finish state thread picks outcome) := by
  intro held
  rcases outcome with ⟨_, after⟩ | ⟨_ | _, after⟩
  · have free : after.locked = false := restores.2
    exact absurd (held.symm.trans free) (by decide)
  · have same : after.locked = state.locked := restores
    obtain ⟨other, stuck⟩ := given (same.symm.trans held)
    have different : other ≠ thread := by
      intro equal
      rw [equal] at stuck
      exact moves stuck
    refine ⟨other, ?_⟩
    rw [finish_thread_other state different]
    exact deliver_stuck stuck
  · exact ⟨thread, finish_thread_self ..⟩

theorem held_by_stuck {permitted : Permission
      (MonitorState Thread Shared Frame Condition Exception Result) (MonitorLabel Thread Call)}
    {shared : Shared} (restores : EverySection monitor Restores)
    (reached : Reachable (monitor.system shared) permitted state) : HeldByStuck state := by
  apply reached.keeps
  · intro start begins held
    rw [begins] at held
    cases held
  · intro label before after given _ taken
    rcases step_of_sections (fun _ => restores) taken with
      ⟨thread, copies, picks, outcome, restored, moves, rfl⟩ | ⟨_, sameLocked, _⟩
    · exact finish_held_by_stuck given moves restored
    · intro held
      obtain ⟨other, stuck⟩ := given (sameLocked.symm.trans held)
      exact ⟨other, stuck_stays taken stuck⟩

theorem step_other_log {label : MonitorLabel Thread Call}
    (taken : monitor.step label state = some next) (log : List (Thread × Except Exception Result)) :
    ∃ ended, next.log = state.log ++ ended ∧
      monitor.step label { state with log := log } = some { next with log := log ++ ended } := by
  rcases step_cases taken with ⟨thread, call, copies, picks, rfl, point, entered⟩ |
    ⟨thread, frame, copies, picks, rfl, point, resumed⟩ |
    ⟨thread, signal, rest, picks, rfl, point, rfl⟩ | ⟨thread, condition, frame, rfl, point, rfl⟩
  · obtain ⟨free, rfl⟩ := takeSection_eq_some.mp entered
    refine ⟨_, rfl, ?_⟩
    simp only [CodeMonitor.step, point]
    exact takeSection_eq_some.mpr ⟨free, rfl⟩
  · obtain ⟨free, rfl⟩ := takeSection_eq_some.mp resumed
    refine ⟨_, rfl, ?_⟩
    simp only [CodeMonitor.step, point]
    exact takeSection_eq_some.mpr ⟨free, rfl⟩
  · refine ⟨[], by simp, ?_⟩
    simp [CodeMonitor.step, point]
  · refine ⟨[], by simp, ?_⟩
    simp [CodeMonitor.step, point]

theorem follow_other_log {shared : Shared} {labels : List (MonitorLabel Thread Call)}
    {final : MonitorState Thread Shared Frame Condition Exception Result}
    (followed : (monitor.system shared).follow anyStep labels state = some final)
    (log : List (Thread × Except Exception Result)) :
    ∃ ended, final.log = state.log ++ ended ∧
      (monitor.system shared).follow anyStep labels { state with log := log } =
        some { final with log := log ++ ended } := by
  induction labels generalizing state log with
  | nil =>
      cases followed
      exact ⟨[], by simp, by simp [System.follow]⟩
  | cons label labels induction =>
      rw [follow_cons_any] at followed
      obtain ⟨middle, taken, rest⟩ := Option.bind_eq_some_iff.mp followed
      obtain ⟨first, firstLog, moved⟩ := step_other_log taken log
      obtain ⟨others, othersLog, ran⟩ := induction rest (log ++ first)
      refine ⟨first ++ others, ?_, ?_⟩
      · rw [othersLog, firstLog, List.append_assoc]
      · rw [follow_cons_any]
        change (monitor.step label { state with log := log }).bind _ = _
        rw [moved, Option.bind_some, ran, List.append_assoc]

/-- What a history of steps from the state leaves, and what the calls end with in it. -/
def afterwards (monitor : CodeMonitor Shared Call Frame Condition Exception Result)
    (labels : List (MonitorLabel Thread Call))
    (state : MonitorState Thread Shared Frame Condition Exception Result) :
    Option (Shared × (Thread → ThreadPoint Frame Condition) ×
      List (Thread × Except Exception Result)) :=
  ((monitor.system state.shared).follow anyStep labels state).map fun final =>
    (final.shared, final.thread, final.log.drop state.log.length)

theorem afterwards_other_log (labels : List (MonitorLabel Thread Call))
    (log : List (Thread × Except Exception Result)) :
    afterwards monitor labels { state with log := log } = afterwards monitor labels state := by
  unfold afterwards
  cases followed : (monitor.system state.shared).follow anyStep labels state with
  | some final =>
      obtain ⟨ended, before, again⟩ := follow_other_log followed log
      simp [again, before]
  | none =>
      cases again : (monitor.system state.shared).follow anyStep labels { state with log := log }
        with
      | none => rfl
      | some final =>
          obtain ⟨_, _, back⟩ := follow_other_log again state.log
          rw [followed] at back
          cases back

end Rules

end Schedulers.CodeMonitors
