import Schedulers.Support.TransitionSystem
import Schedulers.Support.ThreadCounting

/-!
# Monitors that notify one waiter under the lock

An object whose calls are locked sections over shared data, with one condition
variable. A section ends in a wait, which releases the lock, or in the unlock, and
may notify one waiter before it. Whom the notification wakes is part of the step's
label. A woken caller enters a section of its own when it has the lock again, and
may be woken for no reason.

Every notification is for one unit of what the shared data has to offer. `Served`
says that while somebody still waits, a woken caller is on its way for each unit.
-/

namespace Schedulers.NotifyMonitor

open Schedulers.TransitionSystem Schedulers.ThreadCounting

set_option autoImplicit false

/-- How a locked section ends: in a wait, with what the caller remembers, or in the
unlock, with the result. -/
inductive NotifySection (Shared Frame Result : Type) where
  | wait (shared : Shared) (frame : Frame)
  | leave (shared : Shared) (result : Result) (notifies : Bool)

structure NotifyingMonitor (Shared Call Frame Result : Type) where
  enter : Call → Shared → NotifySection Shared Frame Result
  resume : Frame → Shared → NotifySection Shared Frame Result

inductive WaiterPoint (Frame : Type) where
  | outside
  | waiting (frame : Frame)
  | woken (frame : Frame)
  deriving DecidableEq, Repr

/-- `waiters` are the threads blocked on the condition variable. -/
structure NotifyState (Thread Shared Frame Result : Type) where
  shared : Shared
  thread : Thread → WaiterPoint Frame
  waiters : Finset Thread
  log : List (Thread × Result)

inductive NotifyLabel (Thread Call : Type) where
  | enter (thread : Thread) (call : Call) (notified : Option Thread)
  | resume (thread : Thread) (notified : Option Thread)
  | spurious (thread : Thread)
  deriving DecidableEq, Repr

variable {Thread Shared Call Frame Result : Type}

def WaiterPoint.isWaiting : WaiterPoint Frame → Prop
  | .waiting _ => True
  | _ => False

def WaiterPoint.isWoken : WaiterPoint Frame → Prop
  | .woken _ => True
  | _ => False

section Steps

variable [DecidableEq Thread]

def NotifyState.wake (state : NotifyState Thread Shared Frame Result) (waiter : Thread) :
    Option (NotifyState Thread Shared Frame Result) :=
  match state.thread waiter with
  | .waiting frame =>
      some { state with
        thread := Function.update state.thread waiter (.woken frame)
        waiters := state.waiters.erase waiter }
  | _ => none

def NotifyState.notifyOne (state : NotifyState Thread Shared Frame Result) :
    Option Thread → Option (NotifyState Thread Shared Frame Result)
  | some waiter => state.wake waiter
  | none => if state.waiters = ∅ then some state else none

def NotifyState.block (state : NotifyState Thread Shared Frame Result) (thread : Thread)
    (shared : Shared) (frame : Frame) : NotifyState Thread Shared Frame Result :=
  { state with
    shared := shared
    thread := Function.update state.thread thread (.waiting frame)
    waiters := insert thread state.waiters }

def NotifyState.complete (state : NotifyState Thread Shared Frame Result) (thread : Thread)
    (shared : Shared) (result : Result) : NotifyState Thread Shared Frame Result :=
  { state with
    shared := shared
    thread := Function.update state.thread thread .outside
    log := state.log ++ [(thread, result)] }

def perform (state : NotifyState Thread Shared Frame Result) (thread : Thread)
    (notified : Option Thread) :
    NotifySection Shared Frame Result → Option (NotifyState Thread Shared Frame Result)
  | .wait shared frame =>
      if notified = none then some (state.block thread shared frame) else none
  | .leave shared result true => (state.complete thread shared result).notifyOne notified
  | .leave shared result false =>
      if notified = none then some (state.complete thread shared result) else none

def NotifyingMonitor.step (monitor : NotifyingMonitor Shared Call Frame Result) :
    NotifyLabel Thread Call → NotifyState Thread Shared Frame Result →
      Option (NotifyState Thread Shared Frame Result)
  | .enter thread call notified, state =>
      match state.thread thread with
      | .outside => perform state thread notified (monitor.enter call state.shared)
      | _ => none
  | .resume thread notified, state =>
      match state.thread thread with
      | .woken frame => perform state thread notified (monitor.resume frame state.shared)
      | _ => none
  | .spurious thread, state => state.wake thread

def NotifyingMonitor.system (monitor : NotifyingMonitor Shared Call Frame Result) (start : Shared) :
    System (NotifyState Thread Shared Frame Result) (NotifyLabel Thread Call) where
  initial state :=
    state = { shared := start, thread := fun _ => .outside, waiters := ∅, log := [] }
  step := monitor.step

end Steps

/-- `available` is what the shared data has to offer to the waiters. -/
structure Served (available : Shared → Nat)
    (state : NotifyState Thread Shared Frame Result) : Prop where
  waitSet : ∀ thread, thread ∈ state.waiters ↔ (state.thread thread).isWaiting
  served : state.waiters.Nonempty →
    AtLeast (available state.shared) WaiterPoint.isWoken state.thread

/-- What a section has to do for the waiters if, its caller apart, `credit` of them are
woken. -/
def Serves (available : Shared → Nat) (credit : Nat) : NotifySection Shared Frame Result → Prop
  | .wait shared _ => available shared = 0
  | .leave shared _ true => available shared ≤ credit + 1
  | .leave shared _ false => available shared ≤ credit

variable [DecidableEq Thread] {monitor : NotifyingMonitor Shared Call Frame Result}
  {available : Shared → Nat} {state next : NotifyState Thread Shared Frame Result}

theorem wake_cases {waiter : Thread} (taken : state.wake waiter = some next) :
    ∃ frame, state.thread waiter = .waiting frame ∧
      next = { state with
        thread := Function.update state.thread waiter (.woken frame)
        waiters := state.waiters.erase waiter } := by
  unfold NotifyState.wake at taken
  cases point : state.thread waiter with
  | waiting frame =>
      simp only [point, Option.some.injEq] at taken
      exact ⟨frame, rfl, taken.symm⟩
  | outside => simp [point] at taken
  | woken => simp [point] at taken

theorem perform_cases {thread : Thread} {notified : Option Thread}
    {done : NotifySection Shared Frame Result}
    (taken : perform state thread notified done = some next) :
    (∃ shared frame, done = .wait shared frame ∧ next = state.block thread shared frame) ∨
    (∃ shared result, done = .leave shared result false ∧
      next = state.complete thread shared result) ∨
    (∃ shared result waiter, done = .leave shared result true ∧
      (state.complete thread shared result).wake waiter = some next) ∨
    (∃ shared result, done = .leave shared result true ∧ state.waiters = ∅ ∧
      next = state.complete thread shared result) := by
  cases done with
  | wait shared frame =>
      simp only [perform] at taken
      split_ifs at taken
      exact .inl ⟨shared, frame, rfl, (Option.some.inj taken).symm⟩
  | leave shared result notifies =>
      cases notifies with
      | false =>
          simp only [perform] at taken
          split_ifs at taken
          exact .inr (.inl ⟨shared, result, rfl, (Option.some.inj taken).symm⟩)
      | true =>
          cases notified with
          | some waiter => exact .inr (.inr (.inl ⟨shared, result, waiter, rfl, taken⟩))
          | none =>
              simp only [perform, NotifyState.notifyOne] at taken
              split_ifs at taken with nobody
              exact .inr (.inr (.inr ⟨shared, result, rfl, nobody, (Option.some.inj taken).symm⟩))

theorem served_wake {waiter : Thread} {credit : Nat}
    (waitSet : ∀ thread, thread ∈ state.waiters ↔ (state.thread thread).isWaiting)
    (woken : state.waiters.Nonempty → AtLeast credit WaiterPoint.isWoken state.thread)
    (enough : available state.shared ≤ credit + 1) (taken : state.wake waiter = some next) :
    Served available next := by
  obtain ⟨frame, point, rfl⟩ := wake_cases taken
  have waits : (state.thread waiter).isWaiting := by
    rw [point]
    trivial
  constructor
  · intro thread
    by_cases same : thread = waiter
    · subst same
      simp [WaiterPoint.isWaiting]
    · simp only [Finset.mem_erase, ne_eq, same, not_false_eq_true, true_and,
        Function.update_of_ne same]
      exact waitSet thread
  · intro _
    have asleep : ¬(state.thread waiter).isWoken := by
      rw [point]
      exact id
    have awake : (WaiterPoint.woken frame).isWoken := trivial
    have before := woken ⟨waiter, (waitSet waiter).mpr waits⟩
    exact (before.arrive asleep awake).fewer enough

/-- The rule for a locked section of a thread that is not in the wait set. -/
theorem served_perform {thread : Thread} {notified : Option Thread} {credit : Nat}
    {done : NotifySection Shared Frame Result} (given : Served available state)
    (inside : ¬(state.thread thread).isWaiting)
    (woken : state.waiters.Nonempty →
      AtLeast credit WaiterPoint.isWoken (Function.update state.thread thread .outside))
    (serves : Serves available credit done)
    (taken : perform state thread notified done = some next) : Served available next := by
  have absent : thread ∉ state.waiters := fun member => inside ((given.waitSet thread).mp member)
  have waitSet (shared : Shared) (result : Result) (other : Thread) :
      other ∈ (state.complete thread shared result).waiters ↔
        ((state.complete thread shared result).thread other).isWaiting := by
    dsimp only [NotifyState.complete]
    by_cases same : other = thread
    · subst same
      simp [absent, WaiterPoint.isWaiting]
    · rw [Function.update_of_ne same]
      exact given.waitSet other
  rcases perform_cases taken with ⟨shared, frame, rfl, rfl⟩ | ⟨shared, result, rfl, rfl⟩ |
    ⟨shared, result, waiter, rfl, waking⟩ | ⟨shared, result, rfl, nobody, rfl⟩
  · constructor
    · intro other
      by_cases same : other = thread
      · subst same
        simp [NotifyState.block, WaiterPoint.isWaiting]
      · simp only [NotifyState.block, Finset.mem_insert, same, false_or,
          Function.update_of_ne same]
        exact given.waitSet other
    · intro _
      have nothing : available (state.block thread shared frame).shared = 0 := serves
      rw [nothing]
      exact at_least_zero _ _
  · exact ⟨waitSet shared result, fun waiting => (woken waiting).fewer serves⟩
  · exact served_wake (waitSet shared result) woken serves waking
  · refine ⟨waitSet shared result, fun waiting => ?_⟩
    rw [Finset.nonempty_iff_ne_empty] at waiting
    exact absurd nobody waiting

/-- No wake-up is lost when every section serves the waiters. A caller that resumes was
itself one of the woken. -/
theorem served_step {label : NotifyLabel Thread Call}
    (entered : ∀ call shared, Serves available (available shared) (monitor.enter call shared))
    (resumed : ∀ frame shared,
      Serves available (available shared - 1) (monitor.resume frame shared))
    (given : Served available state) (taken : monitor.step label state = some next) :
    Served available next := by
  cases label with
  | enter thread call notified =>
      cases point : state.thread thread <;> simp only [NotifyingMonitor.step, point] at taken
      case outside =>
        have unchanged : Function.update state.thread thread .outside = state.thread := by
          rw [← point, Function.update_eq_self]
        apply served_perform given _ _ (entered call state.shared) taken
        · simp [point, WaiterPoint.isWaiting]
        · rw [unchanged]
          exact given.served
      case waiting => cases taken
      case woken => cases taken
  | resume thread notified =>
      cases point : state.thread thread <;> simp only [NotifyingMonitor.step, point] at taken
      case woken frame =>
        apply served_perform given _ _ (resumed frame state.shared) taken
        · simp [point, WaiterPoint.isWaiting]
        · intro waiting
          cases offers : available state.shared with
          | zero => exact at_least_zero _ _
          | succ more =>
              have before := given.served waiting
              rw [offers] at before
              exact before.leave
      case outside => cases taken
      case waiting => cases taken
  | spurious thread => exact served_wake given.waitSet given.served (Nat.le_succ _) taken

theorem served_reachable {start : Shared}
    {permitted : Permission (NotifyState Thread Shared Frame Result) (NotifyLabel Thread Call)}
    (entered : ∀ call shared, Serves available (available shared) (monitor.enter call shared))
    (resumed : ∀ frame shared,
      Serves available (available shared - 1) (monitor.resume frame shared))
    (reached : Reachable (monitor.system start) permitted state) : Served available state := by
  apply reached.keeps
  · intro start begins
    rw [begins]
    constructor <;> simp [WaiterPoint.isWaiting]
  · intro label before after given _ taken
    exact served_step entered resumed given taken

end Schedulers.NotifyMonitor
