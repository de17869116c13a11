import Mathlib.Tactic.Common

/-!
# Services that run handlers, and event queues

A service runs the handlers that are posted to it on the threads that call its `run`,
and is stopped when it runs out of work; a `work` object is work that is unfinished
until it is destroyed. An event queue delivers what is posted to it. Of both only what
their users rely on is said, in terms of numbers of handlers and events; the counts
themselves are such a service and such a queue.
-/

namespace Schedulers.HandlerServices

set_option autoImplicit false

/-- `run` says whether the thread that calls it stays; `startHandler` gives a handler to
a thread that has stayed, and `runReturns` says when such a thread may return. -/
structure HandlerService (Svc : Type) where
  new : Svc
  makeWork : Svc → Svc
  destroyWork : Svc → Svc
  post : Svc → Svc
  run : Svc → Svc × Bool
  startHandler : Svc → Option Svc
  handlerReturned : Svc → Svc
  runReturns : Svc → Bool

/-- The handlers that wait, the handlers and `work` objects that are not finished, and
whether the service has been stopped. -/
structure ServiceCounts where
  queued : Nat
  unfinished : Nat
  stopped : Bool
  deriving DecidableEq, Repr

namespace ServiceCounts

def start : ServiceCounts := ⟨0, 0, false⟩

def workBegun (counts : ServiceCounts) : ServiceCounts :=
  { counts with unfinished := counts.unfinished + 1 }

/-- The service is stopped when it runs out of work. -/
def workEnded (counts : ServiceCounts) : ServiceCounts :=
  { counts with
    unfinished := counts.unfinished - 1
    stopped := counts.stopped || counts.unfinished - 1 == 0 }

def handlerPosted (counts : ServiceCounts) : ServiceCounts :=
  { counts with queued := counts.queued + 1, unfinished := counts.unfinished + 1 }

def idle (counts : ServiceCounts) : Bool := counts.unfinished == 0 || counts.stopped

def runCalled (counts : ServiceCounts) : ServiceCounts :=
  { counts with stopped := counts.idle }

def handlerStarted (counts : ServiceCounts) : Option ServiceCounts :=
  match counts.stopped, counts.queued with
  | false, queued + 1 => some { counts with queued := queued }
  | _, _ => none

end ServiceCounts

variable {Svc : Type}

/-- What the users of a service rely on: `run` stays until the work is finished or the
service is stopped, a `work` object and a handler from its post to its return are work
that is unfinished, and a service that runs out of work is stopped and runs no further
handler. Work ends only where some is unfinished. -/
structure HandlerService.Serves (service : HandlerService Svc) (counts : Svc → ServiceCounts) :
    Prop where
  new : counts service.new = .start
  makeWork : ∀ svc, counts (service.makeWork svc) = (counts svc).workBegun
  destroyWork : ∀ svc, (counts svc).unfinished ≠ 0 →
    counts (service.destroyWork svc) = (counts svc).workEnded
  post : ∀ svc, counts (service.post svc) = (counts svc).handlerPosted
  runStays : ∀ svc, (service.run svc).2 = !(counts svc).idle
  run : ∀ svc, counts (service.run svc).1 = (counts svc).runCalled
  startHandler : ∀ svc, (service.startHandler svc).map counts = (counts svc).handlerStarted
  handlerReturned : ∀ svc, (counts svc).unfinished ≠ 0 →
    counts (service.handlerReturned svc) = (counts svc).workEnded
  runReturns : ∀ svc, service.runReturns svc = (counts svc).stopped

def countedService : HandlerService ServiceCounts where
  new := .start
  makeWork := .workBegun
  destroyWork := .workEnded
  post := .handlerPosted
  run counts := (counts.runCalled, !counts.idle)
  startHandler := ServiceCounts.handlerStarted
  handlerReturned := .workEnded
  runReturns := ServiceCounts.stopped

theorem counted_service_serves : countedService.Serves id := by
  constructor <;> intros <;> simp [countedService]

/-- Events are delivered to the one thread that asks for them. -/
structure EventQueue (Events : Type) where
  new : Events
  postEvent : Events → Events
  nextEvent : Events → Option Events

variable {Events : Type}

structure EventQueue.Delivers (queue : EventQueue Events) (pending : Events → Nat) : Prop where
  new : pending queue.new = 0
  postEvent : ∀ events, pending (queue.postEvent events) = pending events + 1
  takes : ∀ events after, queue.nextEvent events = some after →
    pending events = pending after + 1
  delivers : ∀ events, pending events ≠ 0 → queue.nextEvent events ≠ none

def countedEvents : EventQueue Nat where
  new := 0
  postEvent events := events + 1
  nextEvent
    | 0 => none
    | events + 1 => some events

theorem counted_events_delivers : countedEvents.Delivers id where
  new := rfl
  postEvent _ := rfl
  takes events after taken := by
    cases events with
    | zero => cases taken
    | succ events =>
        cases taken
        rfl
  delivers events filled := by
    cases events with
    | zero => exact absurd rfl filled
    | succ events => nofun

end Schedulers.HandlerServices
