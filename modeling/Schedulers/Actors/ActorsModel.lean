import Schedulers.Queues.MessageQueue

/-!
# The active objects of `actors_cc98.h` and `actors_cc11.h`

An active object owns a `message_queue` and a thread that dispatches the messages one
after the other. The destructor sends one last message and joins the thread. The two
implementations differ in the dispatch loop only: `cc98::Actor` compares what it has
dequeued with a sentinel, and the last message of `cc11::Actior` sets a flag that the
loop tests. Messages are not null and their bodies do not throw; a body may send to
its own actor.
-/

namespace Schedulers.Actors

open Schedulers.TransitionSystem Schedulers.NotifyMonitor Schedulers.Queues

set_option autoImplicit false

/-- `shutdown` is the message of the destructor, `done` in `cc98::Actor` and the lambda
that sets `done` in `cc11::Actior`. -/
inductive ActorMessage (Message : Type) where
  | message (body : Message)
  | shutdown
  deriving DecidableEq, Repr

inductive DispatchAction (Message Point : Type) where
  | dequeue (next : ActorMessage Message → Point)
  | execute (message : Message) (next : Point)
  | goTo (next : Point)
  | finished

structure DispatchLoop (Message Point : Type) where
  start : Point
  action : Point → DispatchAction Message Point

inductive Cc98Point (Message : Type) where
  | dequeue
  | test (msg : ActorMessage Message)
  | execute (msg : Message)
  | finished
  deriving DecidableEq, Repr

/-- `while( (msg = mq.dequeue()) != done ) msg->Execute();` -/
def cc98Run (Message : Type) : DispatchLoop Message (Cc98Point Message) where
  start := .dequeue
  action
    | .dequeue => .dequeue .test
    | .test (.message msg) => .goTo (.execute msg)
    | .test .shutdown => .goTo .finished
    | .execute msg => .execute msg .dequeue
    | .finished => .finished

inductive Cc11Statement (Message : Type) where
  | test
  | dequeue
  | execute (msg : ActorMessage Message)
  | finished
  deriving DecidableEq, Repr

structure Cc11Point (Message : Type) where
  done : Bool
  statement : Cc11Statement Message
  deriving DecidableEq, Repr

/-- `while( !done ) { Message msg = mq.dequeue(); msg(); }` -/
def cc11Run (Message : Type) : DispatchLoop Message (Cc11Point Message) where
  start := { done := false, statement := .test }
  action
    | ⟨true, .test⟩ => .goTo ⟨true, .finished⟩
    | ⟨false, .test⟩ => .goTo ⟨false, .dequeue⟩
    | ⟨done, .dequeue⟩ => .dequeue fun msg => ⟨done, .execute msg⟩
    | ⟨done, .execute (.message msg)⟩ => .execute msg ⟨done, .test⟩
    | ⟨_, .execute .shutdown⟩ => .goTo ⟨true, .test⟩
    | ⟨_, .finished⟩ => .finished

/-- The dispatch thread, in `dequeue` if it waits or has been woken. -/
inductive Dispatcher (Point : Type) where
  | running (point : Point)
  | waiting (point : Point)
  | woken (point : Point)
  deriving DecidableEq, Repr

inductive Destructor where
  | notEntered
  | joining
  | joined
  deriving DecidableEq, Repr

/-- `enqueued` has every message that has been sent, in lock order, and `executed` the
bodies that have been executed, in that order. -/
structure ActorState (Message Point : Type) where
  mq : List (ActorMessage Message)
  dispatcher : Dispatcher Point
  destructor : Destructor
  enqueued : List (ActorMessage Message)
  executed : List Message

inductive ActorLabel (Sender Message : Type) where
  | send (sender : Sender) (message : Message)
  | sendFromBody (message : Message)
  | shutdown
  | dispatch
  | spurious
  | join
  deriving DecidableEq, Repr

variable {Sender Message Point : Type}

def Dispatcher.notified : Dispatcher Point → Dispatcher Point
  | .waiting point => .woken point
  | dispatcher => dispatcher

def ActorState.enqueue (state : ActorState Message Point) (message : ActorMessage Message) :
    ActorState Message Point :=
  match MessageQueue.enqueue message state.mq with
  | .wait mq _ => { state with mq := mq }
  | .leave mq _ notifies =>
      { state with
        mq := mq
        dispatcher := if notifies then state.dispatcher.notified else state.dispatcher
        enqueued := state.enqueued ++ [message] }

def ActorState.dequeue (state : ActorState Message Point) (point : Point)
    (next : ActorMessage Message → Point) : Option (ActorState Message Point) :=
  match MessageQueue.dequeue state.mq with
  | .wait mq _ => some { state with mq := mq, dispatcher := .waiting point }
  | .leave mq (.dequeued val) _ => some { state with mq := mq, dispatcher := .running (next val) }
  | .leave _ (.enqueued _) _ => none

def dispatchStep (loop : DispatchLoop Message Point) (state : ActorState Message Point) :
    Option (ActorState Message Point) :=
  match state.dispatcher with
  | .running point =>
      match loop.action point with
      | .dequeue next => state.dequeue point next
      | .execute message next =>
          some { state with
            dispatcher := .running next
            executed := state.executed ++ [message] }
      | .goTo next => some { state with dispatcher := .running next }
      | .finished => none
  | .woken point =>
      match loop.action point with
      | .dequeue next => state.dequeue point next
      | _ => none
  | .waiting _ => none

def Dispatcher.executing (loop : DispatchLoop Message Point) : Dispatcher Point → Bool
  | .running point =>
      match loop.action point with
      | .execute _ _ => true
      | _ => false
  | _ => false

def Dispatcher.exited (loop : DispatchLoop Message Point) : Dispatcher Point → Bool
  | .running point =>
      match loop.action point with
      | .finished => true
      | _ => false
  | _ => false

def actorStep (loop : DispatchLoop Message Point) :
    ActorLabel Sender Message → ActorState Message Point → Option (ActorState Message Point)
  | .send _ message, state =>
      if state.destructor = .joined then none else some (state.enqueue (.message message))
  | .sendFromBody message, state =>
      if state.dispatcher.executing loop then some (state.enqueue (.message message)) else none
  | .shutdown, state =>
      if state.destructor = .notEntered then
        some { state.enqueue .shutdown with destructor := .joining }
      else none
  | .dispatch, state => dispatchStep loop state
  | .spurious, state =>
      match state.dispatcher with
      | .waiting point => some { state with dispatcher := .woken point }
      | _ => none
  | .join, state =>
      if state.destructor = .joining ∧ state.dispatcher.exited loop then
        some { state with destructor := .joined }
      else none

def ActorState.start (loop : DispatchLoop Message Point) : ActorState Message Point where
  mq := []
  dispatcher := .running loop.start
  destructor := .notEntered
  enqueued := []
  executed := []

def actorSystem (Sender : Type) (loop : DispatchLoop Message Point) :
    System (ActorState Message Point) (ActorLabel Sender Message) where
  initial state := state = .start loop
  step := actorStep loop

end Schedulers.Actors
