import Schedulers.Pipeline.RnnStream
import Schedulers.Support.WorkPool
import Mathlib.Logic.Function.Basic

/-!
# All goroutines of `go_bench.go`

The grabber, the RNN, the goroutine that posts frames to the worker pool, the pool's
routines and the acceptor of their results, with the channels between them. The pool is
a parameter: it is that of the workpool package, whose `PostWork` queues the work or
returns an error, and each of whose routines runs the `DoWork` of one work at a time.
-/

namespace Schedulers.Pipeline

open Schedulers.TransitionSystem Schedulers.WorkPools

set_option autoImplicit false

/-- What each goroutine has received or taken and not yet passed on; `none` while it
waits for the next. `skipped` and `accepted` have the frames whose work the pool has
refused and those whose result has been handled. -/
structure FlowState (Time Pool : Type) (routines : Nat) where
  stream : PipelineState Time
  posting : Option (GrabbedFrameDescriptor Time)
  workPool : Pool
  doing : Fin routines → Option (GrabbedFrameDescriptor Time)
  workFinishCh : List (GrabbedFrameDescriptor Time)
  accepting : Option (GrabbedFrameDescriptor Time)
  skipped : List (GrabbedFrameDescriptor Time)
  accepted : List (GrabbedFrameDescriptor Time)

inductive FlowLabel (Time : Type) (routines : Nat) where
  | tick (capturingtime : Time)
  | sendToRnn
  | unlock
  | sendToRecog
  | quit
  | rnnReceive
  | recogReceive
  | postWork (choice : Nat)
  | startWork (routine : Fin routines) (choice : Nat)
  | doWork (routine : Fin routines)
  | receiveResult
  | acceptResult
  deriving DecidableEq, Repr

variable {Time Pool : Type} {routines : Nat}

def FlowState.streams (state : FlowState Time Pool routines) (label : PipelineLabel Time) :
    Option (FlowState Time Pool routines) :=
  (pipelineStep label state.stream).map fun stream => { state with stream := stream }

def flowStep (pool : WorkPool Pool (GrabbedFrameDescriptor Time)) :
    FlowLabel Time routines → FlowState Time Pool routines →
      Option (FlowState Time Pool routines)
  | .tick capturingtime, state => state.streams (.tick capturingtime)
  | .sendToRnn, state => state.streams .sendToRnn
  | .unlock, state => state.streams .unlock
  | .sendToRecog, state => state.streams .sendToRecog
  | .quit, state => state.streams .quit
  | .rnnReceive, state => state.streams .rnnReceive
  | .recogReceive, state =>
      match state.posting, state.stream.recogCh with
      | none, frame :: rest =>
          some { state with
            stream := { state.stream with recogCh := rest }
            posting := some frame }
      | _, _ => none
  | .postWork choice, state =>
      match state.posting with
      | some frame =>
          match pool.postWork choice frame state.workPool with
          | some queued => some { state with posting := none, workPool := queued }
          | none => some { state with posting := none, skipped := state.skipped ++ [frame] }
      | none => none
  | .startWork routine choice, state =>
      match state.doing routine, pool.nextWork choice state.workPool with
      | none, some (frame, rest) =>
          some { state with
            workPool := rest
            doing := Function.update state.doing routine (some frame) }
      | _, _ => none
  | .doWork routine, state =>
      match state.doing routine with
      | some frame =>
          if state.workFinishCh.length < 1 then
            some { state with
              doing := Function.update state.doing routine none
              workFinishCh := state.workFinishCh ++ [frame] }
          else none
      | none => none
  | .receiveResult, state =>
      match state.accepting, state.workFinishCh with
      | none, frame :: rest =>
          some { state with accepting := some frame, workFinishCh := rest }
      | _, _ => none
  | .acceptResult, state =>
      match state.accepting with
      | some frame =>
          if state.stream.grabber.holdsLock then none
          else
            some { state with
              stream := { state.stream with buffer := state.stream.buffer.handle frame.frameIdx }
              accepting := none
              accepted := state.accepted ++ [frame] }
      | none => none

def FlowState.start [Inhabited Time] (size : Int) (routines : Nat)
    (pool : WorkPool Pool (GrabbedFrameDescriptor Time)) : FlowState Time Pool routines where
  stream := .start size
  posting := none
  workPool := pool.new
  doing := fun _ => none
  workFinishCh := []
  accepting := none
  skipped := []
  accepted := []

def flowSystem [Inhabited Time] (size : Int) (routines : Nat)
    (pool : WorkPool Pool (GrabbedFrameDescriptor Time)) :
    System (FlowState Time Pool routines) (FlowLabel Time routines) where
  initial state := state = .start size routines pool
  step := flowStep pool

/-- No further tick of the grabber's ticker, and nobody closes its quit channel. -/
def NoMoreFrames : Permission (FlowState Time Pool routines) (FlowLabel Time routines)
  | .tick _, _ => False
  | .quit, _ => False
  | _, _ => True

end Schedulers.Pipeline
