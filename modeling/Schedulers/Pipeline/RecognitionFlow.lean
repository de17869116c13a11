import Schedulers.Pipeline.RecognitionFlowModel
import Schedulers.Support.Progress
import Schedulers.Support.Tally
import Mathlib.Algebra.GroupWithZero.Nat
import Mathlib.Tactic.Common

/-!
# Where a captured frame is

With all its goroutines `go_bench.go` still shows the stream that is proved of the
grabber alone: the acceptor handles results of captured frames only. Each captured frame
is in one place, and in the end it has been skipped or its result has been handled; no
goroutine waits for ever while another holds the lock or a full channel.
-/

namespace Schedulers.Pipeline

open Schedulers.TransitionSystem Schedulers.Tally Schedulers.WorkPools

set_option autoImplicit false

variable {Time Pool : Type} {routines : Nat}

def framesIn (number : Int) (frames : List (GrabbedFrameDescriptor Time)) : Nat :=
  frames.countP (·.frameIdx = number)

@[simp] theorem frames_in_nil (number : Int) :
    framesIn number ([] : List (GrabbedFrameDescriptor Time)) = 0 := rfl

@[simp] theorem frames_in_append (number : Int)
    (first second : List (GrabbedFrameDescriptor Time)) :
    framesIn number (first ++ second) = framesIn number first + framesIn number second :=
  List.countP_append

theorem frames_in_cons (number : Int) (frame : GrabbedFrameDescriptor Time)
    (rest : List (GrabbedFrameDescriptor Time)) :
    framesIn number (frame :: rest) = framesIn number [frame] + framesIn number rest :=
  frames_in_append number [frame] rest

theorem frames_in_perm (number : Int) {first second : List (GrabbedFrameDescriptor Time)}
    (same : first.Perm second) : framesIn number first = framesIn number second :=
  same.countP_eq _

theorem frames_in_single (number : Int) (frame : GrabbedFrameDescriptor Time) :
    framesIn number [frame] = if frame.frameIdx = number then 1 else 0 := by
  by_cases same : frame.frameIdx = number <;> simp [framesIn, same]

def BufferStep.resultNumber : BufferStep Time → Option Int
  | .pushBack _ => none
  | .handle frameIdx => some frameIdx

def framesHeld (number : Int) (hand : Option (GrabbedFrameDescriptor Time)) : Nat :=
  framesIn number hand.toList

@[simp] theorem frames_held_none (number : Int) :
    framesHeld number (none : Option (GrabbedFrameDescriptor Time)) = 0 := rfl

@[simp] theorem frames_held_some (number : Int) (frame : GrabbedFrameDescriptor Time) :
    framesHeld number (some frame) = framesIn number [frame] := rfl

/-- The frame of the current tick, until it is sent on `recog_ch`. -/
def GrabberPoint.frames : GrabberPoint Time → List (GrabbedFrameDescriptor Time)
  | .sendingToRnn frame _ => [frame]
  | .unlocking frame => [frame]
  | .sendingToRecog frame => [frame]
  | _ => []

def PipelineState.framesAhead (state : PipelineState Time) (number : Int) : Nat :=
  framesIn number state.grabber.frames + framesIn number state.recogCh

namespace FlowState

/-- `queued` has the frames of the work that waits in the pool. -/
def inFlight (queued : Pool → List (GrabbedFrameDescriptor Time))
    (state : FlowState Time Pool routines) (number : Int) : Nat :=
  state.stream.framesAhead number + framesHeld number state.posting +
    framesIn number (queued state.workPool) + tally (framesHeld number) state.doing +
    framesIn number state.workFinishCh + framesHeld number state.accepting

def places (queued : Pool → List (GrabbedFrameDescriptor Time))
    (state : FlowState Time Pool routines) (number : Int) : Nat :=
  state.inFlight queued number + framesIn number state.skipped + framesIn number state.accepted

end FlowState

/-- The steps of the grabber and the RNN that take no new frame. -/
def PipelineLabel.passesOn : PipelineLabel Time → Prop
  | .sendToRnn | .unlock | .sendToRecog | .quit | .rnnReceive => True
  | _ => False

theorem passing_on {label : PipelineLabel Time} (passes : label.passesOn)
    {stream later : PipelineState Time} (taken : pipelineStep label stream = some later) :
    later.buffer = stream.buffer ∧
      ∀ number, later.framesAhead number = stream.framesAhead number := by
  cases label with
  | tick | postWork | acceptResult => exact absurd passes id
  | sendToRnn =>
      cases point : stream.grabber <;> simp only [pipelineStep, point, reduceCtorEq] at taken
      split_ifs at taken
      cases taken
      exact ⟨rfl, fun number => by simp [PipelineState.framesAhead, point, GrabberPoint.frames]⟩
  | unlock | quit =>
      cases point : stream.grabber <;> simp only [pipelineStep, point, reduceCtorEq] at taken
      cases taken
      exact ⟨rfl, fun number => by simp [PipelineState.framesAhead, point, GrabberPoint.frames]⟩
  | sendToRecog =>
      cases point : stream.grabber <;> simp only [pipelineStep, point, reduceCtorEq] at taken
      split_ifs at taken
      cases taken
      refine ⟨rfl, fun number => ?_⟩
      simp only [PipelineState.framesAhead, point, GrabberPoint.frames, frames_in_append,
        frames_in_nil]
      omega
  | rnnReceive =>
      cases queued : stream.rnnCh <;> simp only [pipelineStep, queued, reduceCtorEq] at taken
      cases taken
      exact ⟨rfl, fun _ => rfl⟩

section Stream

variable [Inhabited Time] {size : Int} {stream later : PipelineState Time}

theorem tick_captures (given : Streams size stream) {capturingtime : Time}
    (taken : pipelineStep (.tick capturingtime) stream = some later) :
    later.buffer.globalFrameIdx = stream.buffer.globalFrameIdx + 1 ∧
    later.buffer.steps.filterMap BufferStep.resultNumber =
      stream.buffer.steps.filterMap BufferStep.resultNumber ∧
    ∀ number, later.framesAhead number = stream.framesAhead number +
      if stream.buffer.globalFrameIdx + 1 = number then 1 else 0 := by
  cases point : stream.grabber <;> simp only [pipelineStep, point, reduceCtorEq] at taken
  obtain ⟨buffer, e, pushes, _, _, newest, history⟩ :=
    @follows_push _ _ _ _ given.follows (stream.buffer.nextFrame [] capturingtime) rfl rfl
  simp only [pushes, Option.some.injEq] at taken
  subst taken
  have nextNumber : (stream.buffer.nextFrame [] capturingtime).frameIdx =
      stream.buffer.globalFrameIdx + 1 := rfl
  refine ⟨newest, ?_, fun number => ?_⟩
  · rw [history, List.filterMap_append]
    exact List.append_nil _
  simp only [PipelineState.framesAhead, point, GrabberPoint.frames, frames_in_nil,
    frames_in_single, nextNumber]
  omega

end Stream

variable [Inhabited Time] {size : Int} {state next : FlowState Time Pool routines}
  {pool : WorkPool Pool (GrabbedFrameDescriptor Time)}
  {queued : Pool → List (GrabbedFrameDescriptor Time)}

structure Flows (size : Int) (queued : Pool → List (GrabbedFrameDescriptor Time))
    (state : FlowState Time Pool routines) : Prop where
  streams : Streams size state.stream
  places : ∀ number, state.places queued number =
    if 1 ≤ number ∧ number ≤ state.stream.buffer.globalFrameIdx then 1 else 0
  handled : state.stream.buffer.steps.filterMap BufferStep.resultNumber =
    state.accepted.map GrabbedFrameDescriptor.frameIdx

theorem Flows.captured (given : Flows size queued state) {number : Int}
    (there : 1 ≤ state.places queued number) :
    1 ≤ number ∧ number ≤ state.stream.buffer.globalFrameIdx := by
  have one := given.places number
  by_contra outside
  rw [if_neg outside] at one
  omega

/-- A step of all goroutines is one of the grabber, the RNN and the handling of a result
for a captured frame, or leaves these alone. -/
theorem stream_follows (given : Flows size queued state) {label : FlowLabel Time routines}
    (taken : flowStep pool label state = some next) :
    next.stream = state.stream ∨
      ∃ step, pipelineStep step state.stream = some next.stream := by
  cases label with
  | tick | sendToRnn | unlock | sendToRecog | quit | rnnReceive =>
      obtain ⟨stream, moved, rfl⟩ := Option.map_eq_some_iff.mp taken
      exact .inr ⟨_, moved⟩
  | recogReceive =>
      simp only [flowStep] at taken
      split at taken
      · next frame rest _ waits =>
          cases taken
          exact .inr ⟨.postWork, by simp only [pipelineStep, waits]⟩
      · cases taken
  | postWork choice =>
      simp only [flowStep] at taken
      split at taken
      · split at taken <;> cases taken <;> exact .inl rfl
      · cases taken
  | startWork | doWork | receiveResult =>
      simp only [flowStep] at taken
      split at taken
      · try split_ifs at taken
        all_goals
          cases taken
          exact .inl rfl
      · cases taken
  | acceptResult =>
      simp only [flowStep] at taken
      split at taken
      · next frame holds =>
          split_ifs at taken with unlocked
          cases taken
          have there : 1 ≤ state.places queued frame.frameIdx := by
            simp only [FlowState.places, FlowState.inFlight, holds, frames_held_some,
              frames_in_single, if_true]
            omega
          refine .inr ⟨.acceptResult frame.frameIdx, ?_⟩
          simp only [pipelineStep, if_neg unlocked, bufferStep, if_pos (given.captured there)]
          rfl
      · cases taken

omit [Inhabited Time] in
theorem places_kept (delivers : pool.Delivers queued) {label : FlowLabel Time routines}
    (taken : flowStep pool label state = some next)
    (noTick : ∀ capturingtime, label ≠ .tick capturingtime) :
    next.stream.buffer.globalFrameIdx = state.stream.buffer.globalFrameIdx ∧
      ∀ number, next.places queued number = state.places queued number := by
  cases label with
  | tick capturingtime => exact absurd rfl (noTick capturingtime)
  | sendToRnn | unlock | sendToRecog | quit | rnnReceive =>
      obtain ⟨stream, moved, rfl⟩ := Option.map_eq_some_iff.mp taken
      obtain ⟨same, ahead⟩ := passing_on (by trivial) moved
      exact ⟨by rw [same], fun number => by
        simp only [FlowState.places, FlowState.inFlight, ahead]⟩
  | recogReceive =>
      simp only [flowStep] at taken
      split at taken
      · next frame rest free waits =>
          cases taken
          refine ⟨rfl, fun number => ?_⟩
          simp only [FlowState.places, FlowState.inFlight, PipelineState.framesAhead, free, waits,
            frames_held_none, frames_held_some]
          rw [frames_in_cons number frame rest]
          omega
      · cases taken
  | postWork choice =>
      simp only [flowStep] at taken
      split at taken
      · next frame holds =>
          split at taken <;> cases taken
          · next after accepted =>
              refine ⟨rfl, fun number => ?_⟩
              have more := frames_in_perm number (delivers.accepts accepted)
              rw [frames_in_cons] at more
              simp only [FlowState.places, FlowState.inFlight, holds, frames_held_none,
                frames_held_some]
              omega
          · refine ⟨rfl, fun number => ?_⟩
            simp only [FlowState.places, FlowState.inFlight, holds, frames_held_none,
              frames_held_some, frames_in_append]
            omega
      · cases taken
  | startWork routine choice =>
      simp only [flowStep] at taken
      split at taken
      · next frame rest free given =>
          cases taken
          refine ⟨rfl, fun number => ?_⟩
          have moved := tally_update (framesHeld number) state.doing routine (some frame)
          rw [free, frames_held_none, frames_held_some] at moved
          have fewer := frames_in_perm number (delivers.gives given)
          rw [frames_in_cons] at fewer
          simp only [FlowState.places, FlowState.inFlight]
          omega
      · cases taken
  | doWork routine =>
      simp only [flowStep] at taken
      split at taken
      · next frame holds =>
          split_ifs at taken
          cases taken
          refine ⟨rfl, fun number => ?_⟩
          have moved := tally_update (framesHeld number) state.doing routine none
          rw [holds, frames_held_none, frames_held_some] at moved
          simp only [FlowState.places, FlowState.inFlight, frames_in_append]
          omega
      · cases taken
  | receiveResult =>
      simp only [flowStep] at taken
      split at taken
      · next frame rest free waits =>
          cases taken
          refine ⟨rfl, fun number => ?_⟩
          simp only [FlowState.places, FlowState.inFlight, free, waits, frames_held_none,
            frames_held_some]
          rw [frames_in_cons number frame rest]
          omega
      · cases taken
  | acceptResult =>
      simp only [flowStep] at taken
      split at taken
      · next frame holds =>
          split_ifs at taken
          cases taken
          refine ⟨rfl, fun number => ?_⟩
          simp only [FlowState.places, FlowState.inFlight, PipelineState.framesAhead, holds,
            frames_held_none, frames_held_some, frames_in_append]
          omega
      · cases taken

theorem results_recorded (given : Flows size queued state) {label : FlowLabel Time routines}
    (taken : flowStep pool label state = some next) :
    next.stream.buffer.steps.filterMap BufferStep.resultNumber =
      next.accepted.map GrabbedFrameDescriptor.frameIdx := by
  have before := given.handled
  cases label with
  | tick capturingtime =>
      obtain ⟨stream, moved, rfl⟩ := Option.map_eq_some_iff.mp taken
      exact (tick_captures given.streams moved).2.1.trans before
  | sendToRnn | unlock | sendToRecog | quit | rnnReceive =>
      obtain ⟨stream, moved, rfl⟩ := Option.map_eq_some_iff.mp taken
      dsimp only
      rw [(passing_on (by trivial) moved).1]
      exact before
  | postWork choice =>
      simp only [flowStep] at taken
      split at taken
      · split at taken <;> cases taken <;> exact before
      · cases taken
  | recogReceive | startWork | doWork | receiveResult =>
      simp only [flowStep] at taken
      split at taken
      · try split_ifs at taken
        all_goals
          cases taken
          exact before
      · cases taken
  | acceptResult =>
      simp only [flowStep] at taken
      split at taken
      · next frame holds =>
          split_ifs at taken
          cases taken
          simp only [BufferState.handle, List.filterMap_append, List.map_append, before]
          rfl
      · cases taken

theorem flows_step (delivers : pool.Delivers queued) (positive : 1 ≤ size)
    {label : FlowLabel Time routines}
    (given : Flows size queued state) (taken : flowStep pool label state = some next) :
    Flows size queued next := by
  have streams : Streams size next.stream := by
    rcases stream_follows given taken with same | ⟨step, moved⟩
    · rw [same]
      exact given.streams
    · exact streams_step positive given.streams moved
  refine ⟨streams, fun number => ?_, results_recorded given taken⟩
  have before := given.places number
  cases label with
  | tick capturingtime =>
      obtain ⟨stream, moved, rfl⟩ := Option.map_eq_some_iff.mp taken
      obtain ⟨counted, _, ahead⟩ := tick_captures given.streams moved
      have notNegative := given.streams.follows.counted
      simp only [FlowState.places, FlowState.inFlight, ahead, counted] at before ⊢
      by_cases newest : stream.buffer.globalFrameIdx = number <;> split_ifs at before ⊢ <;> omega
  | _ =>
      obtain ⟨counted, kept⟩ := places_kept delivers taken (by simp)
      rw [kept, counted]
      exact before

theorem flows_at_start (delivers : pool.Delivers queued) (positive : 1 ≤ size) :
    Flows size queued (.start size routines pool) := by
  refine ⟨⟨follows_at_start positive, rfl⟩, fun number => ?_, rfl⟩
  have idle : tally (framesHeld number) (fun _ : Fin routines =>
      (none : Option (GrabbedFrameDescriptor Time))) = 0 := tally_zero_iff.mpr fun _ => rfl
  rw [if_neg (by
    change ¬(1 ≤ number ∧ number ≤ 0)
    omega)]
  simp only [FlowState.places, FlowState.inFlight, FlowState.start, idle, delivers.startsEmpty]
  rfl

theorem flows_reachable (delivers : pool.Delivers queued) (positive : 1 ≤ size)
    (reached : Reachable (flowSystem size routines pool) anyStep state) :
    Flows size queued state ∧ Reachable (pipelineSystem Time size) anyStep state.stream := by
  apply reached.keeps
  · rintro _ rfl
    exact ⟨flows_at_start delivers positive, _, rfl, .refl _⟩
  · rintro label before after ⟨given, streams⟩ _ taken
    refine ⟨flows_step delivers positive given taken, ?_⟩
    rcases stream_follows given taken with same | ⟨step, moved⟩
    · rw [same]
      exact streams
    · exact streams.next step trivial moved

def GrabberPoint.price : GrabberPoint Time → Nat
  | .sendingToRnn _ _ => 10
  | .unlocking _ => 8
  | .sendingToRecog _ => 7
  | _ => 0

def handPrice (price : Nat) (hand : Option (GrabbedFrameDescriptor Time)) : Nat :=
  price * hand.toList.length

/-- No more steps than this are left without a further tick. -/
def FlowState.stepsLeft (queued : Pool → List (GrabbedFrameDescriptor Time))
    (state : FlowState Time Pool routines) : Nat :=
  state.stream.grabber.price + state.stream.rnnCh.length + 6 * state.stream.recogCh.length +
    handPrice 5 state.posting + 4 * (queued state.workPool).length +
    tally (handPrice 3) state.doing +
    2 * state.workFinishCh.length + handPrice 1 state.accepting

omit [Inhabited Time] in
theorem flow_step_cheaper (delivers : pool.Delivers queued) {label : FlowLabel Time routines}
    (allowed : NoMoreFrames label state) (taken : flowStep pool label state = some next) :
    next.stepsLeft queued < state.stepsLeft queued := by
  cases label with
  | tick | quit => exact absurd allowed id
  | sendToRnn =>
      obtain ⟨stream, moved, rfl⟩ := Option.map_eq_some_iff.mp taken
      cases point : state.stream.grabber <;> simp only [pipelineStep, point, reduceCtorEq] at moved
      split_ifs at moved
      cases moved
      simp only [FlowState.stepsLeft, point, GrabberPoint.price, List.length_append,
        List.length_singleton]
      omega
  | unlock =>
      obtain ⟨stream, moved, rfl⟩ := Option.map_eq_some_iff.mp taken
      cases point : state.stream.grabber <;> simp only [pipelineStep, point, reduceCtorEq] at moved
      cases moved
      simp only [FlowState.stepsLeft, point, GrabberPoint.price]
      omega
  | sendToRecog =>
      obtain ⟨stream, moved, rfl⟩ := Option.map_eq_some_iff.mp taken
      cases point : state.stream.grabber <;> simp only [pipelineStep, point, reduceCtorEq] at moved
      split_ifs at moved
      cases moved
      simp only [FlowState.stepsLeft, point, GrabberPoint.price, List.length_append,
        List.length_singleton]
      omega
  | rnnReceive =>
      obtain ⟨stream, moved, rfl⟩ := Option.map_eq_some_iff.mp taken
      cases queued : state.stream.rnnCh <;> simp only [pipelineStep, queued, reduceCtorEq] at moved
      cases moved
      simp only [FlowState.stepsLeft, queued, List.length_cons]
      omega
  | recogReceive =>
      simp only [flowStep] at taken
      split at taken
      · next frame rest free waits =>
          cases taken
          simp only [FlowState.stepsLeft, free, waits, handPrice, Option.toList_none,
            Option.toList_some, List.length_cons, List.length_nil]
          omega
      · cases taken
  | postWork choice =>
      simp only [flowStep] at taken
      split at taken
      · next frame holds =>
          split at taken <;> cases taken
          · next after accepted =>
              have longer := (delivers.accepts accepted).length_eq
              rw [List.length_cons] at longer
              simp only [FlowState.stepsLeft, holds, handPrice, Option.toList_none,
                Option.toList_some, List.length_singleton, List.length_nil]
              omega
          · simp only [FlowState.stepsLeft, holds, handPrice, Option.toList_none,
              Option.toList_some, List.length_singleton, List.length_nil]
            omega
      · cases taken
  | startWork routine choice =>
      simp only [flowStep] at taken
      split at taken
      · next frame rest free given =>
          cases taken
          have shorter := (delivers.gives given).length_eq
          rw [List.length_cons] at shorter
          have moved := tally_update (handPrice 3) state.doing routine (some frame)
          rw [free] at moved
          simp only [handPrice, Option.toList_none, Option.toList_some, List.length_singleton,
            List.length_nil] at moved
          simp only [FlowState.stepsLeft, handPrice] at moved ⊢
          omega
      · cases taken
  | doWork routine =>
      simp only [flowStep] at taken
      split at taken
      · next frame holds =>
          split_ifs at taken
          cases taken
          have moved := tally_update (handPrice 3) state.doing routine none
          rw [holds] at moved
          simp only [handPrice, Option.toList_none, Option.toList_some, List.length_singleton,
            List.length_nil] at moved
          simp only [FlowState.stepsLeft, List.length_append, List.length_singleton,
            handPrice] at moved ⊢
          omega
      · cases taken
  | receiveResult =>
      simp only [flowStep] at taken
      split at taken
      · next frame rest free waits =>
          cases taken
          simp only [FlowState.stepsLeft, free, waits, handPrice, Option.toList_none,
            Option.toList_some, List.length_cons, List.length_nil]
          omega
      · cases taken
  | acceptResult =>
      simp only [flowStep] at taken
      split at taken
      · next frame holds =>
          split_ifs at taken
          cases taken
          simp only [FlowState.stepsLeft, holds, handPrice, Option.toList_none,
            Option.toList_some, List.length_cons, List.length_nil]
          omega
      · cases taken

theorem no_more_frames_lowers (delivers : pool.Delivers queued) :
    Lowers (flowSystem size routines pool) NoMoreFrames
      fun state amount => state.stepsLeft queued = amount := by
  rintro label state next amount rfl allowed taken
  exact ⟨next.stepsLeft queued, flow_step_cheaper delivers allowed taken, rfl⟩

/-- The grabber is between two ticks, or its goroutine has ended, and nothing else is
under way. -/
structure AtRest (queued : Pool → List (GrabbedFrameDescriptor Time))
    (state : FlowState Time Pool routines) : Prop where
  grabber : state.stream.grabber = .selecting ∨ state.stream.grabber = .finished
  rnnCh : state.stream.rnnCh = []
  recogCh : state.stream.recogCh = []
  posting : state.posting = none
  waiting : queued state.workPool = []
  doing : ∀ routine, state.doing routine = none
  workFinishCh : state.workFinishCh = []
  accepting : state.accepting = none

/-- Each wait in a settled state would be for somebody who can go on: the RNN, then the
grabber in its locked section, the acceptor, the routines, the posting goroutine, and at
last the grabber's second send. -/
theorem settled_at_rest [NeZero routines] (delivers : pool.Delivers queued)
    (settled : Settled (flowSystem size routines pool) NoMoreFrames state) :
    AtRest queued state := by
  have stuck (label : FlowLabel Time routines) (allowed : NoMoreFrames label state) :
      flowStep pool label state = none := settled label allowed
  have rnnCh : state.stream.rnnCh = [] := by
    have idle := stuck .rnnReceive trivial
    cases waits : state.stream.rnnCh with
    | nil => rfl
    | cons frame rest => simp [flowStep, FlowState.streams, pipelineStep, waits] at idle
  have notSending (frame e : GrabbedFrameDescriptor Time) :
      state.stream.grabber ≠ .sendingToRnn frame e := fun point => by
    have idle := stuck .sendToRnn trivial
    simp [flowStep, FlowState.streams, pipelineStep, point, rnnCh] at idle
  have notUnlocking (frame : GrabbedFrameDescriptor Time) :
      state.stream.grabber ≠ .unlocking frame := fun point => by
    have idle := stuck .unlock trivial
    simp [flowStep, FlowState.streams, pipelineStep, point] at idle
  have unlocked : state.stream.grabber.holdsLock = false := by
    cases point : state.stream.grabber with
    | sendingToRnn frame e => exact absurd point (notSending frame e)
    | unlocking frame => exact absurd point (notUnlocking frame)
    | selecting | sendingToRecog | finished => rfl
  have accepting : state.accepting = none := by
    have idle := stuck .acceptResult trivial
    cases holds : state.accepting with
    | none => rfl
    | some frame => simp [flowStep, holds, unlocked] at idle
  have workFinishCh : state.workFinishCh = [] := by
    have idle := stuck .receiveResult trivial
    cases waits : state.workFinishCh with
    | nil => rfl
    | cons frame rest => simp [flowStep, accepting, waits] at idle
  have doing (routine : Fin routines) : state.doing routine = none := by
    have idle := stuck (.doWork routine) trivial
    cases holds : state.doing routine with
    | none => rfl
    | some frame => simp [flowStep, holds, workFinishCh] at idle
  have waiting : queued state.workPool = [] := by
    by_contra filled
    obtain ⟨choice, given⟩ := delivers.serves state.workPool filled
    obtain ⟨⟨frame, rest⟩, given⟩ := Option.ne_none_iff_exists'.mp given
    have idle := stuck (.startWork 0 choice) trivial
    simp [flowStep, doing 0, given] at idle
  have posting : state.posting = none := by
    have idle := stuck (.postWork 0) trivial
    cases holds : state.posting with
    | none => rfl
    | some frame =>
        simp only [flowStep, holds] at idle
        split at idle <;> cases idle
  have recogCh : state.stream.recogCh = [] := by
    have idle := stuck .recogReceive trivial
    cases waits : state.stream.recogCh with
    | nil => rfl
    | cons frame rest => simp [flowStep, posting, waits] at idle
  have grabber : state.stream.grabber = .selecting ∨ state.stream.grabber = .finished := by
    cases point : state.stream.grabber with
    | selecting => exact .inl rfl
    | finished => exact .inr rfl
    | sendingToRnn frame e => exact absurd point (notSending frame e)
    | unlocking frame => exact absurd point (notUnlocking frame)
    | sendingToRecog frame =>
        have idle := stuck .sendToRecog trivial
        simp [flowStep, FlowState.streams, pipelineStep, point, recogCh] at idle
  exact ⟨grabber, rnnCh, recogCh, posting, waiting, doing, workFinishCh, accepting⟩

/-- The lock and the channels of one cell never block the goroutines for ever: without
further ticks they come to rest, whatever the order of their steps and the choices of the
pool, and then each captured frame has been skipped or has had its result handled, once. -/
theorem recognition_flow_comes_to_rest [NeZero routines] (delivers : pool.Delivers queued)
    (size : Int) (positive : 1 ≤ size)
    (reached : Reachable (flowSystem size routines pool) anyStep state) :
    (∀ steps finish,
      CountedRun (flowSystem size routines pool) NoMoreFrames steps state finish →
      steps ≤ state.stepsLeft queued) ∧
    (Settled (flowSystem size routines pool) NoMoreFrames state →
      AtRest queued state ∧ ∀ number, 1 ≤ number → number ≤ state.stream.buffer.globalFrameIdx →
        framesIn number state.skipped + framesIn number state.accepted = 1) := by
  refine ⟨fun steps finish run => run.bounded (no_more_frames_lowers delivers) rfl,
    fun settled => ?_⟩
  have rest := settled_at_rest delivers settled
  refine ⟨rest, fun number low high => ?_⟩
  have place := (flows_reachable delivers positive reached).1.places number
  have idle : tally (framesHeld number) state.doing = 0 :=
    tally_zero_iff.mpr fun routine => by rw [rest.doing routine]; rfl
  have ahead : framesIn number state.stream.grabber.frames = 0 := by
    rcases rest.grabber with point | point <;> rw [point] <;> rfl
  simp only [FlowState.places, FlowState.inFlight, PipelineState.framesAhead, ahead,
    rest.recogCh, rest.posting, rest.waiting, idle, rest.workFinishCh, rest.accepting,
    if_pos (And.intro low high), frames_held_none, frames_in_nil] at place
  omega

/-- Both frames of two ticks have had their results handled, the second one first. -/
theorem recognition_flow_comes_to_rest_two_frames :
    ∃ state : FlowState Nat (List (GrabbedFrameDescriptor Nat)) 2,
      state.accepted.map GrabbedFrameDescriptor.frameIdx = [2, 1] ∧
      AtRest id state ∧ framesIn 1 state.skipped + framesIn 1 state.accepted = 1 := by
  have delivers := bounded_fifo_delivers (GrabbedFrameDescriptor Nat) 5
  obtain ⟨state, reached, ticks, accepted, nothingLeft⟩ : ∃ state,
      Reachable (flowSystem 7 2 (boundedFifo (GrabbedFrameDescriptor Nat) 5)) anyStep state ∧
      state.stream.buffer.globalFrameIdx = 2 ∧
      state.accepted.map GrabbedFrameDescriptor.frameIdx = [2, 1] ∧ state.stepsLeft id = 0 :=
    schedule_reaches [.tick 5, .sendToRnn, .unlock, .sendToRecog, .recogReceive, .postWork 0,
      .startWork 0 0, .rnnReceive, .tick 6, .sendToRnn, .unlock, .sendToRecog, .rnnReceive,
      .recogReceive, .postWork 0, .startWork 1 0, .doWork 1, .receiveResult, .doWork 0,
      .acceptResult, .receiveResult, .acceptResult] rfl (by decide)
  have settled : Settled (flowSystem 7 2 (boundedFifo (GrabbedFrameDescriptor Nat) 5))
      NoMoreFrames state := (no_more_frames_lowers delivers).settled nothingLeft
  obtain ⟨rest, once⟩ := (recognition_flow_comes_to_rest delivers 7 (by decide)
    reached).2 settled
  exact ⟨state, accepted, rest, once 1 (by decide) (by omega)⟩

end Schedulers.Pipeline
