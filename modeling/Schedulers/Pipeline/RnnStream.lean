import Schedulers.Pipeline.CyclicalBufferDelay

/-!
# What the RNN goroutine of `go_bench.go` gets to see

On each tick the grabber pushes its frame and sends on `rnn_ch` whatever `PushBack` has
put out, from the first tick on, while it holds `lock`. The first descriptors sent are
those that the buffer was made of; the captured frames follow, in order.

Channels are lists of at most one descriptor. Which results the worker pool delivers and
when is left open, except that they are for frames already pushed.
-/

namespace Schedulers.Pipeline

open Schedulers.TransitionSystem Schedulers.DelayLine

set_option autoImplicit false

/-- The statement the grabber executes next. It holds `lock` between `PushBack` and the
unlock. -/
inductive GrabberPoint (Time : Type) where
  | selecting
  | sendingToRnn (frame e : GrabbedFrameDescriptor Time)
  | unlocking (frame : GrabbedFrameDescriptor Time)
  | sendingToRecog (frame : GrabbedFrameDescriptor Time)
  | finished
  deriving DecidableEq, Repr

structure PipelineState (Time : Type) where
  buffer : BufferState Time
  grabber : GrabberPoint Time
  rnnCh : List (GrabbedFrameDescriptor Time)
  recogCh : List (GrabbedFrameDescriptor Time)
  sent : List (GrabbedFrameDescriptor Time)

inductive PipelineLabel (Time : Type) where
  | tick (capturingtime : Time)
  | sendToRnn
  | unlock
  | sendToRecog
  | quit
  | postWork
  | acceptResult (frameIdx : Int)
  | rnnReceive
  deriving DecidableEq, Repr

variable {Time : Type}

def GrabberPoint.holdsLock : GrabberPoint Time → Bool
  | .sendingToRnn _ _ => true
  | .unlocking _ => true
  | _ => false

def GrabberPoint.pending : GrabberPoint Time → List (GrabbedFrameDescriptor Time)
  | .sendingToRnn _ e => [e]
  | _ => []

def pipelineStep : PipelineLabel Time → PipelineState Time → Option (PipelineState Time)
  | .tick capturingtime, state =>
      match state.grabber with
      | .selecting =>
          let frame := state.buffer.nextFrame [] capturingtime
          match state.buffer.push frame with
          | none => none
          | some (buffer, e) =>
              some { state with buffer := buffer, grabber := .sendingToRnn frame e }
      | _ => none
  | .sendToRnn, state =>
      match state.grabber with
      | .sendingToRnn frame e =>
          if state.rnnCh.length < 1 then
            some { state with
              grabber := .unlocking frame
              rnnCh := state.rnnCh ++ [e]
              sent := state.sent ++ [e] }
          else none
      | _ => none
  | .unlock, state =>
      match state.grabber with
      | .unlocking frame => some { state with grabber := .sendingToRecog frame }
      | _ => none
  | .sendToRecog, state =>
      match state.grabber with
      | .sendingToRecog frame =>
          if state.recogCh.length < 1 then
            some { state with grabber := .selecting, recogCh := state.recogCh ++ [frame] }
          else none
      | _ => none
  | .quit, state =>
      match state.grabber with
      | .selecting => some { state with grabber := .finished }
      | _ => none
  | .postWork, state =>
      match state.recogCh with
      | _ :: rest => some { state with recogCh := rest }
      | [] => none
  | .acceptResult frameIdx, state =>
      if state.grabber.holdsLock then none
      else (bufferStep (.handle frameIdx) state.buffer).map fun buffer =>
        { state with buffer := buffer }
  | .rnnReceive, state =>
      match state.rnnCh with
      | _ :: rest => some { state with rnnCh := rest }
      | [] => none

def PipelineState.start [Inhabited Time] (size : Int) : PipelineState Time where
  buffer := .start size
  grabber := .selecting
  rnnCh := []
  recogCh := []
  sent := []

def pipelineSystem (Time : Type) [Inhabited Time] (size : Int) :
    System (PipelineState Time) (PipelineLabel Time) where
  initial state := state = .start size
  step := pipelineStep

/-- The descriptor as the grabber pushed it. -/
def GrabbedFrameDescriptor.captured (frame : GrabbedFrameDescriptor Time) :
    GrabbedFrameDescriptor Time :=
  { frame with recogResult := 0 }

abbrev PipelineState.capturedFrames (state : PipelineState Time) :
    List (GrabbedFrameDescriptor Time) :=
  pushedFrames state.buffer.steps

/-- What has been sent are captured frames in capture order, none left out and none
twice, each `size` ticks after its own. -/
structure SendsCapturedFrames (size : Int) (state : PipelineState Time) : Prop where
  inOrder : state.sent.map GrabbedFrameDescriptor.captured <+: state.capturedFrames
  delayed : ∀ position, position < state.sent.length →
    (position : Int) + 1 + size ≤ state.buffer.globalFrameIdx

/-- No tick has got beyond its send on `rnn_ch`. -/
def BeforeFirstSend (state : PipelineState Time) : Prop :=
  match state.grabber with
  | .sendingToRnn _ _ => state.buffer.globalFrameIdx ≤ 1
  | _ => state.buffer.globalFrameIdx = 0

variable [Inhabited Time] {size : Int} {state : PipelineState Time}

structure Streams (size : Int) (state : PipelineState Time) : Prop where
  follows : FollowsLine size state.buffer
  sent : state.buffer.returned = state.sent ++ state.grabber.pending

theorem streams_step (positive : 1 ≤ size) {label : PipelineLabel Time}
    {next : PipelineState Time} (given : Streams size state)
    (taken : pipelineStep label state = some next) : Streams size next := by
  have sent := given.sent
  cases label with
  | tick capturingtime =>
      cases point : state.grabber <;> simp only [pipelineStep, point, reduceCtorEq] at taken
      obtain ⟨buffer, e, pushes, follows, returned, _⟩ :=
        @follows_push _ _ _ _ given.follows (state.buffer.nextFrame [] capturingtime) rfl rfl
      simp only [pushes, Option.some.injEq] at taken
      subst taken
      refine ⟨follows, ?_⟩
      rw [returned, sent, point]
      simp [GrabberPoint.pending]
  | sendToRnn =>
      cases point : state.grabber <;> simp only [pipelineStep, point, reduceCtorEq] at taken
      split_ifs at taken
      cases taken
      refine ⟨given.follows, ?_⟩
      rw [sent, point]
      simp [GrabberPoint.pending]
  | unlock =>
      cases point : state.grabber <;> simp only [pipelineStep, point, reduceCtorEq] at taken
      cases taken
      rw [point] at sent
      exact ⟨given.follows, sent⟩
  | sendToRecog =>
      cases point : state.grabber <;> simp only [pipelineStep, point, reduceCtorEq] at taken
      split_ifs at taken
      cases taken
      rw [point] at sent
      exact ⟨given.follows, sent⟩
  | quit =>
      cases point : state.grabber <;> simp only [pipelineStep, point, reduceCtorEq] at taken
      cases taken
      rw [point] at sent
      exact ⟨given.follows, sent⟩
  | postWork =>
      cases queued : state.recogCh <;> simp only [pipelineStep, queued, reduceCtorEq] at taken
      cases taken
      exact ⟨given.follows, sent⟩
  | acceptResult frameIdx =>
      simp only [pipelineStep] at taken
      split_ifs at taken
      obtain ⟨buffer, handled, rfl⟩ := Option.map_eq_some_iff.mp taken
      refine ⟨follows_step positive given.follows handled, ?_⟩
      simp only [bufferStep] at handled
      split_ifs at handled
      cases handled
      exact sent
  | rnnReceive =>
      cases queued : state.rnnCh <;> simp only [pipelineStep, queued, reduceCtorEq] at taken
      cases taken
      exact ⟨given.follows, sent⟩

theorem streams_reachable (positive : 1 ≤ size)
    (reached : Reachable (pipelineSystem Time size) anyStep state) : Streams size state := by
  apply reached.keeps
  · intro start begins
    rw [begins]
    exact ⟨follows_at_start positive, rfl⟩
  · intro label before after given _ taken
    exact streams_step positive given taken

theorem ticks_counted (positive : 1 ≤ size) (given : Streams size state) :
    state.buffer.globalFrameIdx = (state.sent.length + state.grabber.pending.length : Nat) := by
  have returned := congrArg List.length given.follows.returned
  rw [outputs_length (zeros_filled positive), given.sent, List.length_append] at returned
  rw [given.follows.counted, pushedFrames, returned]

theorem before_first_send_iff (positive : 1 ≤ size) (given : Streams size state) :
    BeforeFirstSend state ↔ state.sent = [] := by
  have ticks := ticks_counted positive given
  unfold BeforeFirstSend
  rw [← List.length_eq_zero_iff]
  cases point : state.grabber <;> simp only [point, GrabberPoint.pending, List.length_nil,
    List.length_singleton] at ticks ⊢ <;> omega

theorem sent_captured (positive : 1 ≤ size) (given : Streams size state) :
    state.sent.map GrabbedFrameDescriptor.captured =
      (zeros Time size ++ state.capturedFrames).take state.sent.length := by
  have ticks := ticks_counted positive given
  have counted : state.buffer.globalFrameIdx = state.capturedFrames.length :=
    given.follows.counted
  have fresh : state.capturedFrames.map GrabbedFrameDescriptor.captured =
      state.capturedFrames := by
    conv_rhs => rw [← List.map_id state.capturedFrames]
    apply List.map_congr_left
    intro frame member
    have unrecognised := given.follows.fresh frame member
    rw [GrabbedFrameDescriptor.captured, ← unrecognised]
    rfl
  have all : state.buffer.returned.map GrabbedFrameDescriptor.captured =
      (zeros Time size ++ state.capturedFrames).take state.capturedFrames.length := by
    rw [given.follows.returned, outputs_view (zeros_filled positive) _
      (marks_keep (fun _ => rfl) state.buffer.steps)]
    change ((zeros Time size).map GrabbedFrameDescriptor.captured ++
      state.capturedFrames.map GrabbedFrameDescriptor.captured).take _ = _
    rw [fresh, List.map_replicate]
    rfl
  have bound : state.sent.length ≤ state.capturedFrames.length := by omega
  have first := congrArg (List.take state.sent.length) all
  rw [given.sent, List.map_append, List.take_take, Nat.min_eq_left bound] at first
  rw [← first, List.take_left' (List.length_map _)]

/-- Nothing but captured frames is sent only as long as nothing is sent at all: the first
descriptor that is sent was never captured. -/
theorem sends_captured_frames_iff (positive : 1 ≤ size) (given : Streams size state) :
    SendsCapturedFrames size state ↔ state.sent = [] := by
  constructor
  · intro captured
    by_contra sent
    obtain ⟨e, rest, contents⟩ := List.exists_cons_of_ne_nil sent
    have views := sent_captured positive given
    have inOrder := captured.inOrder
    have split := @zeros_split Time size _ 0 (by omega)
    rw [views, contents, split] at inOrder
    have member : (.zero : GrabbedFrameDescriptor Time) ∈ state.capturedFrames :=
      inOrder.subset (by simp)
    have number : (0 : Int) ∈ numbers state.capturedFrames.length := by
      rw [← given.follows.numbered]
      exact List.mem_map_of_mem member
    have real := (mem_numbers.mp number).1
    omega
  · intro nothing
    constructor
    · rw [nothing]
      exact List.nil_prefix
    · intro position bound
      simp [nothing] at bound

/-- In every reachable state: the descriptors sent on `rnn_ch` are captured frames in
capture order, `size` ticks late, if and only if no tick has got beyond its first send.
What is sent are `size` zero descriptors and then the captured frames in order. -/
theorem rnn_stream_captured_iff_before_first_send (size : Int) (positive : 1 ≤ size)
    (state : PipelineState Time)
    (reached : Reachable (pipelineSystem Time size) anyStep state) :
    (SendsCapturedFrames size state ↔ BeforeFirstSend state) ∧
    (state.sent.take size.toNat).map GrabbedFrameDescriptor.captured =
      (zeros Time size).take state.sent.length ∧
    (state.sent.drop size.toNat).map GrabbedFrameDescriptor.captured <+:
      state.capturedFrames := by
  have given := streams_reachable positive reached
  have views := sent_captured positive given
  have length : (zeros Time size).length = size.toNat := List.length_replicate
  refine ⟨?_, ?_, ?_⟩
  · rw [sends_captured_frames_iff positive given, before_first_send_iff positive given]
  · rw [List.map_take, views, List.take_take, Nat.min_comm, ← List.take_take, ← length,
      List.take_left]
  · rw [List.map_drop, views, List.drop_take, ← length, List.drop_left]
    exact List.take_prefix _ _

/-- `main` has seven cells; the first tick has sent one of them. -/
theorem rnn_stream_captured_iff_before_first_send_first_tick :
    ∃ state : PipelineState Nat, (1 : Int) ≤ 7 ∧ state.sent = [.zero] ∧
      ¬SendsCapturedFrames 7 state := by
  obtain ⟨state, reached, sent, ticks, unlocked⟩ : ∃ state,
      Reachable (pipelineSystem Nat 7) anyStep state ∧
      state.sent = [.zero] ∧ state.buffer.globalFrameIdx = 1 ∧
      state.grabber.holdsLock = false :=
    schedule_reaches [.tick 5, .sendToRnn, .unlock] rfl (by decide)
  have stream := (rnn_stream_captured_iff_before_first_send 7 (by decide) state reached).1
  refine ⟨state, by decide, sent, ?_⟩
  rw [stream, BeforeFirstSend]
  cases point : state.grabber <;> simp_all [GrabberPoint.holdsLock]

/-- The first tick of `main` sends a descriptor that was never captured. -/
theorem first_tick_sends_zero_descriptor :
    ¬∀ state : PipelineState Nat, Reachable (pipelineSystem Nat 7) anyStep state →
      SendsCapturedFrames 7 state := by
  intro always
  obtain ⟨state, reached, sent, captured⟩ : ∃ state,
      Reachable (pipelineSystem Nat 7) anyStep state ∧
      state.sent.map GrabbedFrameDescriptor.frameIdx = [0] ∧
      state.capturedFrames.map GrabbedFrameDescriptor.frameIdx = [1] :=
    schedule_reaches [.tick 5, .sendToRnn] rfl (by decide)
  have inOrder := (always state reached).inOrder.map GrabbedFrameDescriptor.frameIdx
  rw [List.map_map] at inOrder
  have same : GrabbedFrameDescriptor.frameIdx ∘ GrabbedFrameDescriptor.captured =
      (GrabbedFrameDescriptor.frameIdx : GrabbedFrameDescriptor Nat → Int) := rfl
  rw [same, sent, captured] at inOrder
  simp at inOrder

end Schedulers.Pipeline
