import Schedulers.Pipeline.CyclicalBufferModel

/-!
# The cyclic buffer is a delay line that carries the results

The cells from `rd_wr_ptr` on, around the ring, are a delay line: `PushBack` is a push
and the handling of a result marks a frame where it is. The frames in the buffer have
different numbers, so a result can only reach its own frame.
-/

namespace Schedulers.Pipeline

open Schedulers.TransitionSystem Schedulers.DelayLine

set_option autoImplicit false

variable {Time : Type}

def BufferStep.lineStep : BufferStep Time → LineStep (GrabbedFrameDescriptor Time)
  | .pushBack frame => .push frame
  | .handle frameIdx => .update (mark frameIdx)

def lineSteps (steps : List (BufferStep Time)) : List (LineStep (GrabbedFrameDescriptor Time)) :=
  steps.map BufferStep.lineStep

def pushedFrames (steps : List (BufferStep Time)) : List (GrabbedFrameDescriptor Time) :=
  pushed (lineSteps steps)

def CyclicalBuffer.line (buffer : CyclicalBuffer Time) : List (GrabbedFrameDescriptor Time) :=
  buffer.q.rotate buffer.rdWrPtr.toNat

/-- The numbers that the grabber gives to its first `count` frames. -/
def numbers (count : Nat) : List Int :=
  (List.range count).map fun position : Nat => (position : Int) + 1

/-- Of this buffer neither `PushBack` nor the search leaves the slice. -/
structure CyclicalBuffer.Ring (size : Int) (buffer : CyclicalBuffer Time) : Prop where
  sized : buffer.size = size
  cells : (buffer.q.length : Int) = size
  lower : 0 ≤ buffer.rdWrPtr
  upper : buffer.rdWrPtr < size

variable {size : Int} {buffer : CyclicalBuffer Time}

theorem push_back_pushes (ring : buffer.Ring size) (frame : GrabbedFrameDescriptor Time) :
    ∃ next oldest, buffer.pushBack frame = some (next, oldest) ∧ next.Ring size ∧
      next.line = buffer.line.tail ++ [frame] ∧ buffer.line.head? = some oldest := by
  obtain ⟨sized, cells, lower, upper⟩ := ring
  obtain ⟨pointer, place⟩ := Int.eq_ofNat_of_zero_le lower
  have inside : pointer < buffer.q.length := by omega
  have moved : (buffer.rdWrPtr + 1).tmod buffer.size =
      (((pointer + 1) % buffer.q.length : Nat) : Int) := by
    rw [place, sized, ← cells, Int.ofNat_tmod]
    rfl
  have below : (pointer + 1) % buffer.q.length < buffer.q.length :=
    Nat.mod_lt _ (Nat.zero_lt_of_lt inside)
  let next : CyclicalBuffer Time := { buffer with
    q := buffer.q.set pointer frame
    rdWrPtr := (((pointer + 1) % buffer.q.length : Nat) : Int) }
  refine ⟨next, buffer.q[pointer], ?_, ?_, ?_, ?_⟩
  · have divides : buffer.size ≠ 0 := by omega
    unfold CyclicalBuffer.pushBack
    rw [if_pos lower, moved, place, Int.toNat_natCast, List.getElem?_eq_getElem inside]
    dsimp only
    rw [if_neg divides]
  · constructor
    · exact sized
    · dsimp only [next]
      rw [List.length_set]
      exact cells
    · exact Int.natCast_nonneg _
    · dsimp only [next]
      omega
  · dsimp only [next, CyclicalBuffer.line]
    rw [Int.toNat_natCast, place, Int.toNat_natCast]
    exact ring_push inside frame
  · rw [CyclicalBuffer.line, place, Int.toNat_natCast, ring_oldest inside]
    exact List.getElem?_eq_getElem inside

theorem line_perm_cells (buffer : CyclicalBuffer Time) :
    (buffer.line.map GrabbedFrameDescriptor.frameIdx).Perm
      (buffer.q.map GrabbedFrameDescriptor.frameIdx) :=
  (List.rotate_perm _ _).map _

theorem accept_result_updates (ring : buffer.Ring size) {frameIdx : Int}
    (once : (buffer.line.map GrabbedFrameDescriptor.frameIdx).count frameIdx ≤ 1) :
    (buffer.acceptResult frameIdx).Ring size ∧
      (buffer.acceptResult frameIdx).line = buffer.line.map (mark frameIdx) := by
  have inCells : (buffer.q.map GrabbedFrameDescriptor.frameIdx).count frameIdx ≤ 1 := by
    rw [← (line_perm_cells buffer).count_eq]
    exact once
  rw [accept_result_marks (ring.cells.trans ring.sized.symm) inCells]
  constructor
  · constructor
    · exact ring.sized
    · dsimp only
      rw [List.length_map]
      exact ring.cells
    · exact ring.lower
    · exact ring.upper
  · exact (List.map_rotate _ _ _).symm

theorem accept_result_absent (ring : buffer.Ring size) {frameIdx : Int}
    (absent : frameIdx ∉ buffer.line.map GrabbedFrameDescriptor.frameIdx) :
    buffer.acceptResult frameIdx = buffer := by
  have notInCells : frameIdx ∉ buffer.q.map GrabbedFrameDescriptor.frameIdx := by
    rw [← (line_perm_cells buffer).mem_iff]
    exact absent
  have nowhere : (buffer.q.map GrabbedFrameDescriptor.frameIdx).count frameIdx ≤ 1 := by
    rw [List.count_eq_zero.mpr notInCells]
    exact Nat.zero_le 1
  rw [accept_result_marks (ring.cells.trans ring.sized.symm) nowhere, mark_absent notInCells]

theorem line_steps_append (steps : List (BufferStep Time)) (step : BufferStep Time) :
    lineSteps (steps ++ [step]) = lineSteps steps ++ [step.lineStep] := by
  simp [lineSteps]

theorem pushed_frames_push (steps : List (BufferStep Time)) (frame : GrabbedFrameDescriptor Time) :
    pushedFrames (steps ++ [.pushBack frame]) = pushedFrames steps ++ [frame] := by
  rw [pushedFrames, line_steps_append, pushed_append]
  rfl

theorem pushed_frames_handle (steps : List (BufferStep Time)) (frameIdx : Int) :
    pushedFrames (steps ++ [.handle frameIdx]) = pushedFrames steps := by
  rw [pushedFrames, line_steps_append, pushed_append]
  exact List.append_nil _

theorem numbers_succ (count : Nat) :
    numbers (count + 1) = numbers count ++ [(count : Int) + 1] := by
  simp [numbers, List.range_succ]

theorem mem_numbers {count : Nat} {number : Int} :
    number ∈ numbers count ↔ 1 ≤ number ∧ number ≤ count := by
  simp only [numbers, List.mem_map, List.mem_range]
  constructor
  · rintro ⟨position, bound, rfl⟩
    omega
  · intro ⟨lower, upper⟩
    exact ⟨(number - 1).toNat, by omega, by omega⟩

theorem numbers_nodup (count : Nat) : (numbers count).Nodup := by
  apply List.Nodup.map _ List.nodup_range
  intro first second same
  dsimp only at same
  omega

theorem marks_keep {View : Type} {view : GrabbedFrameDescriptor Time → View}
    (kept : ∀ frame : GrabbedFrameDescriptor Time, view frame.recognised = view frame)
    (steps : List (BufferStep Time)) : Unchanged view (lineSteps steps) := by
  intro change member frame
  obtain ⟨step, _, is⟩ := List.mem_map.mp member
  cases step with
  | pushBack pushedFrame => cases is
  | handle frameIdx =>
      cases is
      unfold mark
      split_ifs
      · exact kept frame
      · rfl

def BufferStep.isResultFor (frameIdx : Int) : BufferStep Time → Bool
  | .pushBack _ => false
  | .handle other => other == frameIdx

/-- A frame that has been in the buffer for these steps is marked if there was a result
for it among them. -/
theorem carried_result (steps : List (BufferStep Time)) (frame : GrabbedFrameDescriptor Time) :
    carried (lineSteps steps) frame =
      if steps.any (·.isResultFor frame.frameIdx) then frame.recognised else frame := by
  induction steps generalizing frame with
  | nil => rfl
  | cons step steps ih =>
      cases step with
      | pushBack other =>
          change carried (lineSteps steps) frame = _
          rw [ih]
          rfl
      | handle frameIdx =>
          change carried (lineSteps steps) (mark frameIdx frame) = _
          rw [ih, mark_frame_idx, List.any_cons]
          by_cases same : frame.frameIdx = frameIdx
          · simp [mark, same, BufferStep.isResultFor, GrabbedFrameDescriptor.recognised]
          · have other : frameIdx ≠ frame.frameIdx := fun equal => same equal.symm
            simp [mark, same, BufferStep.isResultFor, other]

variable [Inhabited Time]

abbrev zeros (Time : Type) [Inhabited Time] (size : Int) : List (GrabbedFrameDescriptor Time) :=
  List.replicate size.toNat .zero

structure FollowsLine (size : Int) (state : BufferState Time) : Prop where
  ring : state.queue.Ring size
  line : state.queue.line = run (zeros Time size) (lineSteps state.steps)
  returned : state.returned = outputs (zeros Time size) (lineSteps state.steps)
  counted : state.globalFrameIdx = (pushedFrames state.steps).length
  numbered : (pushedFrames state.steps).map GrabbedFrameDescriptor.frameIdx =
    numbers (pushedFrames state.steps).length
  fresh : ∀ frame ∈ pushedFrames state.steps, frame.recogResult = 0
  handled : ∀ frameIdx, .handle frameIdx ∈ state.steps → 1 ≤ frameIdx

variable {state : BufferState Time}

theorem zeros_filled (positive : 1 ≤ size) : 0 < (zeros Time size).length := by
  rw [List.length_replicate]
  omega

theorem zeros_split {position : Nat} (early : (position : Int) < size) :
    zeros Time size = List.replicate position .zero ++
      .zero :: List.replicate (size.toNat - position - 1) .zero := by
  have count : size.toNat = position + (size.toNat - position - 1 + 1) := by omega
  rw [← List.replicate_succ, List.replicate_append_replicate, ← count]

/-- The frames in the buffer are the last of the zero descriptors and the frames. -/
theorem line_numbers (positive : 1 ≤ size) (given : FollowsLine size state) :
    state.queue.line.map GrabbedFrameDescriptor.frameIdx =
      (List.replicate size.toNat 0 ++ numbers (pushedFrames state.steps).length).drop
        (pushedFrames state.steps).length := by
  rw [given.line, run_view (zeros_filled positive) _ (marks_keep (fun _ => rfl) state.steps)]
  change ((zeros Time size).map GrabbedFrameDescriptor.frameIdx ++
    (pushedFrames state.steps).map GrabbedFrameDescriptor.frameIdx).drop _ = _
  rw [given.numbered, List.map_replicate]
  rfl

theorem frame_once (positive : 1 ≤ size) (given : FollowsLine size state) {frameIdx : Int}
    (real : 1 ≤ frameIdx) :
    (state.queue.line.map GrabbedFrameDescriptor.frameIdx).count frameIdx ≤ 1 := by
  rw [line_numbers positive given]
  have all := (List.drop_sublist (pushedFrames state.steps).length
    (List.replicate size.toNat 0 ++ numbers (pushedFrames state.steps).length)).count_le frameIdx
  have notZero : (List.replicate size.toNat (0 : Int)).count frameIdx = 0 := by
    apply List.count_eq_zero.mpr
    intro member
    have zero := List.eq_of_mem_replicate member
    omega
  have single := List.nodup_iff_count_le_one.mp
    (numbers_nodup (pushedFrames state.steps).length) frameIdx
  rw [List.count_append, notZero] at all
  omega

theorem frame_gone (positive : 1 ≤ size) (given : FollowsLine size state) {frameIdx : Int}
    (real : 1 ≤ frameIdx) (old : frameIdx + size ≤ state.globalFrameIdx) :
    frameIdx ∉ state.queue.line.map GrabbedFrameDescriptor.frameIdx := by
  rw [line_numbers positive given]
  have counted := given.counted
  intro member
  obtain ⟨position, bound, is⟩ := List.mem_drop_iff_getElem.mp member
  rw [List.getElem_append_right (by rw [List.length_replicate]; omega)] at is
  simp only [numbers, List.getElem_map, List.getElem_range, List.length_replicate] at is
  omega

theorem follows_push (given : FollowsLine size state)
    {frame : GrabbedFrameDescriptor Time} (number : frame.frameIdx = state.globalFrameIdx + 1)
    (unrecognised : frame.recogResult = 0) :
    ∃ next oldest, state.push frame = some (next, oldest) ∧ FollowsLine size next ∧
      next.returned = state.returned ++ [oldest] ∧ next.globalFrameIdx = frame.frameIdx ∧
      next.steps = state.steps ++ [.pushBack frame] := by
  obtain ⟨queue, oldest, taken, ring, line, front⟩ := push_back_pushes given.ring frame
  have counted := given.counted
  have numbered := given.numbered
  refine ⟨_, oldest, by rw [BufferState.push, taken], ?_, rfl, rfl, rfl⟩
  constructor
  · exact ring
  · dsimp only
    rw [line, given.line, line_steps_append, run_append]
    rfl
  · dsimp only
    rw [line_steps_append, outputs_append, given.returned]
    congr 1
    change [oldest] = outputs _ [.push frame]
    rw [given.line] at front
    obtain ⟨rest, contents⟩ := List.head?_eq_some_iff.mp front
    rw [contents]
    rfl
  · dsimp only
    rw [pushed_frames_push, List.length_append, number, counted]
    simp
  · dsimp only
    rw [pushed_frames_push, List.map_append, List.length_append, List.length_singleton,
      numbers_succ, numbered, List.map_singleton, number, counted]
  · dsimp only
    rw [pushed_frames_push]
    intro other member
    rcases List.mem_append.mp member with earlier | last
    · exact given.fresh other earlier
    · rw [List.mem_singleton.mp last]
      exact unrecognised
  · intro frameIdx member
    rcases List.mem_append.mp member with earlier | last
    · exact given.handled frameIdx earlier
    · cases List.mem_singleton.mp last

theorem follows_handle (positive : 1 ≤ size) (given : FollowsLine size state) {frameIdx : Int}
    (real : 1 ≤ frameIdx) : FollowsLine size (state.handle frameIdx) := by
  obtain ⟨ring, line⟩ := accept_result_updates given.ring (frame_once positive given real)
  constructor
  · exact ring
  · dsimp only [BufferState.handle]
    rw [line, given.line, line_steps_append, run_append]
    rfl
  · dsimp only [BufferState.handle]
    rw [line_steps_append, outputs_append, given.returned]
    exact (List.append_nil _).symm
  · dsimp only [BufferState.handle]
    rw [pushed_frames_handle]
    exact given.counted
  · dsimp only [BufferState.handle]
    rw [pushed_frames_handle]
    exact given.numbered
  · dsimp only [BufferState.handle]
    rw [pushed_frames_handle]
    exact given.fresh
  · intro other member
    rcases List.mem_append.mp member with earlier | last
    · exact given.handled other earlier
    · cases List.mem_singleton.mp last
      exact real

theorem follows_at_start (positive : 1 ≤ size) :
    FollowsLine size (.start size : BufferState Time) := by
  constructor
  · constructor
    · rfl
    · change ((List.replicate size.toNat _).length : Int) = size
      rw [List.length_replicate]
      omega
    · exact Int.le_refl 0
    · change (0 : Int) < size
      omega
  · exact List.rotate_zero _
  · rfl
  · rfl
  · rfl
  · intro frame member
    cases member
  · intro frameIdx member
    cases member

theorem follows_step (positive : 1 ≤ size) {label : BufferLabel Time} {next : BufferState Time}
    (given : FollowsLine size state) (taken : bufferStep label state = some next) :
    FollowsLine size next := by
  cases label with
  | pushBack contents capturingtime =>
      obtain ⟨pushedState, oldest, pushes, follows, _⟩ :=
        @follows_push _ _ _ _ given (state.nextFrame contents capturingtime) rfl rfl
      simp only [bufferStep, pushes, Option.map_some, Option.some.injEq] at taken
      rw [← taken]
      exact follows
  | handle frameIdx =>
      simp only [bufferStep] at taken
      split_ifs at taken with real
      cases taken
      exact follows_handle positive given real.1

theorem follows_reachable (positive : 1 ≤ size)
    (reached : Reachable (bufferSystem Time size) anyStep state) : FollowsLine size state := by
  apply reached.keeps
  · intro start begins
    rw [begins]
    exact follows_at_start positive
  · intro label before after given _ taken
    exact follows_step positive given taken

theorem zero_output (given : FollowsLine size state) {before after : List (BufferStep Time)}
    {later : GrabbedFrameDescriptor Time}
    (history : state.steps = before ++ .pushBack later :: after)
    (early : ((pushedFrames before).length : Int) < size) :
    state.returned[(pushedFrames before).length]? = some .zero := by
  have unmarked : carried (lineSteps before) (.zero : GrabbedFrameDescriptor Time) = .zero := by
    rw [carried_result, if_neg]
    intro marked
    obtain ⟨step, member, isResult⟩ := List.any_eq_true.mp marked
    cases step with
    | pushBack frame => cases isResult
    | handle frameIdx =>
        have real := given.handled frameIdx (by rw [history]; simp [member])
        have zero : frameIdx = 0 := by
          simpa [BufferStep.isResultFor, GrabbedFrameDescriptor.zero] using isResult
        omega
  have place : (pushed (lineSteps before)).length =
      (List.replicate (pushedFrames before).length
        (.zero : GrabbedFrameDescriptor Time)).length := by
    rw [List.length_replicate]
    rfl
  have out := @initial_output _ (lineSteps before) (lineSteps after) later _
    (List.replicate (size.toNat - (pushedFrames before).length - 1) .zero) .zero place
  rw [unmarked, ← zeros_split early] at out
  have laterSteps : lineSteps state.steps =
      lineSteps before ++ .push later :: lineSteps after := by
    simp [history, lineSteps, BufferStep.lineStep]
  rw [given.returned, laterSteps]
  exact out

theorem frame_output (given : FollowsLine size state)
    {before between after : List (BufferStep Time)} {frame later : GrabbedFrameDescriptor Time}
    (history : state.steps = before ++ .pushBack frame :: (between ++ .pushBack later :: after))
    (distance : ((pushedFrames between).length : Int) + 1 = size) :
    state.returned[(pushedFrames before).length + size.toNat]? = some { frame with
      recogResult := if between.any (·.isResultFor frame.frameIdx) then 1 else 0 } := by
  have length : (zeros Time size).length = size.toNat := List.length_replicate
  have places : (pushed (lineSteps between)).length + 1 = (zeros Time size).length := by
    change (pushedFrames between).length + 1 = _
    omega
  have split : lineSteps state.steps = lineSteps before ++ .push frame ::
      (lineSteps between ++ .push later :: lineSteps after) := by
    simp [history, lineSteps, BufferStep.lineStep]
  have unrecognised : frame.recogResult = 0 := by
    apply given.fresh
    rw [pushedFrames, split, pushed_append]
    simp [pushed]
  have out := delayed_output (lineSteps before) (lineSteps between) (lineSteps after) frame later
    places
  rw [← split, ← given.returned, carried_result, length] at out
  refine out.trans (congrArg some ?_)
  split_ifs
  · rfl
  · rw [← unrecognised]

/-- Whatever results come and when, the pointer stays in the buffer, `PushBack` succeeds
and returns the zero descriptors first and then each frame exactly `size` calls after
its own, marked if a result for it was handled in between and otherwise as it was
pushed; and a result for a frame that has left the buffer changes nothing. -/
theorem cyclical_buffer_delays_frames (size : Int) (positive : 1 ≤ size)
    (state : BufferState Time) (reached : Reachable (bufferSystem Time size) anyStep state) :
    (0 ≤ state.queue.rdWrPtr ∧ state.queue.rdWrPtr < size) ∧
    (pushedFrames state.steps).map GrabbedFrameDescriptor.frameIdx =
      numbers state.returned.length ∧
    (∀ before later after, state.steps = before ++ .pushBack later :: after →
      ((pushedFrames before).length : Int) < size →
      state.returned[(pushedFrames before).length]? = some .zero) ∧
    (∀ before frame between later after,
      state.steps = before ++ .pushBack frame :: (between ++ .pushBack later :: after) →
      ((pushedFrames between).length : Int) + 1 = size →
      state.returned[(pushedFrames before).length + size.toNat]? = some { frame with
        recogResult := if between.any (·.isResultFor frame.frameIdx) then 1 else 0 }) ∧
    (∀ frameIdx next, frameIdx + size ≤ state.globalFrameIdx →
      (bufferSystem Time size).step (.handle frameIdx) state = some next →
      next.queue = state.queue) ∧
    ∀ contents capturingtime, ∃ next,
      (bufferSystem Time size).step (.pushBack contents capturingtime) state = some next := by
  have given := follows_reachable positive reached
  have filled : 0 < (zeros Time size).length := zeros_filled positive
  refine ⟨⟨given.ring.lower, given.ring.upper⟩, ?_, ?_, ?_, ?_, ?_⟩
  · rw [given.numbered, given.returned, outputs_length filled]
    rfl
  · intro before later after history early
    exact zero_output given history early
  · intro before frame between later after history distance
    exact frame_output given history distance
  · intro frameIdx next old taken
    simp only [bufferSystem, bufferStep] at taken
    split_ifs at taken with real
    cases taken
    exact accept_result_absent given.ring (frame_gone positive given real.1 old)
  · intro contents capturingtime
    obtain ⟨next, oldest, pushes, _⟩ :=
      @follows_push _ _ _ _ given (state.nextFrame contents capturingtime) rfl rfl
    exact ⟨next, by simp [bufferSystem, bufferStep, pushes]⟩

/-- Two cells and three frames; the first comes out with its result. -/
theorem cyclical_buffer_delays_frames_two_cells :
    ∃ state : BufferState Nat, (1 : Int) ≤ 2 ∧ state.returned[0]? = some .zero ∧
      state.returned[2]? = some
        { frameIdx := 1, contents := [], capturingtime := 5, recogResult := 1 } := by
  let frame (number : Int) (time : Nat) : GrabbedFrameDescriptor Nat :=
    { frameIdx := number, contents := [], capturingtime := time, recogResult := 0 }
  obtain ⟨state, reached, history⟩ : ∃ state,
      Reachable (bufferSystem Nat 2) anyStep state ∧
      state.steps = [.pushBack (frame 1 5), .handle 1, .pushBack (frame 2 6),
        .pushBack (frame 3 7)] :=
    schedule_reaches [.pushBack [] 5, .handle 1, .pushBack [] 6, .pushBack [] 7] rfl (by decide)
  obtain ⟨_, _, zero, delayed, _⟩ :=
    cyclical_buffer_delays_frames 2 (by decide) state reached
  exact ⟨state, by decide, zero [] _ _ history (by decide),
    delayed [] (frame 1 5) [.handle 1, .pushBack (frame 2 6)] (frame 3 7) [] history (by decide)⟩

end Schedulers.Pipeline
