import Schedulers.Support.TransitionSystem
import Schedulers.Support.DelayLine

/-!
# `CyclicalBuffer` of `go_bench.go`

The buffer between the grabber and the RNN. The grabber pushes each captured frame
over the oldest cell and takes that out; the acceptor of recognition results looks for
the frame and marks it where it is. Both do so under `lock`. Times are any type; its
default value stands for the zero value of `time.Time`. Frame numbers do not overflow.
-/

namespace Schedulers.Pipeline

open Schedulers.TransitionSystem

set_option autoImplicit false

structure GrabbedFrameDescriptor (Time : Type) where
  frameIdx : Int
  contents : List Int
  capturingtime : Time
  recogResult : Int
  deriving DecidableEq, Repr

structure CyclicalBuffer (Time : Type) where
  q : List (GrabbedFrameDescriptor Time)
  rdWrPtr : Int
  size : Int
  deriving DecidableEq, Repr

variable {Time : Type}

def GrabbedFrameDescriptor.zero [Inhabited Time] : GrabbedFrameDescriptor Time where
  frameIdx := 0
  contents := []
  capturingtime := default
  recogResult := 0

def CyclicalBuffer.make [Inhabited Time] (size : Int) : CyclicalBuffer Time where
  q := List.replicate size.toNat .zero
  rdWrPtr := 0
  size := size

/-- No result where the source panics: on an index out of range or a division by zero. -/
def CyclicalBuffer.pushBack (buffer : CyclicalBuffer Time) (frame : GrabbedFrameDescriptor Time) :
    Option (CyclicalBuffer Time × GrabbedFrameDescriptor Time) :=
  if 0 ≤ buffer.rdWrPtr then
    match buffer.q[buffer.rdWrPtr.toNat]? with
    | none => none
    | some oldestFrame =>
        if buffer.size = 0 then none
        else
          some ({ buffer with
            q := buffer.q.set buffer.rdWrPtr.toNat frame
            rdWrPtr := (buffer.rdWrPtr + 1).tmod buffer.size }, oldestFrame)
  else none

/-- The loop of `SearchByFrameIdx` from index `i` on, where these cells are left. -/
def searchFrom (frameIdx : Int) : Int → List (GrabbedFrameDescriptor Time) → Int
  | _, [] => -1
  | i, cell :: rest => if cell.frameIdx = frameIdx then i else searchFrom frameIdx (i + 1) rest

def CyclicalBuffer.searchByFrameIdx (buffer : CyclicalBuffer Time) (frameIdx : Int) : Int :=
  searchFrom frameIdx 0 (buffer.q.take buffer.size.toNat)

def GrabbedFrameDescriptor.recognised (frame : GrabbedFrameDescriptor Time) :
    GrabbedFrameDescriptor Time :=
  { frame with recogResult := 1 }

/-- What the acceptor does with a result while it holds the lock. -/
def CyclicalBuffer.acceptResult (buffer : CyclicalBuffer Time) (frameIdx : Int) :
    CyclicalBuffer Time :=
  let queuePosition := buffer.searchByFrameIdx frameIdx
  if queuePosition ≠ -1 then
    { buffer with
      q := buffer.q.modify queuePosition.toNat GrabbedFrameDescriptor.recognised }
  else buffer

inductive BufferStep (Time : Type) where
  | pushBack (frame : GrabbedFrameDescriptor Time)
  | handle (frameIdx : Int)
  deriving DecidableEq, Repr

/-- `steps` has what has been done under the lock, in that order, and `returned` what
the calls of `PushBack` have returned. -/
structure BufferState (Time : Type) where
  queue : CyclicalBuffer Time
  globalFrameIdx : Int
  steps : List (BufferStep Time)
  returned : List (GrabbedFrameDescriptor Time)

inductive BufferLabel (Time : Type) where
  | pushBack (contents : List Int) (capturingtime : Time)
  | handle (frameIdx : Int)
  deriving DecidableEq, Repr

def BufferState.nextFrame (state : BufferState Time) (contents : List Int)
    (capturingtime : Time) : GrabbedFrameDescriptor Time where
  frameIdx := state.globalFrameIdx + 1
  contents := contents
  capturingtime := capturingtime
  recogResult := 0

def BufferState.push (state : BufferState Time) (frame : GrabbedFrameDescriptor Time) :
    Option (BufferState Time × GrabbedFrameDescriptor Time) :=
  match state.queue.pushBack frame with
  | none => none
  | some (queue, oldest) =>
      some ({
        queue := queue
        globalFrameIdx := frame.frameIdx
        steps := state.steps ++ [.pushBack frame]
        returned := state.returned ++ [oldest] }, oldest)

def BufferState.handle (state : BufferState Time) (frameIdx : Int) : BufferState Time :=
  { state with
    queue := state.queue.acceptResult frameIdx
    steps := state.steps ++ [.handle frameIdx] }

/-- Results come for frames that have been pushed, in any order and any number of times. -/
def bufferStep : BufferLabel Time → BufferState Time → Option (BufferState Time)
  | .pushBack contents capturingtime, state =>
      (state.push (state.nextFrame contents capturingtime)).map Prod.fst
  | .handle frameIdx, state =>
      if 1 ≤ frameIdx ∧ frameIdx ≤ state.globalFrameIdx then some (state.handle frameIdx) else none

def BufferState.start [Inhabited Time] (size : Int) : BufferState Time where
  queue := .make size
  globalFrameIdx := 0
  steps := []
  returned := []

def bufferSystem (Time : Type) [Inhabited Time] (size : Int) :
    System (BufferState Time) (BufferLabel Time) where
  initial state := state = .start size
  step := bufferStep

def mark (frameIdx : Int) (frame : GrabbedFrameDescriptor Time) : GrabbedFrameDescriptor Time :=
  if frame.frameIdx = frameIdx then frame.recognised else frame

theorem mark_frame_idx (frameIdx : Int) (frame : GrabbedFrameDescriptor Time) :
    (mark frameIdx frame).frameIdx = frame.frameIdx := by
  unfold mark
  split_ifs <;> rfl

theorem mark_absent {frameIdx : Int} {cells : List (GrabbedFrameDescriptor Time)}
    (absent : frameIdx ∉ cells.map GrabbedFrameDescriptor.frameIdx) :
    cells.map (mark frameIdx) = cells := by
  induction cells with
  | nil => rfl
  | cons cell rest ih =>
      simp only [List.map_cons, List.mem_cons, not_or] at absent
      rw [List.map_cons, ih absent.2, mark, if_neg (Ne.symm absent.1)]

theorem search_absent {frameIdx : Int} {cells : List (GrabbedFrameDescriptor Time)}
    (absent : frameIdx ∉ cells.map GrabbedFrameDescriptor.frameIdx) (i : Int) :
    searchFrom frameIdx i cells = -1 := by
  induction cells generalizing i with
  | nil => rfl
  | cons cell rest ih =>
      simp only [List.map_cons, List.mem_cons, not_or] at absent
      rw [searchFrom, if_neg (Ne.symm absent.1)]
      exact ih absent.2 (i + 1)

theorem search_found {frameIdx : Int} {cells : List (GrabbedFrameDescriptor Time)}
    (there : frameIdx ∈ cells.map GrabbedFrameDescriptor.frameIdx) (i : Int) :
    searchFrom frameIdx i cells =
      i + ((cells.map GrabbedFrameDescriptor.frameIdx).idxOf frameIdx : Nat) := by
  induction cells generalizing i with
  | nil => simp at there
  | cons cell rest ih =>
      by_cases same : cell.frameIdx = frameIdx
      · simp [searchFrom, same]
      · have later := List.mem_of_ne_of_mem (Ne.symm same) there
        rw [searchFrom, if_neg same, ih later, List.map_cons, List.idxOf_cons_ne _ same]
        omega

theorem modify_marks {frameIdx : Int} {cells : List (GrabbedFrameDescriptor Time)}
    (there : frameIdx ∈ cells.map GrabbedFrameDescriptor.frameIdx)
    (once : (cells.map GrabbedFrameDescriptor.frameIdx).count frameIdx ≤ 1) :
    cells.modify ((cells.map GrabbedFrameDescriptor.frameIdx).idxOf frameIdx)
      GrabbedFrameDescriptor.recognised = cells.map (mark frameIdx) := by
  induction cells with
  | nil => simp at there
  | cons cell rest ih =>
      by_cases same : cell.frameIdx = frameIdx
      · rw [List.map_cons, same, List.count_cons_self] at once
        have absent : frameIdx ∉ rest.map GrabbedFrameDescriptor.frameIdx :=
          List.count_eq_zero.mp (by omega)
        simp [same, mark, mark_absent absent]
      · have later := List.mem_of_ne_of_mem (Ne.symm same) there
        rw [List.map_cons, List.count_cons_of_ne same] at once
        rw [List.map_cons, List.idxOf_cons_ne _ same, List.modify_succ_cons, ih later once]
        simp [mark, same]

/-- As long as no two cells have the frame, the acceptor marks it wherever it is. -/
theorem accept_result_marks {buffer : CyclicalBuffer Time} {frameIdx : Int}
    (sized : (buffer.q.length : Int) = buffer.size)
    (once : (buffer.q.map GrabbedFrameDescriptor.frameIdx).count frameIdx ≤ 1) :
    buffer.acceptResult frameIdx = { buffer with q := buffer.q.map (mark frameIdx) } := by
  have whole : buffer.q.take buffer.size.toNat = buffer.q :=
    List.take_of_length_le (by omega)
  unfold CyclicalBuffer.acceptResult CyclicalBuffer.searchByFrameIdx
  rw [whole]
  by_cases there : frameIdx ∈ buffer.q.map GrabbedFrameDescriptor.frameIdx
  · have position := search_found there 0
    rw [Int.zero_add] at position
    dsimp only
    rw [position, if_pos (by omega), Int.toNat_natCast, modify_marks there once]
  · dsimp only
    rw [search_absent there, if_neg (by simp), mark_absent there]

end Schedulers.Pipeline
