import Schedulers.TimeTriggered.Sch51Model

/-!
# What the operations of the scheduler do under interference

One specification for each operation, with `SCH_Update` allowed between any two
statements. They are stated for arbitrary conditions that do not look at the
slot the operation works on, so that every invariant of the table uses them and
none has to walk through the statements again.
-/

namespace Schedulers.TimeTriggered

open Schedulers.InterruptibleProgram

set_option autoImplicit false

variable {maxTasks : Nat} {Task : Type}

def errorEvent (errors : Bool) : SchEvent maxTasks Task → Prop
  | .errorSet _ => errors = true
  | _ => False

def dispatchEvent (index : Fin maxTasks) : SchEvent maxTasks Task → Prop
  | .called slot _ => slot = index
  | .returned slot => slot = index
  | .errorSet _ => True
  | _ => False

structure SlotChange (allowed : SchEvent maxTasks Task → Prop) (index : Fin maxTasks)
    (before after : SchMoment maxTasks Task) : Prop where
  others : ∀ other, other ≠ index → after.state.tasks other = before.state.tasks other
  observed : ∃ events : List (SchEvent maxTasks Task),
    after.history = before.history ++ events.map .event ∧ ∀ event ∈ events, allowed event

def IgnoresSlot (allowed : SchEvent maxTasks Task → Prop) (index : Fin maxTasks)
    (condition : SchMoment maxTasks Task → Prop) : Prop :=
  ∀ before after, SlotChange allowed index before after → condition before → condition after

def StaysIn {Value : Type} (allowed : SchEvent maxTasks Task → Prop) (index : Fin maxTasks)
    (program : SchProgram maxTasks Task Value) : Prop :=
  program.EveryStep fun effect events => ∀ moment : SchMoment maxTasks Task,
    SlotChange allowed index moment (moment.executed effect events)

theorem StaysIn.mono {Value : Type} {narrow wide : SchEvent maxTasks Task → Prop}
    {index : Fin maxTasks} {program : SchProgram maxTasks Task Value}
    (stays : StaysIn narrow index program) (wider : ∀ event, narrow event → wide event) :
    StaysIn wide index program := by
  induction program with
  | done value => trivial
  | fault => trivial
  | step effect events next ih =>
      refine ⟨fun moment => ⟨(stays.1 moment).others, ?_⟩, fun state => ih state (stays.2 state)⟩
      obtain ⟨observed, same, about⟩ := (stays.1 moment).observed
      exact ⟨observed, same, fun event member => wider event (about event member)⟩

theorem set_task_slot_change (allowed : SchEvent maxTasks Task → Prop) (index : Fin maxTasks)
    (assign : SchState maxTasks Task → STask Task) (moment : SchMoment maxTasks Task) :
    SlotChange allowed index moment
      (moment.executed (fun state => state.setTask index (assign state)) fun _ => []) where
  others _ different := SchState.set_task_other _ _ different
  observed := ⟨[], rfl, by simp⟩

theorem observe_slot_change (allowed : SchEvent maxTasks Task → Prop) (index : Fin maxTasks)
    (events : SchState maxTasks Task → List (SchEvent maxTasks Task))
    (moment : SchMoment maxTasks Task) (about : ∀ event ∈ events moment.state, allowed event) :
    SlotChange allowed index moment (moment.executed id events) where
  others _ _ := rfl
  observed := ⟨events moment.state, rfl, about⟩

theorem set_error_code_slot_change (index : Fin maxTasks) (code : TByte)
    (moment : SchMoment maxTasks Task) :
    SlotChange (errorEvent true) index moment
      (moment.executed (fun state => { state with errorCode := code })
        fun _ => [.errorSet code]) where
  others _ _ := rfl
  observed := ⟨[.errorSet code], rfl, by simp [errorEvent]⟩

@[simp] theorem read_task_fin {Value : Type} (index : Fin maxTasks) (field : STask Task → Value) :
    (readTask index.val field : SchProgram maxTasks Task Value) =
      .read fun state => field (state.tasks index) := by
  simp [readTask]

@[simp] theorem write_task_fin (index : Fin maxTasks) (assign : STask Task → STask Task) :
    (writeTask index.val assign : SchProgram maxTasks Task Unit) =
      .write (fun state => state.setTask index (assign (state.tasks index))) [] := by
  simp [writeTask]

theorem read_stays_in {Value : Type} (allowed : SchEvent maxTasks Task → Prop)
    (index : Fin maxTasks) (field : SchState maxTasks Task → Value) :
    StaysIn allowed index (.read field : SchProgram maxTasks Task Value) :=
  ⟨fun moment => observe_slot_change allowed index _ moment (by simp), fun _ => trivial⟩

theorem write_stays_in (allowed : SchEvent maxTasks Task → Prop) (index : Fin maxTasks)
    (assign : SchState maxTasks Task → STask Task) :
    StaysIn allowed index
      (.write (fun state => state.setTask index (assign state)) [] :
        SchProgram maxTasks Task Unit) :=
  ⟨set_task_slot_change allowed index assign, fun _ => trivial⟩

theorem delete_task_stays_in (index : Fin maxTasks) :
    StaysIn (errorEvent true) index (schDeleteTask index.val : SchProgram maxTasks Task TByte) := by
  simp only [schDeleteTask, read_task_fin, write_task_fin]
  apply Program.every_step_bind (read_stays_in _ index _)
  intro pTask
  apply Program.every_step_bind
  · split_ifs
    · exact ⟨set_error_code_slot_change index _, fun _ => trivial⟩
    · trivial
  · intro returnCode
    exact Program.every_step_bind (write_stays_in _ index _) fun _ =>
      Program.every_step_bind (write_stays_in _ index _) fun _ =>
        Program.every_step_bind (write_stays_in _ index _) fun _ =>
          Program.every_step_bind (write_stays_in _ index _) fun _ => trivial

theorem dispatch_task_stays_in (index : Fin maxTasks) :
    StaysIn (dispatchEvent index) index
      (dispatchTask (fun _ _ => .done ()) index : SchProgram maxTasks Task Unit) := by
  simp only [dispatchTask, read_task_fin, write_task_fin]
  apply Program.every_step_bind (read_stays_in _ index _)
  intro runMe
  split_ifs
  · apply Program.every_step_bind
    · constructor
      · exact fun moment => observe_slot_change _ index _ moment (by simp [dispatchEvent])
      · intro state
        dsimp only
        split
        · trivial
        · exact ⟨fun moment => observe_slot_change _ index _ moment (by simp [dispatchEvent]),
            fun _ => trivial⟩
    · intro _
      apply Program.every_step_bind (write_stays_in _ index _)
      intro _
      apply Program.every_step_bind (read_stays_in _ index _)
      intro period
      split_ifs
      · have deletes : StaysIn (dispatchEvent index) index
            (schDeleteTask index.val : SchProgram maxTasks Task TByte) := by
          apply (delete_task_stays_in index).mono
          intro event known
          cases event <;> trivial
        exact Program.every_step_bind deletes fun _ => trivial
      · trivial
  · trivial

section Specifications

variable {handler : Handler (SchState maxTasks Task)} {safe : SchMoment maxTasks Task → Prop}

/-- The only interrupt there is, if any, is the timer's. -/
def OnlyUpdates (handler : Handler (SchState maxTasks Task)) : Prop :=
  ∀ before after, handler before after → after = schUpdate before

theorem timer_only_updates : OnlyUpdates (timer : Handler (SchState maxTasks Task)) :=
  fun _ _ fires => fires

/-- The safety condition of an invariant that is read off at the end of a run only. -/
def anyMoment : SchMoment maxTasks Task → Prop := fun _ => True

/-- A fact about the content of one slot that the timer interrupt keeps. -/
structure SlotFact (handler : Handler (SchState maxTasks Task)) (index : Fin maxTasks) where
  holds : STask Task → Prop
  kept : ∀ before after, handler before after → holds (before.tasks index) →
    holds (after.tasks index)

def withSlot (frame : Assertion handler safe) {index : Fin maxTasks}
    (fact : SlotFact handler index) : Assertion handler safe where
  holds moment := frame.holds moment ∧ fact.holds (moment.state.tasks index)
  sound moment given := frame.sound moment given.1
  stable moment next given fires :=
    ⟨frame.stable moment next given.1 fires, fact.kept moment.state next fires given.2⟩

/-- A free slot is not touched by the timer, so any fact about one is kept. -/
def SlotFact.free (updates : OnlyUpdates handler) (index : Fin maxTasks)
    (fact : STask Task → Prop) : SlotFact handler index where
  holds task := task.pTask = none ∧ fact task
  kept before after fires given := by
    rw [updates before after fires, sch_update_tasks, update_task_free given.1]
    exact given

def SlotFact.occupied (updates : OnlyUpdates handler) (index : Fin maxTasks) :
    SlotFact handler index where
  holds task := task.pTask ≠ none
  kept before after fires given := by
    rw [updates before after fires, sch_update_tasks, update_task_p_task]
    exact given

theorem frame_triple {Value : Type} {allowed : SchEvent maxTasks Task → Prop}
    {index : Fin maxTasks} {program : SchProgram maxTasks Task Value}
    (stays : StaysIn allowed index program) (frame : Assertion handler safe)
    (ignores : IgnoresSlot allowed index frame.holds) :
    Triple handler safe frame.holds program fun _ => frame.holds := by
  refine triple_every_step frame ?_
  induction program with
  | done value => trivial
  | fault => trivial
  | step effect events next ih =>
      exact ⟨fun moment before => ignores _ _ (stays.1 moment) before,
        fun state => ih state (stays.2 state)⟩

theorem write_task_spec {allowed : SchEvent maxTasks Task → Prop} {index : Fin maxTasks}
    (frame : Assertion handler safe) (ignores : IgnoresSlot allowed index frame.holds)
    (before after : SlotFact handler index)
    (assign : STask Task → STask Task)
    (writes : ∀ task, before.holds task → after.holds (assign task)) :
    Triple handler safe (withSlot frame before).holds (writeTask index.val assign)
      fun _ => (withSlot frame after).holds := by
  rw [write_task_fin]
  refine triple_write (withSlot frame before) (withSlot frame after) fun moment given => ⟨?_, ?_⟩
  · exact ignores _ _ (set_task_slot_change _ index _ moment) given.1
  · simpa using writes _ given.2

theorem delete_test_spec {errors : Bool} {index : Fin maxTasks} (frame : Assertion handler safe)
    (ignores : IgnoresSlot (errorEvent errors) index frame.holds) (pTask : Option Task)
    (quiet : errors = false → pTask ≠ none) :
    Triple handler safe frame.holds
      (if pTask.isNone then do
          setErrorCode errorSchCannotDeleteTask
          return returnError
        else return returnNormal)
      fun _ => frame.holds := by
  have returns (code : TByte) :
      Triple handler safe frame.holds (.done code) fun _ => frame.holds :=
    triple_consequence (triple_done frame code) (fun _ given => given) fun _ _ given => given.2
  split_ifs with missing
  · have noTask : pTask = none := by simpa using missing
    cases errors with
    | false => exact absurd noTask (quiet rfl)
    | true =>
        refine triple_bind (fun _ => frame.holds) ?_ fun _ => returns returnError
        exact triple_write frame frame fun moment given =>
          ignores _ _ (set_error_code_slot_change index _ moment) given
  · exact returns returnNormal

/-- `SCH_Delete_Task` empties its slot and keeps what does not look at it. An
error code is set only when the slot may be free at the call. -/
theorem delete_task_spec (updates : OnlyUpdates handler) {errors : Bool} {index : Fin maxTasks}
    (frame : Assertion handler safe) (ignores : IgnoresSlot (errorEvent errors) index frame.holds)
    (entry : SlotFact handler index)
    (quiet : errors = false → ∀ task, entry.holds task → task.pTask ≠ none) :
    Triple handler safe (withSlot frame entry).holds (schDeleteTask index.val)
      fun _ moment => frame.holds moment ∧ moment.state.tasks index = .zero := by
  let free (fact : STask Task → Prop) := SlotFact.free updates index fact
  -- What the test read is remembered, so that the quiet case can be told apart.
  let tested (pTask : Option Task) : Assertion handler safe :=
    { holds := fun moment => frame.holds moment ∧ (errors = false → pTask ≠ none)
      sound := fun moment given => frame.sound moment given.1
      stable := fun moment next given fires => ⟨frame.stable moment next given.1 fires, given.2⟩ }
  have read : Triple handler safe (withSlot frame entry).holds (readTask index.val STask.pTask)
      fun pTask => (tested pTask).holds := by
    rw [read_task_fin]
    exact triple_read (withSlot frame entry) _ tested
      fun moment given => ⟨given.1, fun off => quiet off _ given.2⟩
  have test (pTask : Option Task) : Triple handler safe (tested pTask).holds
      (if pTask.isNone then do
          setErrorCode errorSchCannotDeleteTask
          return returnError
        else return returnNormal)
      fun _ => frame.holds := by
    intro moment given
    exact delete_test_spec frame ignores pTask given.2 moment given.1
  have clearTask : Triple handler safe frame.holds
      (writeTask index.val fun task => { task with pTask := none })
      fun _ => (withSlot frame (free fun _ => True)).holds := by
    rw [write_task_fin]
    refine triple_write frame (withSlot frame (free fun _ => True)) fun moment given => ⟨?_, ?_⟩
    · exact ignores _ _ (set_task_slot_change _ index _ moment) given
    · simp [free, SlotFact.free]
  have clearDelay := write_task_spec frame ignores (free fun _ => True)
    (free fun task => task.delay = 0) (fun task => { task with delay := 0 })
    fun _ given => ⟨given.1, rfl⟩
  have clearPeriod := write_task_spec frame ignores (free fun task => task.delay = 0)
    (free fun task => task.delay = 0 ∧ task.period = 0)
    (fun task => { task with period := 0 })
    fun _ given => ⟨given.1, given.2, rfl⟩
  have clearRunMe := write_task_spec frame ignores
    (free fun task => task.delay = 0 ∧ task.period = 0) (free fun task => task = .zero)
    (fun task => { task with runMe := 0 })
    fun task given => ⟨given.1, by
      obtain ⟨noTask, noDelay, noPeriod⟩ := given
      simp [STask.zero, noTask, noDelay, noPeriod]⟩
  refine triple_bind _ read fun pTask => triple_bind _ (test pTask) fun returnCode => ?_
  refine triple_bind _ clearTask fun _ => triple_bind _ clearDelay fun _ =>
    triple_bind _ clearPeriod fun _ => triple_bind _ clearRunMe fun _ => ?_
  exact triple_consequence (triple_done (withSlot frame (free fun task => task = .zero)) _)
    (fun _ given => given) fun _ _ given => ⟨given.2.1, given.2.2.2⟩

theorem delete_any_task_spec (updates : OnlyUpdates handler) {index : Fin maxTasks}
    (frame : Assertion handler safe) (ignores : IgnoresSlot (errorEvent true) index frame.holds) :
    Triple handler safe frame.holds (schDeleteTask index.val)
      fun _ moment => frame.holds moment ∧ moment.state.tasks index = .zero := by
  let anything : SlotFact handler index :=
    { holds := fun _ => True, kept := fun _ _ _ _ => trivial }
  have deletes := delete_task_spec updates frame ignores anything (by simp)
  apply triple_consequence deletes
  · exact fun _ given => ⟨given, trivial⟩
  · exact fun _ _ given => given

/-- The search ends in a free slot; a full table is a fault, not a result. -/
theorem find_gap_spec (updates : OnlyUpdates handler) (start : Assertion handler safe)
    (remaining index : Nat) (inside : index + remaining = maxTasks) :
    Triple handler safe start.holds (findGap remaining index) fun found moment =>
      ∃ slot : Fin maxTasks, found = slot.val ∧ start.holds moment ∧
        (moment.state.tasks slot).pTask = none := by
  induction remaining generalizing index with
  | zero =>
      have outside : ¬index < maxTasks := by omega
      simp only [findGap, readTask, dif_neg outside, Program.fault_bind]
      exact triple_fault start _
  | succ remaining ih =>
      have bound : index < maxTasks := by omega
      let slot : Fin maxTasks := ⟨index, bound⟩
      let found : Assertion handler safe :=
        withSlot start (SlotFact.free updates slot fun _ => True)
      let learned (pTask : Option Task) : Assertion handler safe := pTask.elim found fun _ => start
      refine triple_bind (fun pTask => (learned pTask).holds) ?_ fun pTask => ?_
      · change Triple handler safe start.holds (readTask slot.val STask.pTask) _
        rw [read_task_fin]
        refine triple_read start _ learned fun moment given => ?_
        cases content : (moment.state.tasks slot).pTask with
        | none => exact ⟨given, content, trivial⟩
        | some _ => exact given
      · cases pTask with
        | none =>
            simp only [Option.isSome_none, Bool.false_and, Bool.false_eq_true, if_false]
            exact triple_consequence (triple_done found index) (fun _ given => given)
              fun _ _ given => ⟨slot, given.1, given.2.1, given.2.2.1⟩
        | some _ =>
            simp only [Option.isSome_some, bound, decide_true, Bool.true_and, if_true]
            exact ih (index + 1) (by omega)

/-- `SCH_Add_Task` fills one free slot. `filling slot` is what may be assumed
while that slot is being written; `DelayKept` is a fact about the new `Delay`
that the interrupts taken before the last assignment keep. -/
theorem add_task_spec (updates : OnlyUpdates handler) (pFunction : Option Task)
    (delay period : Nat) (start : Assertion handler safe)
    (filling post : Fin maxTasks → Assertion handler safe)
    (ignores : ∀ slot, IgnoresSlot (errorEvent false) slot (filling slot).holds)
    (enter : ∀ slot moment, start.holds moment → (moment.state.tasks slot).pTask = none →
      (filling slot).holds moment)
    (DelayKept : Nat → Prop) (given : DelayKept delay)
    (kept : ∀ before after slot, handler before after → DelayKept (before.tasks slot).delay →
      DelayKept (after.tasks slot).delay)
    (finish : ∀ slot moment, (filling slot).holds moment →
      (moment.state.tasks slot).pTask = pFunction →
      (moment.state.tasks slot).period = period → DelayKept (moment.state.tasks slot).delay →
      (post slot).holds (moment.executed
        (fun state => state.setTask slot { state.tasks slot with runMe := 0 })
        fun _ => [.added slot pFunction delay period])) :
    Triple handler safe start.holds (schAddTask pFunction delay period) fun found moment =>
      ∃ slot : Fin maxTasks, found = slot.val ∧ (post slot).holds moment := by
  refine triple_bind _ (find_gap_spec updates start maxTasks 0 (by omega)) fun found => ?_
  rintro moment ⟨slot, rfl, before, free⟩
  have notFull : ¬slot.val = maxTasks := slot.isLt.ne
  rw [if_neg notFull]
  let named : SlotFact handler slot :=
    { holds := fun task => task.pTask = pFunction
      kept := fun before after fires holds => by
        rw [updates before after fires, sch_update_tasks, update_task_p_task]
        exact holds }
  let delayed : SlotFact handler slot :=
    { holds := fun task => task.pTask = pFunction ∧ DelayKept task.delay
      kept := fun before after fires holds =>
        ⟨named.kept before after fires holds.1, kept before after slot fires holds.2⟩ }
  let complete : SlotFact handler slot :=
    { holds := fun task => task.pTask = pFunction ∧ DelayKept task.delay ∧ task.period = period
      kept := fun before after fires holds =>
        ⟨named.kept before after fires holds.1, kept before after slot fires holds.2.1, by
          rw [updates before after fires, sch_update_tasks, update_task_period]
          exact holds.2.2⟩ }
  have writeName : Triple handler safe (filling slot).holds
      (writeTask slot.val fun task => { task with pTask := pFunction })
      fun _ => (withSlot (filling slot) named).holds := by
    rw [write_task_fin]
    refine triple_write (filling slot) (withSlot (filling slot) named) fun moment holds => ⟨?_, ?_⟩
    · exact ignores slot _ _ (set_task_slot_change _ slot _ moment) holds
    · simp [named]
  have writeDelay := write_task_spec (filling slot) (ignores slot) named delayed
    (fun task => { task with delay := delay }) fun _ holds => ⟨holds, given⟩
  have writePeriod := write_task_spec (filling slot) (ignores slot) delayed complete
    (fun task => { task with period := period }) fun _ holds => ⟨holds.1, holds.2, rfl⟩
  have writeRunMe : Triple handler safe (withSlot (filling slot) complete).holds
      (finishAdd slot.val pFunction delay period) fun _ => (post slot).holds := by
    simp only [finishAdd, dif_pos slot.isLt]
    exact triple_write (withSlot (filling slot) complete) (post slot) fun moment holds =>
      finish slot moment holds.1 holds.2.1 holds.2.2.2 holds.2.2.1
  refine triple_bind _ writeName (fun _ => triple_bind _ writeDelay fun _ =>
    triple_bind _ writePeriod fun _ => triple_bind _ writeRunMe fun _ => ?_)
    moment (enter slot moment before free)
  exact triple_consequence (triple_done (post slot) slot.val) (fun _ holds => holds)
    fun _ _ holds => ⟨slot, holds.1, holds.2⟩

/-- One round of the dispatcher's loop, from the conditions that hold at its
points: `ready` before the call, `wrong` after a call through a null pointer,
`running` while the body runs, `ending` after it returned, `counted` after
`RunMe -= 1`, `single` before the deletion. -/
theorem dispatch_task_call_spec (index : Fin maxTasks)
    (body : Fin maxTasks → Task → SchProgram maxTasks Task Unit)
    (idle ready wrong running ending counted single : Assertion handler safe)
    (due : ∀ moment, idle.holds moment → (moment.state.tasks index).runMe ≠ 0 →
      ready.holds moment)
    (null : ∀ moment, ready.holds moment → (moment.state.tasks index).pTask = none →
      wrong.holds (moment.executed id fun state => [.called index (state.tasks index).pTask]))
    (call : ∀ moment, ready.holds moment → (moment.state.tasks index).pTask ≠ none →
      running.holds (moment.executed id fun state => [.called index (state.tasks index).pTask]))
    (runs : ∀ task, Triple handler safe running.holds (body index task) fun _ => running.holds)
    (back : ∀ moment, running.holds moment → ending.holds
      (moment.executed id fun _ => [.returned index]))
    (count : ∀ moment, ending.holds moment → counted.holds (moment.executed
      (fun state => state.setTask index
        { state.tasks index with runMe := (state.tasks index).runMe - 1 }) fun _ => []))
    (periodic : ∀ moment, counted.holds moment → (moment.state.tasks index).period ≠ 0 →
      idle.holds moment)
    (oneShot : ∀ moment, counted.holds moment → (moment.state.tasks index).period = 0 →
      single.holds moment)
    (removes : Triple handler safe single.holds (schDeleteTask index.val) fun _ => idle.holds) :
    Triple handler safe idle.holds (dispatchTask body index) fun _ => idle.holds := by
  have skip : Triple handler safe idle.holds (.done ()) fun _ => idle.holds :=
    triple_consequence (triple_done idle ()) (fun _ given => given) fun _ _ given => given.2
  simp only [dispatchTask, read_task_fin, write_task_fin]
  refine triple_bind (fun runMe => if runMe = 0 then idle.holds else ready.holds) ?_ fun runMe => ?_
  · refine triple_consequence (triple_read idle _ (fun runMe => if runMe = 0 then idle else ready)
      fun moment given => ?_) (fun _ given => given) fun runMe moment given => ?_
    · split_ifs with zero
      · exact given
      · exact due moment given zero
    · split_ifs at given ⊢ <;> exact given
  by_cases zero : runMe = 0
  · subst zero
    simpa using skip
  rw [if_neg zero, if_pos (UInt8.pos_iff_ne_zero.mpr zero)]
  refine triple_bind (fun _ => ending.holds) ?_ fun _ => ?_
  · refine triple_step ready fun moment given => ?_
    split
    · next missing => exact triple_fault wrong _ _ (null moment given missing)
    · next task pointer =>
        have entered := call moment given (by simp [pointer])
        exact triple_bind _ (runs task) (fun _ => triple_write running ending back) _ entered
  refine triple_bind (fun _ => counted.holds) (triple_write ending counted count) fun _ => ?_
  refine triple_bind (fun period => if period = 0 then single.holds else idle.holds) ?_
    fun period => ?_
  · refine triple_consequence (triple_read counted _
      (fun period => if period = 0 then single else idle)
      fun moment given => ?_) (fun _ given => given) fun period moment given => ?_
    · split_ifs with zero
      · exact oneShot moment given zero
      · exact periodic moment given zero
    · split_ifs at given ⊢ <;> exact given
  by_cases none : period = 0
  · rw [if_pos none, if_pos none]
    exact triple_bind _ removes fun _ => skip
  · rw [if_neg none, if_neg none]
    exact skip

theorem dispatch_task_spec (index : Fin maxTasks)
    (body : Fin maxTasks → Task → SchProgram maxTasks Task Unit)
    (idle ready running ending counted single : Assertion handler safe)
    (due : ∀ moment, idle.holds moment → (moment.state.tasks index).runMe ≠ 0 →
      ready.holds moment)
    (call : ∀ moment, ready.holds moment → running.holds
      (moment.executed id fun state => [.called index (state.tasks index).pTask]))
    (runs : ∀ task, Triple handler safe running.holds (body index task) fun _ => running.holds)
    (back : ∀ moment, running.holds moment → ending.holds
      (moment.executed id fun _ => [.returned index]))
    (count : ∀ moment, ending.holds moment → counted.holds (moment.executed
      (fun state => state.setTask index
        { state.tasks index with runMe := (state.tasks index).runMe - 1 }) fun _ => []))
    (periodic : ∀ moment, counted.holds moment → (moment.state.tasks index).period ≠ 0 →
      idle.holds moment)
    (oneShot : ∀ moment, counted.holds moment → (moment.state.tasks index).period = 0 →
      single.holds moment)
    (removes : Triple handler safe single.holds (schDeleteTask index.val) fun _ => idle.holds) :
    Triple handler safe idle.holds (dispatchTask body index) fun _ => idle.holds :=
  dispatch_task_call_spec index body idle ready running running ending counted single due
    (fun moment given _ => call moment given) (fun moment given _ => call moment given) runs back
    count periodic oneShot removes

end Specifications

theorem find_gap_run (remaining index : Nat) (inside : index + remaining = maxTasks)
    (start final : SchMoment maxTasks Task) (found : Nat)
    (finished : (findGap remaining index).run start = some (found, final)) :
    final = start ∧ ∃ slot : Fin maxTasks, found = slot.val ∧
      (start.state.tasks slot).pTask = none ∧
      ∀ other : Fin maxTasks, index ≤ other.val → other.val < slot.val →
        (start.state.tasks other).pTask ≠ none := by
  induction remaining generalizing index with
  | zero =>
      have outside : ¬index < maxTasks := by omega
      simp [findGap, readTask, outside, Program.run] at finished
  | succ remaining ih =>
      have bound : index < maxTasks := by omega
      simp only [findGap, readTask, bound, dif_pos, Program.read, Program.step_bind,
        Program.done_bind, Program.run, Moment.executed_unread, decide_true,
        Bool.and_true] at finished
      cases content : (start.state.tasks ⟨index, bound⟩).pTask with
      | none =>
          simp only [content, Option.isSome_none, Bool.false_eq_true, if_false,
            Program.pure_eq_done, Program.run, Option.some.injEq, Prod.mk.injEq] at finished
          obtain ⟨rfl, rfl⟩ := finished
          exact ⟨rfl, ⟨index, bound⟩, rfl, content,
            fun other lower upper => absurd lower (Nat.not_le.mpr upper)⟩
      | some task =>
          simp only [content, Option.isSome_some, if_true] at finished
          obtain ⟨unchanged, slot, named, free, earlier⟩ := ih (index + 1) (by omega) finished
          refine ⟨unchanged, slot, named, free, fun other lower upper => ?_⟩
          by_cases first : other.val = index
          · have here : other = ⟨index, bound⟩ := Fin.ext first
            rw [here, content]
            simp
          · exact earlier other (by omega) upper

theorem add_task_run (pFunction : Option Task) (delay period : Nat)
    (start final : SchMoment maxTasks Task) (found : Nat)
    (finished : (schAddTask pFunction delay period).run start = some (found, final)) :
    ∃ slot : Fin maxTasks, found = slot.val ∧ (start.state.tasks slot).pTask = none ∧
      (∀ other : Fin maxTasks, other.val < slot.val → (start.state.tasks other).pTask ≠ none) ∧
      final = ⟨start.history ++ [.event (.added slot pFunction delay period)],
        start.state.setTask slot ⟨pFunction, delay, period, 0⟩⟩ := by
  rw [schAddTask, Program.run_bind, Option.bind_eq_some_iff] at finished
  obtain ⟨⟨index, searched⟩, search, finished⟩ := finished
  obtain ⟨rfl, slot, rfl, free, earlier⟩ := find_gap_run maxTasks 0 (by omega) _ _ _ search
  have notFull : ¬slot.val = maxTasks := slot.isLt.ne
  simp only [notFull, if_false, write_task_fin, finishAdd, slot.isLt, dif_pos, Program.write,
    Program.step_bind, Program.done_bind, Program.pure_eq_done, Program.run,
    Option.some.injEq, Prod.mk.injEq] at finished
  obtain ⟨rfl, rfl⟩ := finished
  refine ⟨slot, rfl, free, fun other => earlier other (Nat.zero_le _), ?_⟩
  simp [Moment.executed]

theorem delete_task_run_occupied (index : Fin maxTasks) (start : SchMoment maxTasks Task)
    (occupied : (start.state.tasks index).pTask ≠ none) :
    (schDeleteTask index.val).run start =
      some (returnNormal, ⟨start.history, start.state.setTask index .zero⟩) := by
  have present : ¬(start.state.tasks index).pTask.isNone = true := by simpa using occupied
  simp only [schDeleteTask, read_task_fin, write_task_fin, Program.read, Program.write,
    Program.step_bind, Program.done_bind, Program.pure_eq_done, Program.run, if_neg present,
    Moment.executed, SchState.set_task_same, SchState.set_task_twice, List.map_nil,
    List.append_nil]
  rfl

theorem delete_task_run_free (index : Fin maxTasks) (start : SchMoment maxTasks Task)
    (free : (start.state.tasks index).pTask = none) :
    (schDeleteTask index.val).run start =
      some (returnError, ⟨start.history ++ [.event (.errorSet errorSchCannotDeleteTask)],
        { start.state.setTask index .zero with errorCode := errorSchCannotDeleteTask }⟩) := by
  have missing : (start.state.tasks index).pTask.isNone = true := by simpa using free
  simp only [schDeleteTask, read_task_fin, write_task_fin, setErrorCode, Program.read,
    Program.write, Program.step_bind, Program.done_bind, Program.pure_eq_done, Program.run,
    if_pos missing, Moment.executed, List.map_nil, List.map_cons, List.append_nil,
    SchState.setTask, Function.update_idem, Function.update_self]
  rfl

theorem sch_init_t2_run (start final : SchMoment maxTasks Task)
    (finished : schInitT2.run start = some ((), final)) : final.state = .initial := by
  have cleared (indices : List (Fin maxTasks)) (start : SchMoment maxTasks Task) :
      ∃ after : SchMoment maxTasks Task,
        (Program.forEach indices fun index => do
          let _ ← schDeleteTask index.val
          return ()).run start = some ((), after) ∧
        ∀ index, after.state.tasks index =
          if index ∈ indices then .zero else start.state.tasks index := by
    induction indices generalizing start with
    | nil => exact ⟨start, rfl, fun index => by simp⟩
    | cons head indices ih =>
        obtain ⟨code, next, deletes, emptied⟩ : ∃ code next,
            (schDeleteTask head.val).run start = some (code, next) ∧
            next.state.tasks = (start.state.setTask head .zero).tasks := by
          by_cases free : (start.state.tasks head).pTask = none
          · exact ⟨_, _, delete_task_run_free head start free, rfl⟩
          · exact ⟨_, _, delete_task_run_occupied head start free, rfl⟩
        obtain ⟨after, rest, content⟩ := ih next
        refine ⟨after, ?_, fun index => ?_⟩
        · rw [Program.forEach, Program.run_bind, Program.run_bind, deletes]
          exact rest
        · rw [content index, emptied]
          by_cases same : index = head
          · subst same
            simp
          · simp [same, SchState.set_task_other _ _ same]
  obtain ⟨after, deletes, content⟩ := cleared (List.finRange maxTasks) start
  simp only [schInitT2, Program.run_bind, deletes, Option.bind_some, setErrorCode, Program.write,
    Program.run, Option.some.injEq, Prod.mk.injEq, true_and] at finished
  rw [← finished]
  have tasks : after.state.tasks = fun _ => .zero := by
    funext index
    rw [content index, if_pos (List.mem_finRange index)]
  simp [Moment.executed, SchState.initial, tasks]

end Schedulers.TimeTriggered
