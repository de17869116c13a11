import Schedulers.Support.BroadcastMonitor
import Schedulers.Support.CodeMonitors

/-!
# Mutexes locked by hand

Code that takes its mutex, copies an element, which may throw, and gives the mutex back
at each end of its own. Where the copy succeeds a section does what the monitor without
exceptions does. Where it throws, the data are as before and the mutex stays locked, and
from then on no thread enters a section any more.
-/

namespace Schedulers.HandLockedMonitors

open Schedulers.TransitionSystem Schedulers.LockedCode Schedulers.CodeMonitors
open Schedulers.BroadcastMonitor (Section Monitor)

set_option autoImplicit false

variable {Thread Shared Call Frame Condition Exception Result : Type}

/-- The end of a section in which no copy throws. -/
def sectionOutcome (memory : Memory Shared Condition) :
    Section Shared Frame Condition Result → SectionOutcome Shared Frame Condition Exception Result
  | .wait shared condition frame => .ok (.wait condition frame) { memory with shared := shared }
  | .leave shared result broadcasts =>
      .ok (.leave result (broadcasts.map .all))
        { memory with shared := shared, copies := memory.copies.tail }

/-- A section that has to wait copies nothing; the others copy one element. -/
structure ByHand (failure : Exception) (waits : Prop)
    (done : Section Shared Frame Condition Result) (memory : Memory Shared Condition)
    (outcome : SectionOutcome Shared Frame Condition Exception Result) : Prop where
  held : memory.locked = true → outcome = .error .stuck memory
  succeeds : memory.locked = false → waits ∨ nextThrows memory.copies = false →
    outcome = sectionOutcome memory done
  throws : memory.locked = false → ¬(waits ∨ nextThrows memory.copies = false) →
    outcome = .error (.thrown failure) { memory with locked := true, copies := memory.copies.tail }

structure WaitTest (Shared Call Frame : Type) where
  call : Call → Shared → Prop
  frame : Frame → Shared → Prop

structure LockedByHand (code : CodeMonitor Shared Call Frame Condition Exception Result)
    (plain : Monitor Shared Call Frame Condition Result) (waits : WaitTest Shared Call Frame)
    (failure : Exception) : Prop where
  enter : ∀ call memory, ByHand failure (waits.call call memory.shared)
    (plain.enter call memory.shared) memory ((code.enter call).run memory)
  resume : ∀ frame memory, ByHand failure (waits.frame frame memory.shared)
    (plain.resume frame memory.shared) memory ((code.resume frame).run memory)

def copiesSucceed (waits : WaitTest Shared Call Frame) :
    Permission (MonitorState Thread Shared Frame Condition Exception Result)
      (MonitorLabel Thread Call)
  | .enter _ call copies _, state => waits.call call state.shared ∨ nextThrows copies = false
  | .resume thread copies _, state => ∀ frame, state.thread thread = .woken frame →
      waits.frame frame state.shared ∨ nextThrows copies = false
  | _, _ => True

section Sections

variable {failure : Exception} {waits : Prop} {done : Section Shared Frame Condition Result}
  {memory : Memory Shared Condition}
  {outcome : SectionOutcome Shared Frame Condition Exception Result}

theorem byHand_lock {body : Code Shared Condition Exception (Exit Frame Condition Result)}
    (succeeds : memory.locked = false → waits ∨ nextThrows memory.copies = false →
      body.run { memory with locked := true } = sectionOutcome memory done)
    (throws : memory.locked = false → ¬waits → nextThrows memory.copies = true →
      body.run { memory with locked := true } =
        .error (.thrown failure) { memory with locked := true, copies := memory.copies.tail }) :
    ByHand failure waits done memory ((lock >>= fun _ => body).run memory) where
  held held := by
    rw [EStateM.run_bind, run_lock_held memory held]
  succeeds free copied := by
    rw [EStateM.run_bind, run_lock memory free]
    exact succeeds free copied
  throws free failed := by
    rw [EStateM.run_bind, run_lock memory free]
    have reached : ¬waits ∧ nextThrows memory.copies = true := by simpa using failed
    exact throws free reached.1 reached.2

theorem section_outcome_memory :
    (memoryAfter (sectionOutcome memory done :
      SectionOutcome Shared Frame Condition Exception Result)).locked = memory.locked := by
  cases done <;> rfl

theorem section_outcome_log (thread other : Thread) (exception : Exception) :
    endedWith thread (sectionOutcome memory done) ≠ [(other, .error exception)] := by
  cases done <;> simp [sectionOutcome, endedWith]

theorem byHand_free_iff (byHand : ByHand failure waits done memory outcome)
    (free : memory.locked = false) :
    (memoryAfter outcome).locked = false ↔ waits ∨ nextThrows memory.copies = false := by
  by_cases succeeds : waits ∨ nextThrows memory.copies = false
  · rw [byHand.succeeds free succeeds, section_outcome_memory]
    exact iff_of_true free succeeds
  · rw [byHand.throws free succeeds]
    simp [memoryAfter, succeeds]

theorem byHand_throws_iff (byHand : ByHand failure waits done memory outcome)
    (free : memory.locked = false) (thread : Thread) :
    (∃ other exception, endedWith thread outcome = [(other, .error exception)]) ↔
      ¬(waits ∨ nextThrows memory.copies = false) := by
  by_cases succeeds : waits ∨ nextThrows memory.copies = false
  · rw [byHand.succeeds free succeeds]
    simp [section_outcome_log, succeeds]
  · rw [byHand.throws free succeeds]
    simp [endedWith, succeeds]

theorem byHand_unchanged (byHand : ByHand failure waits done memory outcome)
    (free : memory.locked = false) (throws : ¬(waits ∨ nextThrows memory.copies = false)) :
    (memoryAfter outcome).shared = memory.shared := by
  rw [byHand.throws free throws, memoryAfter]

end Sections

section Runs

variable [DecidableEq Thread] [DecidableEq Condition]
  {code : CodeMonitor Shared Call Frame Condition Exception Result}
  {plain : Monitor Shared Call Frame Condition Result} {waits : WaitTest Shared Call Frame}
  {failure : Exception}
  {state next : MonitorState Thread Shared Frame Condition Exception Result}
  {label : MonitorLabel Thread Call}

/-- The mutex is free, and each thread that is outside or woken can enter its section. -/
structure Usable (code : CodeMonitor Shared Call Frame Condition Exception Result)
    (state : MonitorState Thread Shared Frame Condition Exception Result) : Prop where
  free : state.locked = false
  enter : ∀ thread call copies picks, state.thread thread = .outside →
    (code.step (.enter thread call copies picks) state).isSome = true
  resume : ∀ thread frame copies picks, state.thread thread = .woken frame →
    (code.step (.resume thread copies picks) state).isSome = true

theorem usable_iff_free : Usable code state ↔ state.locked = false := by
  constructor
  · intro usable
    exact usable.free
  · intro free
    refine ⟨free, ?_, ?_⟩
    · intro thread call copies picks outside
      simp [CodeMonitor.step, outside, takeSection, free]
    · intro thread frame copies picks woken
      simp [CodeMonitor.step, woken, takeSection, free]

theorem held_step (byHand : LockedByHand code plain waits failure) (held : state.locked = true)
    (taken : code.step label state = some next) :
    next.locked = true ∧ next.shared = state.shared ∧ copiesSucceed waits label state ∧
      next.log = state.log := by
  rcases step_cases taken with ⟨thread, call, copies, picks, _, _, entered⟩ |
    ⟨thread, frame, copies, picks, _, _, resumed⟩ | ⟨thread, signal, rest, picks, rfl, _, rfl⟩ |
    ⟨thread, condition, frame, rfl, _, rfl⟩
  · have stuck := (byHand.enter call (state.memory copies)).held held
    have free := (takeSection_eq_some.mp entered).1 (by rw [stuck, isStuck])
    exact absurd (held.symm.trans free) (by decide)
  · have stuck := (byHand.resume frame (state.memory copies)).held held
    have free := (takeSection_eq_some.mp resumed).1 (by rw [stuck, isStuck])
    exact absurd (held.symm.trans free) (by decide)
  · exact ⟨held, rfl, trivial, rfl⟩
  · exact ⟨held, rfl, trivial, rfl⟩

theorem free_before (byHand : LockedByHand code plain waits failure) (free : next.locked = false)
    (taken : code.step label state = some next) : state.locked = false := by
  by_contra held
  have stays := held_step byHand (by simpa using held) taken
  exact absurd (free.symm.trans stays.1) (by decide)

theorem held_run (byHand : LockedByHand code plain waits failure) {shared : Shared}
    (held : state.locked = true) (run : Run (code.system shared) anyStep state next) :
    next.locked = true ∧ next.shared = state.shared := by
  induction run with
  | refl => exact ⟨held, rfl⟩
  | tail label _ _ taken induction =>
      have stays := held_step byHand induction.1 taken
      exact ⟨stays.1, stays.2.1.trans induction.2⟩

structure FreeStep (waits : WaitTest Shared Call Frame) (label : MonitorLabel Thread Call)
    (state next : MonitorState Thread Shared Frame Condition Exception Result) : Prop where
  free_iff : next.locked = false ↔ copiesSucceed waits label state
  throws_iff : (∃ thread exception, next.log = state.log ++ [(thread, .error exception)]) ↔
    ¬copiesSucceed waits label state
  unchanged : ¬copiesSucceed waits label state → next.shared = state.shared

theorem finish_free_step {thread : Thread} {picks : List Thread} {copies : List Bool}
    {mustWait : Prop} {done : Section Shared Frame Condition Result}
    {outcome : SectionOutcome Shared Frame Condition Exception Result}
    (allowed_iff : copiesSucceed waits label state ↔ mustWait ∨ nextThrows copies = false)
    (byHand : ByHand failure mustWait done (state.memory copies) outcome)
    (free : state.locked = false) :
    FreeStep waits label state (finish state thread picks outcome) where
  free_iff := (byHand_free_iff byHand free).trans allowed_iff.symm
  throws_iff := by
    simp only [finish, List.append_cancel_left_eq]
    exact (byHand_throws_iff byHand free thread).trans allowed_iff.symm.not
  unchanged throws := byHand_unchanged byHand free (allowed_iff.not.mp throws)

theorem free_step (byHand : LockedByHand code plain waits failure) (free : state.locked = false)
    (taken : code.step label state = some next) : FreeStep waits label state next := by
  rcases step_cases taken with ⟨thread, call, copies, picks, rfl, _, entered⟩ |
    ⟨thread, frame, copies, picks, rfl, woken, resumed⟩ |
    ⟨thread, signal, rest, picks, rfl, _, rfl⟩ | ⟨thread, condition, frame, rfl, _, rfl⟩
  · obtain ⟨_, rfl⟩ := takeSection_eq_some.mp entered
    exact finish_free_step Iff.rfl (byHand.enter call (state.memory copies)) free
  · obtain ⟨_, rfl⟩ := takeSection_eq_some.mp resumed
    refine finish_free_step ?_ (byHand.resume frame (state.memory copies)) free
    simp [copiesSucceed, woken, MonitorState.memory]
  · exact ⟨iff_of_true free trivial, by simp [copiesSucceed], fun throws => absurd trivial throws⟩
  · exact ⟨iff_of_true free trivial, by simp [copiesSucceed], fun throws => absurd trivial throws⟩

/-- What copies that throw do in every run. -/
structure DisabledByThrow (code : CodeMonitor Shared Call Frame Condition Exception Result)
    (waits : WaitTest Shared Call Frame) (start : Shared) (Thread : Type) [DecidableEq Thread] :
    Prop where
  usable_iff : ∀ state : MonitorState Thread Shared Frame Condition Exception Result,
    Reachable (code.system start) anyStep state →
      (Usable code state ↔ Reachable (code.system start) (copiesSucceed waits) state)
  throws_iff : ∀ (label : MonitorLabel Thread Call)
      (state next : MonitorState Thread Shared Frame Condition Exception Result),
    Reachable (code.system start) anyStep state → code.step label state = some next →
      ((∃ thread exception, next.log = state.log ++ [(thread, .error exception)]) ↔
        ¬copiesSucceed waits label state)
  disabled : ∀ (label : MonitorLabel Thread Call)
      (state next later : MonitorState Thread Shared Frame Condition Exception Result),
    Reachable (code.system start) anyStep state → code.step label state = some next →
      ¬copiesSucceed waits label state → Run (code.system start) anyStep next later →
        next.shared = state.shared ∧ later.shared = state.shared ∧ ¬Usable code later

theorem free_reachable (byHand : LockedByHand code plain waits failure) {start : Shared}
    (reached : Reachable (code.system start) anyStep state) (free : state.locked = false) :
    Reachable (code.system start) (copiesSucceed waits) state := by
  obtain ⟨initial, begins, run⟩ := reached
  refine ⟨initial, begins, ?_⟩
  induction run with
  | refl => exact .refl _
  | tail label _ _ taken induction =>
      have before := free_before byHand free taken
      exact (induction before).tail label ((free_step byHand before taken).free_iff.mp free) taken

theorem reachable_free (byHand : LockedByHand code plain waits failure) {start : Shared}
    (reached : Reachable (code.system start) (copiesSucceed waits) state) :
    state.locked = false := by
  apply reached.keeps
  · intro initial begins
    rw [begins]
    rfl
  · intro label before after given allowed taken
    exact (free_step byHand given taken).free_iff.mpr allowed

theorem LockedByHand.disabledByThrow (byHand : LockedByHand code plain waits failure)
    (start : Shared) : DisabledByThrow code waits start Thread where
  usable_iff state reached := by
    rw [usable_iff_free]
    exact ⟨free_reachable byHand reached, reachable_free byHand⟩
  throws_iff label state next _ taken := by
    cases held : state.locked with
    | false => exact (free_step byHand held taken).throws_iff
    | true =>
        obtain ⟨_, _, allowed, same⟩ := held_step byHand held taken
        simp [same, allowed]
  disabled label state next later _ taken throws run := by
    cases held : state.locked with
    | true =>
        exact absurd (held_step byHand held taken).2.2.1 throws
    | false =>
        have step := free_step byHand held taken
        have locked : next.locked = true := by
          simpa using step.free_iff.not.mpr throws
        have stays := held_run byHand locked run
        refine ⟨step.unchanged throws, stays.2.trans (step.unchanged throws), ?_⟩
        intro usable
        exact absurd (usable.free.symm.trans stays.1) (by decide)

end Runs

inductive SamePoint : ThreadPoint Frame Condition →
    BroadcastMonitor.ThreadPoint Frame Condition → Prop where
  | outside : SamePoint .outside .outside
  | blocked (condition : Condition) (frame : Frame) :
      SamePoint (.blocked condition frame) (.blocked condition frame)
  | woken (frame : Frame) : SamePoint (.woken frame) (.woken frame)
  | signalling (next : Condition) (rest : List Condition) :
      SamePoint (.signalling (.all next) (rest.map .all)) (.broadcasting next rest)

/-- A state of the code that stands for one of the monitor without exceptions. -/
structure StandsFor (state : MonitorState Thread Shared Frame Condition Exception Result)
    (plain : BroadcastMonitor.MonitorState Thread Shared Frame Condition Result) : Prop where
  free : state.locked = false
  shared : state.shared = plain.shared
  point : ∀ thread, SamePoint (state.thread thread) (plain.thread thread)
  log : state.log = plain.log.map fun entry => (entry.1, .ok entry.2)

theorem samePoint_leaving (broadcasts : List Condition) :
    SamePoint (.leaving (broadcasts.map .all) : ThreadPoint Frame Condition)
      (.leaving broadcasts) := by
  cases broadcasts with
  | nil => exact .outside
  | cons next rest => exact .signalling next rest

section Points

variable {plainPoint : BroadcastMonitor.ThreadPoint Frame Condition}

theorem samePoint_outside (same : SamePoint .outside plainPoint) : plainPoint = .outside := by
  cases same
  rfl

theorem samePoint_blocked {condition : Condition} {frame : Frame}
    (same : SamePoint (.blocked condition frame) plainPoint) :
    plainPoint = .blocked condition frame := by
  cases same
  rfl

theorem samePoint_woken {frame : Frame} (same : SamePoint (.woken frame) plainPoint) :
    plainPoint = .woken frame := by
  cases same
  rfl

theorem samePoint_signalling {signal : Signal Condition} {rest : List (Signal Condition)}
    (same : SamePoint (.signalling signal rest) plainPoint) :
    ∃ next broadcasts, signal = .all next ∧ rest = broadcasts.map .all ∧
      plainPoint = .broadcasting next broadcasts := by
  cases same with
  | signalling next broadcasts => exact ⟨next, broadcasts, rfl, rfl, rfl⟩

end Points

section Simulation

variable [DecidableEq Thread]

theorem samePoint_update {points : Thread → ThreadPoint Frame Condition}
    {plainPoints : Thread → BroadcastMonitor.ThreadPoint Frame Condition}
    (same : ∀ thread, SamePoint (points thread) (plainPoints thread)) (thread : Thread)
    {point : ThreadPoint Frame Condition}
    {plainPoint : BroadcastMonitor.ThreadPoint Frame Condition}
    (moved : SamePoint point plainPoint) (other : Thread) :
    SamePoint (Function.update points thread point other)
      (Function.update plainPoints thread plainPoint other) := by
  by_cases equal : other = thread
  · rw [equal, Function.update_self, Function.update_self]
    exact moved
  · rw [Function.update_of_ne equal, Function.update_of_ne equal]
    exact same other

variable [DecidableEq Condition]
  {code : CodeMonitor Shared Call Frame Condition Exception Result}
  {plain : Monitor Shared Call Frame Condition Result} {waits : WaitTest Shared Call Frame}
  {failure : Exception}
  {state next : MonitorState Thread Shared Frame Condition Exception Result}
  {plainState : BroadcastMonitor.MonitorState Thread Shared Frame Condition Result}
  {label : MonitorLabel Thread Call}

theorem samePoint_notified {point : ThreadPoint Frame Condition}
    {plainPoint : BroadcastMonitor.ThreadPoint Frame Condition}
    (same : SamePoint point plainPoint) (condition : Condition) :
    SamePoint (point.notified condition) (plainPoint.notified condition) := by
  cases same with
  | outside => exact .outside
  | blocked waitsFor frame =>
      by_cases told : waitsFor = condition
      · simpa [ThreadPoint.notified, BroadcastMonitor.ThreadPoint.notified, told] using
          SamePoint.woken frame
      · simpa [ThreadPoint.notified, BroadcastMonitor.ThreadPoint.notified, told] using
          SamePoint.blocked waitsFor frame
  | woken frame => exact .woken frame
  | signalling next rest => exact .signalling next rest

theorem standsFor_section (stands : StandsFor state plainState) (thread : Thread)
    (picks : List Thread) (copies : List Bool) (done : Section Shared Frame Condition Result) :
    StandsFor (finish state thread picks (sectionOutcome (state.memory copies) done))
      (BroadcastMonitor.perform plainState thread done) := by
  cases done with
  | wait shared condition frame =>
      refine ⟨stands.free, rfl, ?_, ?_⟩
      · exact samePoint_update stands.point thread (.blocked condition frame)
      · exact (List.append_nil _).trans stands.log
  | leave shared result broadcasts =>
      refine ⟨stands.free, rfl, ?_, ?_⟩
      · exact samePoint_update stands.point thread (samePoint_leaving broadcasts)
      · simp [finish, endedWith, sectionOutcome, BroadcastMonitor.perform, stands.log]

theorem standsFor_step (byHand : LockedByHand code plain waits failure)
    (stands : StandsFor state plainState) (allowed : copiesSucceed waits label state)
    (taken : code.step label state = some next) :
    ∃ plainLabel plainNext, plain.step plainLabel plainState = some plainNext ∧
      StandsFor next plainNext := by
  rcases step_cases taken with ⟨thread, call, copies, picks, rfl, point, entered⟩ |
    ⟨thread, frame, copies, picks, rfl, point, resumed⟩ |
    ⟨thread, signal, rest, picks, rfl, point, rfl⟩ | ⟨thread, condition, frame, rfl, point, rfl⟩
  · have outside := samePoint_outside (point ▸ stands.point thread)
    obtain ⟨_, rfl⟩ := takeSection_eq_some.mp entered
    refine ⟨.enter thread call, _, BroadcastMonitor.step_enter call outside, ?_⟩
    rw [(byHand.enter call (state.memory copies)).succeeds stands.free allowed, ← stands.shared]
    exact standsFor_section stands thread picks copies _
  · have woken := samePoint_woken (point ▸ stands.point thread)
    obtain ⟨_, rfl⟩ := takeSection_eq_some.mp resumed
    refine ⟨.resume thread, _, BroadcastMonitor.step_resume woken, ?_⟩
    rw [(byHand.resume frame (state.memory copies)).succeeds stands.free (allowed frame point),
      ← stands.shared]
    exact standsFor_section stands thread picks copies _
  · obtain ⟨next, broadcasts, rfl, rfl, announces⟩ :=
      samePoint_signalling (point ▸ stands.point thread)
    refine ⟨.broadcast thread, _, BroadcastMonitor.step_broadcast announces, stands.free,
      stands.shared, ?_, stands.log⟩
    exact samePoint_update (fun other => samePoint_notified (stands.point other) next) thread
      (samePoint_leaving broadcasts)
  · have blocked := samePoint_blocked (point ▸ stands.point thread)
    refine ⟨.spurious thread, _, BroadcastMonitor.step_spurious blocked, stands.free,
      stands.shared, ?_, stands.log⟩
    exact samePoint_update stands.point thread (.woken frame)

/-- The code without exceptions refines the monitor. -/
theorem LockedByHand.refines (byHand : LockedByHand code plain waits failure) {start : Shared}
    (reached : Reachable (code.system start) (copiesSucceed waits) state) :
    ∃ plainState, Reachable (plain.system start) anyStep plainState ∧
      StandsFor state plainState := by
  apply reached.keeps
  · intro initial begins
    rw [begins]
    exact ⟨_, ⟨_, rfl, .refl _⟩, rfl, rfl, fun _ => .outside, rfl⟩
  · intro label before after given allowed taken
    obtain ⟨plainBefore, plainReached, stands⟩ := given
    obtain ⟨plainLabel, plainAfter, plainTaken, follows⟩ :=
      standsFor_step byHand stands allowed taken
    exact ⟨plainAfter, plainReached.next plainLabel trivial plainTaken, follows⟩

end Simulation

end Schedulers.HandLockedMonitors
