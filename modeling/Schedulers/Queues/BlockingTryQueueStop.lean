import Schedulers.Queues.BlockingTryQueueModel

/-!
# `stop(true)` and blocked consumers

Consumers and stoppers wait on `m_pop_cv`. Whatever changes what one of them waits for
notifies all of them in the same section, so the last consumer that leaves wakes every
stopper. Nobody calls `wait_and_push` here.
-/

namespace Schedulers.Queues

open Schedulers.TransitionSystem Schedulers.LockedCode Schedulers.CodeMonitors

set_option autoImplicit false

variable {Thread T : Type} {cmSize : Int}

def BlockingCall.isWaitAndPush : BlockingCall T → Bool
  | .waitAndPush _ => true
  | _ => false

def noWaitAndPush : Permission (BlockingState Thread T) (BlockingLabel Thread T)
  | .enter _ call _ _, _ => call.isWaitAndPush = false
  | _, _ => True

instance : ∀ (label : BlockingLabel Thread T) (state : BlockingState Thread T),
    Decidable (noWaitAndPush label state)
  | .enter _ call _ _, _ => inferInstanceAs (Decidable (call.isWaitAndPush = false))
  | .resume .., _ => isTrue trivial
  | .signal .., _ => isTrue trivial
  | .spurious _, _ => isTrue trivial

/-- When a thread may be in a loop. -/
def InLoop (queue : BlockingTryQueue T) : BlockingFrame T → Prop
  | .stopPop => queue.mStopped = true
  | .waitAndPop _ => True
  | _ => False

def Waits (queue : BlockingTryQueue T) : BlockingFrame T → Prop
  | .stopPop => queue.mStopped = true ∧ queue.mNblockedPop ≠ 0
  | .waitAndPop _ => queue.mStopped = false
  | _ => False

theorem waits_inLoop {queue : BlockingTryQueue T} {frame : BlockingFrame T}
    (waits : Waits queue frame) : InLoop queue frame := by
  cases frame with
  | stopPop => exact waits.1
  | waitAndPop => trivial
  | stopPush => exact waits
  | waitAndPush => exact waits

theorem inLoop_kept {queue other : BlockingTryQueue T} {frame : BlockingFrame T}
    (stopped : queue.mStopped = true → other.mStopped = true) (inside : InLoop queue frame) :
    InLoop other frame := by
  cases frame with
  | stopPop => exact stopped inside
  | waitAndPop => trivial
  | stopPush => exact inside
  | waitAndPush => exact inside

section Sections

/-- What a waiting thread waits for is kept, or everybody who waits is told. -/
structure HandsOver (memory : Memory (BlockingTryQueue T) BlockingCondition)
    (outcome : SectionOutcome (BlockingTryQueue T) (BlockingFrame T) BlockingCondition
      BlockingException (BlockingResult T)) : Prop where
  free : (memoryAfter outcome).locked = false
  pushers : (memoryAfter outcome).shared.mNblockedPush = memory.shared.mNblockedPush
  stopped : memory.shared.mStopped = true → (memoryAfter outcome).shared.mStopped = true
  waits : ∀ condition frame, pointAfter outcome = .blocked condition frame →
    condition = .mPopCv ∧ Waits (memoryAfter outcome).shared frame
  others : ∀ frame, Waits memory.shared frame →
    Waits (memoryAfter outcome).shared frame ∨ .all .mPopCv ∈ (memoryAfter outcome).signals

variable {memory before : Memory (BlockingTryQueue T) BlockingCondition}

variable {outcome : SectionOutcome (BlockingTryQueue T) (BlockingFrame T) BlockingCondition
  BlockingException (BlockingResult T)}

theorem hands_over_unchanged (free : (memoryAfter outcome).locked = false)
    (pops : (memoryAfter outcome).shared.mNblockedPop = memory.shared.mNblockedPop)
    (pushers : (memoryAfter outcome).shared.mNblockedPush = memory.shared.mNblockedPush)
    (stopped : (memoryAfter outcome).shared.mStopped = memory.shared.mStopped)
    (waits : ∀ condition frame, pointAfter outcome = .blocked condition frame →
      condition = .mPopCv ∧ Waits (memoryAfter outcome).shared frame) :
    HandsOver memory outcome := by
  refine ⟨free, pushers, stopped.trans, waits, fun frame given => .inl ?_⟩
  cases frame with
  | stopPop => exact ⟨stopped.trans given.1, pops ▸ given.2⟩
  | waitAndPop => exact stopped.trans given
  | stopPush => exact given
  | waitAndPush => exact given

theorem hands_over_running (running : memory.shared.mStopped = false)
    (free : (memoryAfter outcome).locked = false)
    (pushers : (memoryAfter outcome).shared.mNblockedPush = memory.shared.mNblockedPush)
    (still : (memoryAfter outcome).shared.mStopped = false)
    (waits : ∀ condition frame, pointAfter outcome = .blocked condition frame →
      condition = .mPopCv ∧ Waits (memoryAfter outcome).shared frame) :
    HandsOver memory outcome := by
  refine ⟨free, pushers, ?_, waits, fun frame given => .inl ?_⟩
  · intro stopped
    exact absurd (running.symm.trans stopped) (by decide)
  · cases frame with
    | stopPop => exact absurd (running.symm.trans given.1) (by decide)
    | waitAndPop => exact still
    | stopPush => exact given
    | waitAndPush => exact given

theorem hands_over_scopedLock {body : QueueCode T (QueueExit T)} (free : memory.locked = false)
    (given : HandsOver { memory with locked := true }
      (released (body.run { memory with locked := true }))) :
    HandsOver memory ((scopedLock body).run memory) := by
  rw [run_scopedLock memory body free]
  exact ⟨given.free, given.pushers, given.stopped, given.waits, given.others⟩

theorem hands_over_returning {Value : Type} {code : QueueCode T Value}
    {result : Value → TryResult T} (free : (memoryAfter (code.run memory)).locked = false)
    (pops : (memoryAfter (code.run memory)).shared.mNblockedPop = memory.shared.mNblockedPop)
    (pushers : (memoryAfter (code.run memory)).shared.mNblockedPush = memory.shared.mNblockedPush)
    (stopped : (memoryAfter (code.run memory)).shared.mStopped = memory.shared.mStopped) :
    HandsOver memory (((fun value => returning (result value)) <$> code).run memory) := by
  rw [run_map]
  revert free pops pushers stopped
  rcases code.run memory with ⟨value, after⟩ | ⟨_ | _, after⟩ <;> intro free pops pushers stopped
  · exact hands_over_unchanged free pops pushers stopped
      (by simp [pointAfter, returning, ThreadPoint.leaving])
  · exact hands_over_unchanged free pops pushers stopped (by simp [pointAfter])
  · exact hands_over_unchanged free pops pushers stopped (by simp [pointAfter])

theorem stop_pop_loop_hands_over (stopped : memory.shared.mStopped = true)
    (pushers : memory.shared.mNblockedPush = 0) :
    HandsOver memory (released (BlockingTryQueue.stopPopLoop.run memory)) := by
  rw [run_stop_pop_loop, run_stop_push_loop]
  by_cases pops : memory.shared.mNblockedPop = 0
  · apply hands_over_unchanged <;>
      simp [pops, pushers, memoryAfter, pointAfter, ThreadPoint.leaving]
  · apply hands_over_unchanged <;> simp [pops, memoryAfter, pointAfter, Waits, stopped]

theorem stop_hands_over (wait : Bool) (free : memory.locked = false)
    (pushers : memory.shared.mNblockedPush = 0) :
    HandsOver memory ((BlockingTryQueue.stop wait).run memory) := by
  rw [BlockingTryQueue.stop, run_scopedLock _ _ free]
  cases wait with
  | false =>
      constructor <;> simp [memoryAfter, pointAfter, ThreadPoint.leaving]
  | true =>
      simp only [EStateM.run_bind, run_update, run_notify, if_true]
      rw [run_stop_pop_loop, run_stop_push_loop]
      by_cases pops : memory.shared.mNblockedPop = 0
      · constructor <;> simp [pops, pushers, memoryAfter, pointAfter, ThreadPoint.leaving]
      · constructor <;> simp [pops, memoryAfter, pointAfter, Waits]

theorem wait_and_pop_loop_hands_over (popped : T)
    (stopped : memory.shared.mStopped = before.shared.mStopped)
    (pushers : memory.shared.mNblockedPush = before.shared.mNblockedPush) :
    HandsOver before (released ((BlockingTryQueue.waitAndPopLoop popped).run memory)) := by
  rw [run_wait_and_pop_loop]
  cases still : memory.shared.mStopped with
  | true =>
      constructor <;> simp [memoryAfter, pointAfter, pushers, still]
  | false =>
      have running : before.shared.mStopped = false := stopped.symm.trans still
      cases content : memory.shared.mQ with
      | nil =>
          apply hands_over_running running <;> simp [memoryAfter, pointAfter, pushers, Waits, still]
      | cons front rest =>
          by_cases throws : nextThrows memory.copies = true
          · apply hands_over_running running <;>
              simp [throws, memoryAfter, pointAfter, pushers, still]
          · apply hands_over_running running <;>
              simp [throws, memoryAfter, pointAfter, ThreadPoint.leaving, pushers, still]

theorem try_push_hands_over (x : T) (free : memory.locked = false) :
    HandsOver memory (((fun accepted => returning (.tryPush accepted)) <$>
      BlockingTryQueue.tryPush cmSize x).run memory) := by
  have kept := run_try_push memory cmSize x free
  apply hands_over_returning <;> rw [kept] <;> split_ifs <;> first | exact free | rfl

theorem try_pop_hands_over (popped : T) (free : memory.locked = false) :
    HandsOver memory (((fun done => returning (.tryPop done.1 done.2)) <$>
      BlockingTryQueue.tryPop popped).run memory) := by
  have kept := run_try_pop memory popped free
  cases content : memory.shared.mQ with
  | nil =>
      simp only [content] at kept
      apply hands_over_returning <;> rw [kept] <;> first | exact free | rfl
  | cons front rest =>
      simp only [content] at kept
      apply hands_over_returning <;> rw [kept] <;> split_ifs <;> first | exact free | rfl

theorem size_hands_over (free : memory.locked = false) :
    HandsOver memory (((fun size => returning (.size size)) <$>
      BlockingTryQueue.size).run memory) := by
  have kept := run_size memory free
  apply hands_over_returning <;> rw [kept] <;> first | exact free | rfl

theorem empty_hands_over (free : memory.locked = false) :
    HandsOver memory (((fun empty => returning (.empty empty)) <$>
      BlockingTryQueue.empty).run memory) := by
  have kept := run_empty memory free
  apply hands_over_returning <;> rw [kept] <;> first | exact free | rfl

theorem enter_hands_over (cmSize : Int) (call : BlockingCall T) (other : call.isWaitAndPush = false)
    (free : memory.locked = false) (pushers : memory.shared.mNblockedPush = 0) :
    HandsOver memory (((blockingTryQueue T cmSize).enter call).run memory) := by
  cases call with
  | tryPush x => exact try_push_hands_over x free
  | tryPop popped => exact try_pop_hands_over popped free
  | size => exact size_hands_over free
  | empty => exact empty_hands_over free
  | stop wait => exact stop_hands_over wait free pushers
  | waitAndPop popped =>
      apply hands_over_scopedLock free
      exact wait_and_pop_loop_hands_over popped rfl rfl
  | waitAndPush item => cases other

theorem resume_hands_over (cmSize : Int) (frame : BlockingFrame T)
    (inside : InLoop memory.shared frame) (free : memory.locked = false)
    (pushers : memory.shared.mNblockedPush = 0) :
    HandsOver memory (((blockingTryQueue T cmSize).resume frame).run memory) := by
  cases frame with
  | stopPop => exact hands_over_scopedLock free (stop_pop_loop_hands_over inside pushers)
  | waitAndPop popped =>
      exact hands_over_scopedLock free (wait_and_pop_loop_hands_over popped rfl rfl)
  | stopPush => exact inside.elim
  | waitAndPush item => exact inside.elim

end Sections

structure StopOrder (state : BlockingState Thread T) : Prop where
  free : state.locked = false
  pushers : state.shared.mNblockedPush = 0
  blocked : ∀ thread condition frame, state.thread thread = .blocked condition frame →
    condition = .mPopCv ∧ Waits state.shared frame
  woken : ∀ thread frame, state.thread thread = .woken frame → InLoop state.shared frame

theorem stop_order_start : StopOrder (.start .start : BlockingState Thread T) where
  free := rfl
  pushers := rfl
  blocked _ _ _ blocked := by cases blocked
  woken _ _ woken := by cases woken

theorem stop_order_woken {state : BlockingState Thread T} (given : StopOrder state)
    {point : ThreadPoint (BlockingFrame T) BlockingCondition} {thread : Thread}
    (moved : point = state.thread thread ∨
      ∃ condition frame, state.thread thread = .blocked condition frame ∧ point = .woken frame)
    {frame : BlockingFrame T} (woken : point = .woken frame) : InLoop state.shared frame := by
  rcases moved with same | ⟨_, _, blocked, after⟩
  · exact given.woken thread frame (same.symm.trans woken)
  · cases woken.symm.trans after
    exact waits_inLoop (given.blocked thread _ _ blocked).2

theorem stop_order_points {state : BlockingState Thread T} (given : StopOrder state)
    {points : Thread → ThreadPoint (BlockingFrame T) BlockingCondition}
    (moved : ∀ thread, (points thread = state.thread thread ∨
      ∃ condition frame, state.thread thread = .blocked condition frame ∧
        points thread = .woken frame) ∨ ∃ signals, points thread = .leaving signals) :
    StopOrder { state with thread := points } where
  free := given.free
  pushers := given.pushers
  blocked thread condition frame blocked := by
    rcases moved thread with (same | ⟨_, _, _, woken⟩) | ⟨signals, leaves⟩
    · exact given.blocked thread condition frame (same.symm.trans blocked)
    · cases blocked.symm.trans woken
    · exact absurd (leaves.symm.trans blocked) (leaving_not_blocked signals condition frame)
  woken thread frame woken := by
    rcases moved thread with wakes | ⟨signals, leaves⟩
    · exact stop_order_woken given wakes woken
    · exact absurd (leaves.symm.trans woken) (leaving_not_woken signals frame)

section Steps

variable [DecidableEq Thread]

theorem stop_order_section {state : BlockingState Thread T} (given : StopOrder state)
    {thread : Thread} {picks : List Thread} {copies : List Bool}
    {outcome : SectionOutcome (BlockingTryQueue T) (BlockingFrame T) BlockingCondition
      BlockingException (BlockingResult T)}
    (handsOver : HandsOver (state.memory copies) outcome) :
    StopOrder (finish state thread picks outcome) where
  free := handsOver.free
  pushers := handsOver.pushers.trans given.pushers
  blocked other condition frame blocked := by
    rcases finish_blocked blocked with ⟨_, waits⟩ | ⟨_, before, unannounced⟩
    · exact handsOver.waits condition frame waits
    · obtain ⟨onPop, waits⟩ := given.blocked other condition frame before
      rcases handsOver.others frame waits with still | announced
      · exact ⟨onPop, still⟩
      · rw [onPop] at unannounced
        exact absurd announced unannounced
  woken other frame woken := by
    by_cases same : other = thread
    · rw [same, finish_thread_self] at woken
      exact absurd woken (pointAfter_not_woken outcome frame)
    · rw [finish_thread_other state same] at woken
      exact inLoop_kept handsOver.stopped (stop_order_woken given (deliver_cases ..) woken)

theorem stop_order_step_cases {label : BlockingLabel Thread T}
    {state next : BlockingState Thread T}
    (given : StopOrder state) (allowed : noWaitAndPush label state)
    (taken : (blockingTryQueue T cmSize).step label state = some next) :
    (∃ thread copies picks outcome, HandsOver (state.memory copies) outcome ∧
      next = finish state thread picks outcome) ∨
    (next.shared = state.shared ∧ StopOrder next) := by
  rcases step_cases taken with ⟨thread, call, copies, picks, rfl, _, entered⟩ |
    ⟨thread, frame, copies, picks, _, woken, resumed⟩ |
    ⟨thread, signal, rest, picks, _, point, rfl⟩ | ⟨thread, condition, frame, _, blocked, rfl⟩
  · left
    exact ⟨thread, copies, picks, _, enter_hands_over cmSize call allowed given.free given.pushers,
      (takeSection_eq_some.mp entered).2.symm⟩
  · left
    have inside := given.woken thread frame woken
    exact ⟨thread, copies, picks, _, resume_hands_over cmSize frame inside given.free given.pushers,
      (takeSection_eq_some.mp resumed).2.symm⟩
  · refine .inr ⟨rfl, stop_order_points given ?_⟩
    intro other
    by_cases same : other = thread
    · exact .inr ⟨rest, by rw [same, Function.update_self]⟩
    · rw [Function.update_of_ne same]
      exact .inl (deliver_cases ..)
  · refine .inr ⟨rfl, stop_order_points given ?_⟩
    intro other
    by_cases same : other = thread
    · rw [same, Function.update_self]
      exact .inl (.inr ⟨condition, frame, blocked, rfl⟩)
    · exact .inl (.inl (Function.update_of_ne same ..))

theorem stop_order_step {label : BlockingLabel Thread T} {state next : BlockingState Thread T}
    (given : StopOrder state) (allowed : noWaitAndPush label state)
    (taken : (blockingTryQueue T cmSize).step label state = some next) : StopOrder next := by
  rcases stop_order_step_cases given allowed taken with
    ⟨thread, copies, picks, outcome, handsOver, rfl⟩ | ⟨_, ordered⟩
  · exact stop_order_section given handsOver
  · exact ordered

end Steps

theorem stop_pop_loop_ends (memory : Memory (BlockingTryQueue T) BlockingCondition)
    {thread : Thread}
    (ended : endedWith thread (released (BlockingTryQueue.stopPopLoop.run memory)) ≠ []) :
    (memoryAfter (released (BlockingTryQueue.stopPopLoop.run memory))).shared.mNblockedPop = 0 := by
  rw [run_stop_pop_loop, run_stop_push_loop] at ended ⊢
  by_cases pops : memory.shared.mNblockedPop = 0
  · simp [pops, memoryAfter]
  · simp [pops, endedWith] at ended

variable [DecidableEq Thread]

inductive PopSection (cmSize : Int) (thread : Thread) (state next : BlockingState Thread T) :
    Prop where
  | enter (popped : T) (copies : List Bool) (picks : List Thread)
      (taken : (blockingTryQueue T cmSize).step (.enter thread (.waitAndPop popped) copies picks)
        state = some next)
  | resume (popped : T) (copies : List Bool) (picks : List Thread)
      (woken : state.thread thread = .woken (.waitAndPop popped))
      (taken : (blockingTryQueue T cmSize).step (.resume thread copies picks) state = some next)

inductive StopSection (cmSize : Int) (thread : Thread) (state next : BlockingState Thread T) :
    Prop where
  | enter (copies : List Bool) (picks : List Thread)
      (taken : (blockingTryQueue T cmSize).step (.enter thread (.stop true) copies picks) state =
        some next)
  | resume (frame : BlockingFrame T) (inStop : frame = .stopPop ∨ frame = .stopPush)
      (copies : List Bool) (picks : List Thread) (woken : state.thread thread = .woken frame)
      (taken : (blockingTryQueue T cmSize).step (.resume thread copies picks) state = some next)

section Sections

variable {state next : BlockingState Thread T} {thread : Thread}

theorem stop_order_keeps_stopped {label : BlockingLabel Thread T} (given : StopOrder state)
    (allowed : noWaitAndPush label state)
    (taken : (blockingTryQueue T cmSize).step label state = some next)
    (stopped : state.shared.mStopped = true) : next.shared.mStopped = true := by
  rcases stop_order_step_cases given allowed taken with
    ⟨thread, copies, picks, outcome, handsOver, rfl⟩ | ⟨sameShared, _⟩
  · exact handsOver.stopped stopped
  · rw [sameShared]
    exact stopped

theorem wait_and_pop_loop_stopped {memory : Memory (BlockingTryQueue T) BlockingCondition}
    (popped : T) (stopped : memory.shared.mStopped = true) :
    ∃ after, released ((BlockingTryQueue.waitAndPopLoop popped).run memory) =
      .error (.thrown .terminate) after ∧ after.shared.mQ = memory.shared.mQ := by
  rw [run_wait_and_pop_loop]
  simp only [stopped]
  exact ⟨_, rfl, rfl⟩

theorem finish_terminated {picks : List Thread}
    {outcome : SectionOutcome (BlockingTryQueue T) (BlockingFrame T) BlockingCondition
      BlockingException (BlockingResult T)}
    (terminated : ∃ after, outcome = .error (.thrown .terminate) after ∧
      after.shared.mQ = state.shared.mQ) :
    (finish state thread picks outcome).shared.mQ = state.shared.mQ ∧
      (finish state thread picks outcome).log = state.log ++ [(thread, .error .terminate)] := by
  obtain ⟨after, ran, same⟩ := terminated
  rw [ran]
  exact ⟨same, rfl⟩

/-- After the stop a `wait_and_pop` takes nothing and ends. -/
theorem pop_section_terminates (given : StopOrder state)
    (pops : PopSection cmSize thread state next) (stopped : state.shared.mStopped = true) :
    next.shared.mQ = state.shared.mQ ∧ next.log = state.log ++ [(thread, .error .terminate)] := by
  cases pops with
  | enter popped copies picks taken =>
      obtain ⟨_, rfl⟩ := step_enter taken
      apply finish_terminated
      change ∃ after, (scopedLock _).run (state.memory copies) = _ ∧ _
      rw [run_scopedLock _ _ given.free]
      exact wait_and_pop_loop_stopped popped stopped
  | resume popped copies picks woken taken =>
      rw [← step_resume taken woken]
      apply finish_terminated
      change ∃ after, (scopedLock _).run (state.memory copies) = _ ∧ _
      rw [run_scopedLock _ _ given.free]
      exact wait_and_pop_loop_stopped popped stopped

theorem stop_section_returns (given : StopOrder state)
    (stops : StopSection cmSize thread state next) (returned : next.log ≠ state.log) :
    next.shared.mNblockedPop = 0 := by
  cases stops with
  | enter copies picks taken =>
      obtain ⟨_, rfl⟩ := step_enter taken
      have ran : ((blockingTryQueue T cmSize).enter (.stop true)).run (state.memory copies) =
          released (BlockingTryQueue.stopPopLoop.run _) := run_scopedLock _ _ given.free
      rw [ran] at returned ⊢
      apply stop_pop_loop_ends
      simpa [finish] using returned
  | resume frame inStop copies picks woken taken =>
      rcases inStop with rfl | rfl
      · rw [← step_resume taken woken] at returned ⊢
        have ran : ((blockingTryQueue T cmSize).resume .stopPop).run (state.memory copies) =
            released (BlockingTryQueue.stopPopLoop.run _) := run_scopedLock _ _ given.free
        rw [ran] at returned ⊢
        apply stop_pop_loop_ends
        simpa [finish] using returned
      · exact (given.woken thread .stopPush woken).elim

end Sections

theorem reachable_stop_order {state : BlockingState Thread T}
    (reached : Reachable (blockingQueueSystem Thread T cmSize) noWaitAndPush state) :
    StopOrder state := by
  apply reached.keeps
  · intro start begins
    rw [begins]
    exact stop_order_start
  · intro label before after given allowed taken
    exact stop_order_step given allowed taken

/-- In every interleaving without `wait_and_push`: once the queue is stopped it stays so,
and every section of a `wait_and_pop` takes nothing and ends with the exception;
`stop(true)` returns only where `m_nblocked_pop` is 0; a stopper that waits and was not
notified has a consumer to wait for, and no consumer waits so after the stop. -/
theorem stop_hands_over_to_consumers (cmSize : Int) (state : BlockingState Thread T)
    (reached : Reachable (blockingQueueSystem Thread T cmSize) noWaitAndPush state) :
    (∀ label next, noWaitAndPush label state →
      (blockingTryQueue T cmSize).step label state = some next →
      state.shared.mStopped = true → next.shared.mStopped = true) ∧
    (∀ thread next, PopSection cmSize thread state next → state.shared.mStopped = true →
      next.shared.mQ = state.shared.mQ ∧
        next.log = state.log ++ [(thread, .error .terminate)]) ∧
    (∀ thread next, StopSection cmSize thread state next →
      next.log = state.log ++ [(thread, .ok .stopped)] → next.shared.mNblockedPop = 0) ∧
    (∀ thread, state.thread thread = .blocked .mPopCv .stopPop →
      state.shared.mNblockedPop ≠ 0) ∧
    ∀ thread condition popped, state.thread thread = .blocked condition (.waitAndPop popped) →
      state.shared.mStopped = false := by
  have given := reachable_stop_order reached
  refine ⟨?_, ?_, ?_, ?_, ?_⟩
  · intro label next allowed taken stopped
    exact stop_order_keeps_stopped given allowed taken stopped
  · intro thread next pops stopped
    exact pop_section_terminates given pops stopped
  · intro thread next stops returned
    apply stop_section_returns given stops
    simp [returned]
  · intro thread blocked
    exact (given.blocked thread _ _ blocked).2.2
  · intro thread condition popped blocked
    exact (given.blocked thread condition _ blocked).2

/-- Consumer 0 waits, thread 1 stops the queue and waits for it, and the consumer runs. -/
theorem stop_hands_over_to_consumers_one :
    ∃ state next : BlockingState Nat Nat, state.thread 1 = .blocked .mPopCv .stopPop ∧
      state.shared.mNblockedPop ≠ 0 ∧ PopSection 2 0 state next ∧
      next.log = state.log ++ [(0, .error .terminate)] := by
  obtain ⟨state, reached, waits, stopped, woken, runs⟩ : ∃ state,
      Reachable (blockingQueueSystem Nat Nat 2) noWaitAndPush state ∧
        state.thread 1 = .blocked .mPopCv .stopPop ∧ state.shared.mStopped = true ∧
        state.thread 0 = .woken (.waitAndPop 7) ∧
        ((blockingTryQueue Nat 2).step (.resume 0 [] []) state).isSome = true :=
    schedule_reaches [.enter 0 (.waitAndPop 7) [] [], .enter 1 (.stop true) [] []] rfl (by decide)
  obtain ⟨next, taken⟩ := Option.isSome_iff_exists.mp runs
  have pops : PopSection 2 0 state next := .resume 7 [] [] woken taken
  obtain ⟨_, terminates, _, stopper, _⟩ := stop_hands_over_to_consumers 2 state reached
  exact ⟨state, next, waits, stopper 1 waits, pops, (terminates 0 next pops stopped).2⟩

end Schedulers.Queues
