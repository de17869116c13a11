import Schedulers.Stlab.SerialQueueModel
import Schedulers.Support.Progress
import Mathlib.Tactic.Common

/-!
# A serial queue has one drain

While the queue is running, one party has it in hand: the call of `enqueue` that is
about to submit a job, or the one job that is not over. Tasks therefore run one at a
time and in the order of the queue, and every task is run: whatever the order of the
steps, a queue to which nothing is added comes to rest with all its tasks finished.
-/

namespace Schedulers.Stlab

open Schedulers.TransitionSystem

set_option autoImplicit false

variable {Caller Task : Type}

def JobPoint.active : JobPoint Task → Bool
  | .absent => false
  | .returned => false
  | _ => true

/-- The tasks a job has taken from the queue and not finished. -/
def JobPoint.inHand : JobPoint Task → List Task
  | .draining localQueue => localQueue
  | .running f localQueue => f :: localQueue
  | _ => []

/-- The party that has the queue in hand, and where it is. -/
inductive Drain (Task : Type) where
  | idle
  | kicking
  | working (point : JobPoint Task)

namespace Drain

def inHand : Drain Task → List Task
  | .working point => point.inHand
  | _ => []

/-- The steps that remain besides those for the tasks still in the queue. -/
def remaining : Drain Task → Nat
  | .idle => 0
  | .kicking => 1
  | .working .resubmitting => 1
  | .working .checking => 2
  | .working (.draining localQueue) => 2 * localQueue.length + 3
  | .working (.running _ localQueue) => 2 * localQueue.length + 4
  | .working _ => 0

def openJobs : Drain Task → Nat
  | .working .pending => 1
  | .working (.draining (_ :: _)) => 1
  | .working (.running _ _) => 1
  | _ => 0

/-- Where the next locked section relies on a queue that is not empty. -/
def expectsTask : Drain Task → Prop
  | .kicking => True
  | .working .pending => True
  | .working .resubmitting => True
  | _ => False

def fits (mode : ScheduleMode) : Drain Task → Prop
  | .working .poppedEmpty => False
  | .working (.draining _) => mode = .all
  | .working (.running _ localQueue) => mode = .single → localQueue = []
  | _ => True

end Drain

structure OthersQuiet (state : SerialState Caller Task) (holder : Option (Caller ⊕ Nat)) :
    Prop where
  callers : ∀ caller, holder ≠ some (.inl caller) → state.caller caller = .outside
  jobs : ∀ index, holder ≠ some (.inr index) → (state.job index).active = false
  fresh : ∀ index, state.submitted ≤ index → state.job index = .absent

inductive HeldBy (state : SerialState Caller Task) : Drain Task → Prop where
  | idle (quiet : OthersQuiet state none) (stopped : state.isRunning = false)
      (empty : state.queue = []) : HeldBy state .idle
  | kicking (caller : Caller) (quiet : OthersQuiet state (some (.inl caller)))
      (here : state.caller caller = .kicking) (runs : state.isRunning = true) :
      HeldBy state .kicking
  | working (index : Nat) (point : JobPoint Task)
      (quiet : OthersQuiet state (some (.inr index))) (here : state.job index = point)
      (active : point.active = true) (runs : state.isRunning = true) :
      HeldBy state (.working point)

structure Serial (mode : ScheduleMode) (state : SerialState Caller Task) (drain : Drain Task) :
    Prop where
  held : HeldBy state drain
  history : state.enqueued = state.finished ++ drain.inHand ++ state.queue
  expected : drain.expectsTask → state.queue ≠ []
  fits : drain.fits mode
  jobs : state.submitted ≤ state.finished.length + drain.openJobs
  singleJobs : mode = .single → state.submitted = state.finished.length + drain.openJobs

def workLeft (state : SerialState Caller Task) (drain : Drain Task) : Nat :=
  6 * state.queue.length + drain.remaining

/-- A step of the drain: the queue is in one hand again and closer to rest. -/
def Forward (mode : ScheduleMode) (state : SerialState Caller Task) (drain : Drain Task)
    (next : SerialState Caller Task) : Prop :=
  ∃ after, Serial mode next after ∧ workLeft next after < workLeft state drain ∧
    next.enqueued = state.enqueued

variable {mode : ScheduleMode} {state : SerialState Caller Task} {drain : Drain Task}

theorem HeldBy.caller_kicks (held : HeldBy state drain) {caller : Caller}
    (kicks : state.caller caller = .kicking) :
    drain = .kicking ∧ OthersQuiet state (some (.inl caller)) ∧ state.isRunning = true := by
  cases held with
  | idle quiet _ _ =>
      have outside := quiet.callers caller (by simp)
      rw [kicks] at outside
      cases outside
  | kicking holder quiet _ runs =>
      by_cases same : holder = caller
      · subst same
        exact ⟨rfl, quiet, runs⟩
      · have outside := quiet.callers caller (by simpa using same)
        rw [kicks] at outside
        cases outside
  | working index _ quiet _ _ _ =>
      have outside := quiet.callers caller (by simp)
      rw [kicks] at outside
      cases outside

theorem HeldBy.job_works (held : HeldBy state drain) {index : Nat} {point : JobPoint Task}
    (here : state.job index = point) (active : point.active = true) :
    drain = .working point ∧ OthersQuiet state (some (.inr index)) ∧ state.isRunning = true := by
  subst here
  have notQuiet {holder : Option (Caller ⊕ Nat)} (quiet : OthersQuiet state holder) :
      holder = some (.inr index) := by
    by_contra other
    rw [quiet.jobs index other] at active
    cases active
  cases held with
  | idle quiet _ _ => exact absurd (notQuiet quiet) (by simp)
  | kicking _ quiet _ _ => exact absurd (notQuiet quiet) (by simp)
  | working holder _ quiet here _ runs =>
      have same : holder = index := by simpa using notQuiet quiet
      subst same here
      exact ⟨rfl, quiet, runs⟩

theorem OthersQuiet.within {index : Nat} {holder : Option (Caller ⊕ Nat)}
    (quiet : OthersQuiet state holder) (active : (state.job index).active = true) :
    index < state.submitted := by
  by_contra beyond
  rw [quiet.fresh index (Nat.le_of_not_lt beyond)] at active
  cases active

theorem OthersQuiet.set_job {index : Nat} (quiet : OthersQuiet state (some (.inr index)))
    (active : (state.job index).active = true) (point : JobPoint Task) :
    OthersQuiet (state.setJob index point) (some (.inr index)) := by
  have within := quiet.within active
  constructor
  · exact quiet.callers
  · intro other different
    have unequal : other ≠ index := fun same => different (by rw [same])
    simpa [SerialState.setJob, unequal] using quiet.jobs other different
  · intro other beyond
    have unequal : other ≠ index := by
      rintro rfl
      exact absurd within (Nat.not_lt.mpr beyond)
    simpa [SerialState.setJob, unequal] using quiet.fresh other beyond

theorem OthersQuiet.end_job {index : Nat} (quiet : OthersQuiet state (some (.inr index)))
    (active : (state.job index).active = true) :
    OthersQuiet (state.setJob index .returned) none := by
  have changed := quiet.set_job active .returned
  constructor
  · exact fun caller _ => changed.callers caller (by simp)
  · intro other _
    by_cases same : other = index
    · subst same
      simp [SerialState.setJob, JobPoint.active]
    · exact changed.jobs other (by simpa using Ne.symm same)
  · exact changed.fresh

theorem OthersQuiet.submit (quiet : OthersQuiet state none) :
    OthersQuiet state.submit (some (.inr state.submitted)) := by
  constructor
  · exact fun caller _ => quiet.callers caller (by simp)
  · intro other different
    have unequal : other ≠ state.submitted := fun same => different (by rw [same])
    simpa [SerialState.submit, SerialState.setJob, unequal] using quiet.jobs other (by simp)
  · intro other beyond
    have beyond : state.submitted + 1 ≤ other := beyond
    have unequal : other ≠ state.submitted := by omega
    simpa [SerialState.submit, SerialState.setJob, unequal] using
      quiet.fresh other (by omega)

theorem Serial.working (given : Serial mode state drain) {index : Nat} {point : JobPoint Task}
    (here : state.job index = point) (active : point.active = true) :
    drain = .working point :=
  (given.held.job_works here active).1

theorem Serial.running_alone (given : Serial mode state drain) {index other : Nat} {f g : Task}
    {localQueue more : List Task} (here : state.job index = .running f localQueue)
    (there : state.job other = .running g more) : other = index := by
  obtain ⟨_, quiet, _⟩ := given.held.job_works here rfl
  by_contra different
  have idle := quiet.jobs other (by simpa using Ne.symm different)
  rw [there] at idle
  cases idle

theorem Serial.stopped_is_idle (given : Serial mode state drain)
    (stopped : state.isRunning = false) : drain = .idle := by
  cases given.held with
  | idle => rfl
  | kicking _ _ _ runs => simp [runs] at stopped
  | working _ _ _ _ _ runs => simp [runs] at stopped

theorem work_left_bounded (given : Serial mode state drain) :
    workLeft state drain ≤ 6 * (state.enqueued.length - state.finished.length) + 3 := by
  have lengths := congrArg List.length given.history
  simp only [List.length_append] at lengths
  have priced : drain.remaining ≤ 6 * drain.inHand.length + 3 := by
    cases drain with
    | idle => exact Nat.zero_le _
    | kicking => exact Nat.le_add_left 1 2
    | working point =>
        cases point <;>
          simp only [Drain.remaining, Drain.inHand, JobPoint.inHand, List.length_cons,
            List.length_nil] <;>
          omega
  unfold workLeft
  omega

theorem serial_start : Serial mode (SerialState.start : SerialState Caller Task) .idle := by
  constructor
  · exact .idle ⟨fun _ _ => rfl, fun _ _ => rfl, fun _ _ => rfl⟩ rfl rfl
  · rfl
  · exact False.elim
  · trivial
  · exact Nat.le_refl 0
  · exact fun _ => rfl

theorem forward_take (given : Serial mode state drain) {index : Nat}
    (here : state.job index = .pending) :
    Forward mode state drain (state.take mode index) := by
  obtain ⟨rfl, quiet, runs⟩ := given.held.job_works here rfl
  have active : (state.job index).active = true := by rw [here]; rfl
  have held (point : JobPoint Task) (works : point.active = true) (rest : List Task) :
      HeldBy { state.setJob index point with queue := rest } (.working point) := by
    have changed := quiet.set_job active point
    exact .working index point ⟨changed.callers, changed.jobs, changed.fresh⟩
      (Function.update_self ..) works runs
  have history : state.enqueued = state.finished ++ state.queue := by
    simpa [Drain.inHand, JobPoint.inHand] using given.history
  cases contents : state.queue with
  | nil => exact absurd contents (given.expected trivial)
  | cons f rest =>
      rw [contents] at history
      cases mode with
      | single =>
          have same : state.take .single index =
              { state.setJob index (.running f []) with queue := rest } := by
            simp [SerialState.take, contents]
          rw [same]
          refine ⟨.working (.running f []), ⟨held _ rfl rest, ?_, False.elim, fun _ => rfl,
            given.jobs, given.singleJobs⟩, ?_, rfl⟩
          · simpa [Drain.inHand, JobPoint.inHand, SerialState.setJob] using history
          · simp only [workLeft, Drain.remaining, contents, List.length_cons, List.length_nil]
            omega
      | all =>
          have same : state.take .all index =
              { state.setJob index (.draining (f :: rest)) with queue := [] } := by
            simp [SerialState.take, contents]
          rw [same]
          refine ⟨.working (.draining (f :: rest)), ⟨held _ rfl [], ?_, False.elim, rfl,
            given.jobs, given.singleJobs⟩, ?_, rfl⟩
          · simpa [Drain.inHand, JobPoint.inHand, SerialState.setJob] using history
          · simp only [workLeft, Drain.remaining, contents, List.length_cons, List.length_nil]
            omega

theorem forward_next (given : Serial mode state drain) {index : Nat} {localQueue : List Task}
    (here : state.job index = .draining localQueue) :
    Forward mode state drain (state.setJob index (match localQueue with
      | [] => .checking
      | f :: rest => .running f rest)) := by
  obtain ⟨rfl, quiet, runs⟩ := given.held.job_works here rfl
  have active : (state.job index).active = true := by rw [here]; rfl
  have history := given.history
  have all : mode = .all := given.fits
  subst all
  cases localQueue with
  | nil =>
      refine ⟨.working .checking, ⟨.working index _ (quiet.set_job active _)
        (Function.update_self ..) rfl runs, history, False.elim, trivial, given.jobs,
        given.singleJobs⟩, ?_, rfl⟩
      simp [workLeft, Drain.remaining, SerialState.setJob]
  | cons f rest =>
      refine ⟨.working (.running f rest), ⟨.working index _ (quiet.set_job active _)
        (Function.update_self ..) rfl runs, history, False.elim, nofun, given.jobs,
        given.singleJobs⟩, ?_, rfl⟩
      simp only [workLeft, Drain.remaining, SerialState.setJob, List.length_cons]
      omega

theorem forward_finish (given : Serial mode state drain) {index : Nat} {f : Task}
    {localQueue : List Task} (here : state.job index = .running f localQueue) :
    Forward mode state drain { state.setJob index (afterTask mode localQueue) with
      finished := state.finished ++ [f] } := by
  obtain ⟨rfl, quiet, runs⟩ := given.held.job_works here rfl
  have active : (state.job index).active = true := by rw [here]; rfl
  have held (point : JobPoint Task) (works : point.active = true) :
      HeldBy { state.setJob index point with finished := state.finished ++ [f] }
        (.working point) := by
    have changed := quiet.set_job active point
    exact .working index point ⟨changed.callers, changed.jobs, changed.fresh⟩
      (Function.update_self ..) works runs
  have history : state.enqueued =
      state.finished ++ [f] ++ localQueue ++ state.queue := by
    simpa [Drain.inHand, JobPoint.inHand] using given.history
  have jobs : state.submitted ≤ (state.finished ++ [f]).length := by
    simpa [Drain.openJobs] using given.jobs
  cases mode with
  | single =>
      have alone : localQueue = [] := given.fits rfl
      subst alone
      refine ⟨.working .checking, ⟨held _ rfl, ?_, False.elim, trivial, jobs, ?_⟩, ?_, rfl⟩
      · simpa [Drain.inHand, JobPoint.inHand, SerialState.setJob] using history
      · simpa [Drain.openJobs, SerialState.setJob] using given.singleJobs
      · simp [workLeft, Drain.remaining, SerialState.setJob]
  | all =>
      refine ⟨.working (.draining localQueue), ⟨held _ rfl, ?_, False.elim, rfl,
        Nat.le_trans jobs (Nat.le_add_right _ _), nofun⟩, ?_, rfl⟩
      · simpa [Drain.inHand, JobPoint.inHand, SerialState.setJob] using history
      · simp [workLeft, Drain.remaining, SerialState.setJob]

theorem forward_check (given : Serial mode state drain) {index : Nat}
    (here : state.job index = .checking) :
    Forward mode state drain (state.checkEmpty index) := by
  obtain ⟨rfl, quiet, runs⟩ := given.held.job_works here rfl
  have active : (state.job index).active = true := by rw [here]; rfl
  cases contents : state.queue with
  | nil =>
      have same : state.checkEmpty index =
          { state.setJob index .returned with isRunning := false } := by
        simp [SerialState.checkEmpty, contents]
      rw [same]
      have ended := quiet.end_job active
      refine ⟨.idle, ⟨.idle ⟨ended.callers, ended.jobs, ended.fresh⟩ rfl contents,
        given.history, False.elim, trivial, given.jobs, given.singleJobs⟩, ?_, rfl⟩
      simp [workLeft, Drain.remaining, SerialState.setJob]
  | cons f rest =>
      have same : state.checkEmpty index = state.setJob index .resubmitting := by
        simp [SerialState.checkEmpty, contents]
      rw [same]
      refine ⟨.working .resubmitting, ⟨.working index _ (quiet.set_job active _)
        (Function.update_self ..) rfl runs, given.history, fun _ => ?_, trivial, given.jobs,
        given.singleJobs⟩, ?_, rfl⟩
      · simp [SerialState.setJob, contents]
      · simp [workLeft, Drain.remaining, SerialState.setJob]

theorem forward_resubmit (given : Serial mode state drain) {index : Nat}
    (here : state.job index = .resubmitting) :
    Forward mode state drain (state.setJob index .returned).submit := by
  obtain ⟨rfl, quiet, runs⟩ := given.held.job_works here rfl
  have active : (state.job index).active = true := by rw [here]; rfl
  refine ⟨.working .pending, ⟨?_, given.history, fun _ => given.expected trivial, trivial,
    ?_, ?_⟩, ?_, rfl⟩
  · exact .working state.submitted .pending (quiet.end_job active).submit
      (Function.update_self ..) rfl runs
  · exact Nat.succ_le_succ given.jobs
  · intro single
    exact congrArg Nat.succ (given.singleJobs single)
  · simp [workLeft, Drain.remaining, SerialState.submit, SerialState.setJob]

variable [DecidableEq Caller]

theorem OthersQuiet.end_call {caller : Caller}
    (quiet : OthersQuiet state (some (.inl caller))) :
    OthersQuiet (state.setCaller caller .outside) none := by
  constructor
  · intro other _
    by_cases same : other = caller
    · subst same
      simp [SerialState.setCaller]
    · have outside := quiet.callers other (by simpa using Ne.symm same)
      simpa [SerialState.setCaller, same] using outside
  · exact fun index _ => quiet.jobs index (by simp)
  · exact quiet.fresh

theorem serial_enqueue (given : Serial mode state drain) {caller : Caller}
    (outside : state.caller caller = .outside) (f : Task) :
    ∃ after, Serial mode (state.enqueue caller f) after := by
  have keepsOutside : Function.update state.caller caller .outside = state.caller := by
    rw [← outside, Function.update_eq_self]
  have history : state.enqueued ++ [f] =
      state.finished ++ drain.inHand ++ (state.queue ++ [f]) := by
    rw [given.history, List.append_assoc]
  have nonempty : state.queue ++ [f] ≠ [] := by simp
  cases held : given.held with
  | idle quiet stopped empty =>
      refine ⟨.kicking, ?_, history, fun _ => nonempty, trivial, given.jobs, given.singleJobs⟩
      refine .kicking caller ⟨?_, fun index _ => quiet.jobs index (by simp), quiet.fresh⟩ ?_ rfl
      · intro other different
        have unequal : other ≠ caller := fun same => different (by rw [same])
        simpa [SerialState.enqueue, SerialState.setCaller, unequal] using
          quiet.callers other (by simp)
      · simp [SerialState.enqueue, SerialState.setCaller, stopped]
  | kicking holder quiet here runs =>
      have same : state.enqueue caller f =
          { state with
            queue := state.queue ++ [f]
            isRunning := true
            enqueued := state.enqueued ++ [f] } := by
        simp [SerialState.enqueue, SerialState.setCaller, runs, keepsOutside]
      rw [same]
      exact ⟨.kicking, .kicking holder ⟨quiet.callers, quiet.jobs, quiet.fresh⟩ here rfl,
        history, fun _ => nonempty, trivial, given.jobs, given.singleJobs⟩
  | working index point quiet here active runs =>
      have same : state.enqueue caller f =
          { state with
            queue := state.queue ++ [f]
            isRunning := true
            enqueued := state.enqueued ++ [f] } := by
        simp [SerialState.enqueue, SerialState.setCaller, runs, keepsOutside]
      rw [same]
      exact ⟨.working point,
        .working index point ⟨quiet.callers, quiet.jobs, quiet.fresh⟩ here active rfl,
        history, fun _ => nonempty, given.fits, given.jobs, given.singleJobs⟩

theorem forward_kick (given : Serial mode state drain) {caller : Caller}
    (kicks : state.caller caller = .kicking) :
    Forward mode state drain (state.setCaller caller .outside).submit := by
  obtain ⟨rfl, quiet, runs⟩ := given.held.caller_kicks kicks
  refine ⟨.working .pending, ⟨?_, given.history, fun _ => given.expected trivial, trivial,
    ?_, ?_⟩, ?_, rfl⟩
  · exact .working state.submitted .pending quiet.end_call.submit
      (Function.update_self ..) rfl runs
  · exact Nat.succ_le_succ given.jobs
  · intro single
    exact congrArg Nat.succ (given.singleJobs single)
  · simp [workLeft, Drain.remaining, SerialState.submit, SerialState.setCaller,
      SerialState.setJob]

theorem forward_step (given : Serial mode state drain) {label : SerialLabel Caller Task}
    {next : SerialState Caller Task} (allowed : NoNewCall label state)
    (taken : serialStep mode label state = some next) : Forward mode state drain next := by
  cases label with
  | enqueue => exact allowed.elim
  | kick caller =>
      cases point : state.caller caller <;> simp only [serialStep, point, reduceCtorEq] at taken
      cases taken
      exact forward_kick given point
  | take index =>
      cases point : state.job index <;> simp only [serialStep, point, reduceCtorEq] at taken
      cases taken
      exact forward_take given point
  | next index =>
      cases point : state.job index <;> simp only [serialStep, point, reduceCtorEq] at taken
      case draining localQueue =>
        cases localQueue <;> cases taken <;> exact forward_next given point
  | finish index =>
      cases point : state.job index <;> simp only [serialStep, point, reduceCtorEq] at taken
      cases taken
      exact forward_finish given point
  | check index =>
      cases point : state.job index <;> simp only [serialStep, point, reduceCtorEq] at taken
      cases taken
      exact forward_check given point
  | resubmit index =>
      cases point : state.job index <;> simp only [serialStep, point, reduceCtorEq] at taken
      cases taken
      exact forward_resubmit given point

theorem serial_step (given : Serial mode state drain) {label : SerialLabel Caller Task}
    {next : SerialState Caller Task} (taken : serialStep mode label state = some next) :
    ∃ after, Serial mode next after := by
  by_cases allowed : NoNewCall label state
  · obtain ⟨after, serial, _⟩ := forward_step given allowed taken
    exact ⟨after, serial⟩
  · cases label with
    | enqueue caller f =>
        cases point : state.caller caller <;>
          simp only [serialStep, point, reduceCtorEq] at taken
        cases taken
        exact serial_enqueue given point f
    | _ => exact absurd trivial allowed

theorem reachable_serial (reached : Reachable (serialSystem Caller Task mode) anyStep state) :
    ∃ drain, Serial mode state drain := by
  apply reached.keeps
  · rintro _ rfl
    exact ⟨.idle, serial_start⟩
  · rintro label before next ⟨drain, given⟩ _ taken
    exact serial_step given taken

/-- In every order of the steps, the tasks of a serial queue run one at a time, each after
those enqueued before it, and `front` is never asked of an empty deque. -/
theorem serial_tasks_in_order (mode : ScheduleMode) (state : SerialState Caller Task)
    (reached : Reachable (serialSystem Caller Task mode) anyStep state) :
    state.finished <+: state.enqueued ∧
    (∀ index, state.job index ≠ .poppedEmpty) ∧
    ∀ index f localQueue, state.job index = .running f localQueue →
      state.finished ++ [f] <+: state.enqueued ∧
      ∀ other g more, state.job other = .running g more → other = index := by
  obtain ⟨drain, given⟩ := reachable_serial reached
  have history := given.history
  refine ⟨?_, ?_, ?_⟩
  · rw [history, List.append_assoc]
    exact List.prefix_append _ _
  · intro index broken
    have fits := given.fits
    rw [given.working broken rfl] at fits
    exact fits
  · intro index f localQueue here
    rw [given.working here rfl] at history
    refine ⟨⟨localQueue ++ state.queue, ?_⟩, ?_⟩
    · rw [history]
      simp [Drain.inHand, JobPoint.inHand]
    · intro other g more there
      exact given.running_alone here there

/-- One job has taken both tasks and runs the first. -/
theorem serial_tasks_in_order_batch :
    ∃ state : SerialState Bool Nat, state.job 0 = .running 10 [20] ∧
      state.finished ++ [10] <+: state.enqueued := by
  obtain ⟨state, reached, runs⟩ : ∃ state,
      Reachable (serialSystem Bool Nat .all) anyStep state ∧ state.job 0 = .running 10 [20] :=
    schedule_reaches [.enqueue true 10, .enqueue false 20, .kick true, .take 0, .next 0]
      rfl (by decide)
  exact ⟨state, runs, ((serial_tasks_in_order .all state reached).2.2 0 10 [20] runs).1⟩

theorem settled_is_idle (given : Serial mode state drain)
    (settled : Settled (serialSystem Caller Task mode) NoNewCall state) : drain = .idle := by
  have stuck (label : SerialLabel Caller Task) (allowed : NoNewCall label state) :
      serialStep mode label state = none := settled label allowed
  cases given.held with
  | idle => rfl
  | kicking caller _ here _ =>
      have kick := stuck (.kick caller) trivial
      simp [serialStep, here] at kick
  | working index point _ here active _ =>
      exfalso
      cases point with
      | absent => cases active
      | returned => cases active
      | poppedEmpty => exact given.fits
      | pending =>
          have take := stuck (.take index) trivial
          simp [serialStep, here] at take
      | draining localQueue =>
          have next := stuck (.next index) trivial
          cases localQueue <;> simp [serialStep, here] at next
      | running f localQueue =>
          have finish := stuck (.finish index) trivial
          simp [serialStep, here] at finish
      | checking =>
          have check := stuck (.check index) trivial
          simp [serialStep, here] at check
      | resubmitting =>
          have resubmit := stuck (.resubmit index) trivial
          simp [serialStep, here] at resubmit

def StepsToRest (mode : ScheduleMode) (state : SerialState Caller Task) (amount : Nat) : Prop :=
  ∃ drain, Serial mode state drain ∧ workLeft state drain = amount

theorem drain_lowers :
    Lowers (serialSystem Caller Task mode) NoNewCall (StepsToRest mode) := by
  rintro label before next amount ⟨drain, given, rfl⟩ allowed taken
  obtain ⟨after, serial, less, _⟩ := forward_step given allowed taken
  exact ⟨workLeft next after, less, after, serial, rfl⟩

theorem run_without_calls {finish : SerialState Caller Task} (given : Serial mode state drain)
    (run : Run (serialSystem Caller Task mode) NoNewCall state finish) :
    (∃ after, Serial mode finish after) ∧ finish.enqueued = state.enqueued := by
  apply @Run.keeps _ _ _ _ (fun later => (∃ after, Serial mode later after) ∧
    later.enqueued = state.enqueued) _ _ _ run ⟨⟨drain, given⟩, rfl⟩
  rintro label before next ⟨⟨held, serial⟩, same⟩ allowed taken
  obtain ⟨after, serialNext, _, sameNext⟩ := forward_step serial allowed taken
  exact ⟨⟨after, serialNext⟩, sameNext.trans same⟩

/-- However the calls, jobs and tasks under way are interleaved, they come to an end
after a number of steps linear in the tasks that are left, and then every task has been
run and the queue has stopped: no task is left behind for want of a job. -/
theorem serial_queue_comes_to_rest (mode : ScheduleMode) (state : SerialState Caller Task)
    (reached : Reachable (serialSystem Caller Task mode) anyStep state) :
    (∀ steps finish, CountedRun (serialSystem Caller Task mode) NoNewCall steps state finish →
      steps ≤ 6 * (state.enqueued.length - state.finished.length) + 3) ∧
    ∀ finish, Run (serialSystem Caller Task mode) NoNewCall state finish →
      Settled (serialSystem Caller Task mode) NoNewCall finish →
      finish.finished = state.enqueued ∧ finish.isRunning = false := by
  obtain ⟨drain, given⟩ := reachable_serial reached
  constructor
  · intro steps finish counted
    exact Nat.le_trans (counted.bounded drain_lowers ⟨drain, given, rfl⟩) (work_left_bounded given)
  · intro finish run settled
    obtain ⟨⟨after, serial⟩, same⟩ := run_without_calls given run
    obtain rfl := settled_is_idle serial settled
    obtain ⟨_, stopped, empty⟩ := serial.held
    have history := serial.history
    rw [same, empty] at history
    exact ⟨by simpa [Drain.inHand] using history.symm, stopped⟩

/-- A second task arrives while the first one runs. -/
theorem serial_queue_comes_to_rest_late_task :
    ∃ state : SerialState Bool Nat, state.job 0 = .running 10 [] ∧ state.queue = [20] ∧
      ∀ finish, Run (serialSystem Bool Nat .single) NoNewCall state finish →
        Settled (serialSystem Bool Nat .single) NoNewCall finish →
        finish.finished = state.enqueued := by
  obtain ⟨state, reached, runs, waits⟩ : ∃ state,
      Reachable (serialSystem Bool Nat .single) anyStep state ∧
      state.job 0 = .running 10 [] ∧ state.queue = [20] :=
    schedule_reaches [.enqueue true 10, .kick true, .take 0, .enqueue false 20] rfl (by decide)
  refine ⟨state, runs, waits, fun finish run settled => ?_⟩
  exact ((serial_queue_comes_to_rest .single state reached).2 finish run settled).1

/-- The executor is given at most one job more than tasks have been finished; a queue at
rest has cost at most one job a task, and exactly one a task in single mode. -/
theorem serial_jobs_submitted (mode : ScheduleMode) (state : SerialState Caller Task)
    (reached : Reachable (serialSystem Caller Task mode) anyStep state) :
    state.submitted ≤ state.finished.length + 1 ∧
    (mode = .single → state.finished.length ≤ state.submitted) ∧
    (state.isRunning = false → state.submitted ≤ state.enqueued.length ∧
      (mode = .single → state.submitted = state.enqueued.length)) := by
  obtain ⟨drain, given⟩ := reachable_serial reached
  have atMostOne : drain.openJobs ≤ 1 := by
    unfold Drain.openJobs
    split <;> omega
  have jobs := given.jobs
  refine ⟨by omega, fun single => ?_, fun stopped => ?_⟩
  · rw [given.singleJobs single]
    exact Nat.le_add_right _ _
  · have rest := given.stopped_is_idle stopped
    subst rest
    obtain ⟨_, _, empty⟩ := given.held
    have history : state.enqueued = state.finished := by
      simpa [Drain.inHand, empty] using given.history
    rw [history]
    exact ⟨jobs, given.singleJobs⟩

theorem serial_jobs_submitted_one_task :
    ∃ state : SerialState Bool Nat, state.isRunning = false ∧ state.enqueued = [10] ∧
      state.submitted = 1 := by
  obtain ⟨state, reached, stopped, one⟩ : ∃ state,
      Reachable (serialSystem Bool Nat .single) anyStep state ∧
      state.isRunning = false ∧ state.enqueued = [10] :=
    schedule_reaches [.enqueue true 10, .kick true, .take 0, .finish 0, .check 0]
      rfl (by decide)
  have jobs := ((serial_jobs_submitted .single state reached).2.2 stopped).2 rfl
  rw [one] at jobs
  exact ⟨state, stopped, one, jobs⟩

end Schedulers.Stlab
