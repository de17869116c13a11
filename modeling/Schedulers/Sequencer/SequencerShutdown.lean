import Schedulers.Sequencer.SequencerModel

/-!
# The shutdown of the sequencer

The final `sem_post` of a service comes before the write of its abort flag. A
service that takes the final post early enough tests its flag again before the
write, reads `FALSE` and blocks in `sem_wait` for good. That is the only way to get
stuck: if no service does that, the threads can always be joined.
-/

namespace Schedulers.Sequencer

open Schedulers.TransitionSystem

set_option autoImplicit false

variable {services : Nat} {divisors : Divisors services} {sequencePeriods : Nat}

def SequencerPoint.finalPosted (service : Nat) : SequencerPoint → Prop
  | .finalPost next => service < next
  | .setAbort _ => True
  | .finished => True
  | _ => False

instance (service : Nat) : (point : SequencerPoint) → Decidable (point.finalPosted service)
  | .finalPost next => inferInstanceAs (Decidable (service < next))
  | .setAbort _ => isTrue trivial
  | .finished => isTrue trivial
  | .sleep => isFalse id
  | .count => isFalse id
  | .release _ => isFalse id
  | .test => isFalse id

def SequencerPoint.abortWritten (service : Nat) : SequencerPoint → Prop
  | .setAbort next => service < next
  | .finished => True
  | _ => False

/-- The sequencer is done and a service is blocked. -/
def Stuck (state : SequencerState services) : Prop :=
  state.sequencer = .finished ∧
    ∃ service, state.service service = .semWait ∧ state.sem service = 0

instance (state : SequencerState services) : Decidable (Stuck state) :=
  inferInstanceAs (Decidable (_ ∧ _))

/-- Every thread that `main` joins has exited. -/
def Joined (state : SequencerState services) : Prop :=
  state.sequencer = .finished ∧ ∀ service, state.service service = .finished

/-- No service that has had its final post and has none left tests its abort flag
while the flag is still `FALSE`. -/
def TestsInTime : Permission (SequencerState services) (SequencerLabel services)
  | .sequencer, _ => True
  | .service index, state =>
      state.service index = .testAbort → state.sequencer.finalPosted index.val →
        state.sem index = 0 → state.abort index = true

instance : (label : SequencerLabel services) → (state : SequencerState services) →
    Decidable (TestsInTime label state)
  | .sequencer, _ => isTrue trivial
  | .service _, _ => inferInstanceAs (Decidable (_ → _ → _ → _))

structure SequencerOnly (before after : SequencerState services) : Prop where
  service : after.service = before.service
  posted : ∀ service, before.sequencer.finalPosted service.val →
    after.sequencer.finalPosted service.val ∧ after.sem service = before.sem service

def statementsLeft (sequencePeriods : Nat) (state : SequencerState services) : Nat :=
  let shutdown := 2 * services + 4
  match state.sequencer with
  | .sleep => shutdown + (sequencePeriods - (state.seqCnt + 1)) * (services + 5) + services + 4
  | .count => shutdown + (sequencePeriods - (state.seqCnt + 1)) * (services + 5) + services + 3
  | .release next =>
      shutdown + (sequencePeriods - state.seqCnt) * (services + 5) + (services - next) + 1
  | .test => shutdown + (sequencePeriods - state.seqCnt) * (services + 5)
  | .finalPost next => services + 2 + (services - next) + 1
  | .setAbort next => (services - next) + 1
  | .finished => 0

theorem SequencerOnly.refl (state : SequencerState services) : SequencerOnly state state where
  service := rfl
  posted _ before := ⟨before, rfl⟩

theorem SequencerOnly.trans {first second third : SequencerState services}
    (early : SequencerOnly first second) (late : SequencerOnly second third) :
    SequencerOnly first third where
  service := late.service.trans early.service
  posted service before := by
    have middle := early.posted service before
    have after := late.posted service middle.1
    exact ⟨after.1, after.2.trans middle.2⟩

theorem SequencerOnly.of_unposted {before after : SequencerState services}
    (service : after.service = before.service)
    (unposted : ∀ service : Fin services, ¬before.sequencer.finalPosted service.val) :
    SequencerOnly before after where
  service := service
  posted service posted := absurd posted (unposted service)

theorem sequencer_step_only {before after : SequencerState services}
    (taken : sequencerStep divisors sequencePeriods before = some after) :
    SequencerOnly before after := by
  unfold sequencerStep at taken
  cases point : before.sequencer with
  | sleep =>
      simp only [point, Option.some.injEq] at taken
      subst taken
      exact .of_unposted rfl (by simp [SequencerPoint.finalPosted, point])
  | count =>
      simp only [point, Option.some.injEq] at taken
      subst taken
      exact .of_unposted rfl (by simp [SequencerPoint.finalPosted, point])
  | release next =>
      simp only [point] at taken
      split_ifs at taken <;> cases taken <;>
        exact .of_unposted rfl (by simp [SequencerPoint.finalPosted, point])
  | test =>
      simp only [point] at taken
      split_ifs at taken <;> cases taken <;>
        exact .of_unposted rfl (by simp [SequencerPoint.finalPosted, point])
  | finalPost next =>
      simp only [point] at taken
      split_ifs at taken with bound
      · cases taken
        refine ⟨rfl, fun service posted => ?_⟩
        rw [point] at posted
        have earlier : service.val < next := posted
        have different : service ≠ ⟨next, bound⟩ := by
          intro same
          rw [same] at earlier
          exact absurd earlier (Nat.lt_irrefl next)
        exact ⟨Nat.lt_succ_of_lt earlier, Function.update_of_ne different _ _⟩
      · cases taken
        exact ⟨rfl, fun _ _ => ⟨trivial, rfl⟩⟩
  | setAbort next =>
      simp only [point] at taken
      split_ifs at taken <;> cases taken <;> exact ⟨rfl, fun _ _ => ⟨trivial, rfl⟩⟩
  | finished => simp [point] at taken

theorem sequencer_step_progress (divisors : Divisors services) (sequencePeriods : Nat)
    {state : SequencerState services} (running : state.sequencer ≠ .finished) :
    ∃ next, sequencerStep divisors sequencePeriods state = some next ∧
      statementsLeft sequencePeriods next < statementsLeft sequencePeriods state := by
  unfold sequencerStep statementsLeft
  cases point : state.sequencer with
  | sleep => exact ⟨_, rfl, by simp⟩
  | count => exact ⟨_, rfl, by simp⟩
  | release next =>
      dsimp only
      split_ifs with bound released
      · exact ⟨_, rfl, by dsimp only [SequencerState.semPost]; omega⟩
      · exact ⟨_, rfl, by dsimp only; omega⟩
      · exact ⟨_, rfl, by dsimp only; omega⟩
  | test =>
      dsimp only
      split_ifs with again
      · refine ⟨_, rfl, ?_⟩
        simp only [Bool.and_eq_true, decide_eq_true_eq] at again
        obtain ⟨left, more⟩ : ∃ left, sequencePeriods - state.seqCnt = left + 1 :=
          ⟨sequencePeriods - state.seqCnt - 1, by omega⟩
        have next : sequencePeriods - (state.seqCnt + 1) = left := by omega
        simp only [more, next, Nat.succ_mul]
        omega
      · exact ⟨_, rfl, by dsimp only; omega⟩
  | finalPost next =>
      dsimp only
      split_ifs with bound
      · exact ⟨_, rfl, by dsimp only; omega⟩
      · exact ⟨_, rfl, by dsimp only; omega⟩
  | setAbort next =>
      dsimp only
      split_ifs with bound
      · exact ⟨_, rfl, by dsimp only; omega⟩
      · exact ⟨_, rfl, by simp⟩
  | finished => exact absurd point running

theorem sequencer_finishes
    {permitted : Permission (SequencerState services) (SequencerLabel services)}
    (allowed : ∀ state, permitted .sequencer state) (state : SequencerState services) :
    ∃ later, Run (sequencerSystem divisors sequencePeriods) permitted state later ∧
      later.sequencer = .finished ∧ SequencerOnly state later := by
  induction left : statementsLeft sequencePeriods state using Nat.strong_induction_on
    generalizing state with
  | _ left ih =>
      by_cases done : state.sequencer = .finished
      · exact ⟨state, .refl state, done, .refl state⟩
      · obtain ⟨next, taken, nearer⟩ := sequencer_step_progress divisors sequencePeriods done
        obtain ⟨later, run, finished, only⟩ := ih _ (left ▸ nearer) next rfl
        exact ⟨later, (Run.single .sequencer (allowed state) taken).trans run, finished,
          (sequencer_step_only taken).trans only⟩

structure ServiceOnly (index : Fin services) (before after : SequencerState services) : Prop where
  sequencer : after.sequencer = before.sequencer
  abort : after.abort = before.abort
  others : ∀ other, other ≠ index →
    after.service other = before.service other ∧ after.sem other = before.sem other

theorem ServiceOnly.refl (index : Fin services) (state : SequencerState services) :
    ServiceOnly index state state where
  sequencer := rfl
  abort := rfl
  others _ _ := ⟨rfl, rfl⟩

theorem ServiceOnly.trans {index : Fin services} {first second third : SequencerState services}
    (early : ServiceOnly index first second) (late : ServiceOnly index second third) :
    ServiceOnly index first third where
  sequencer := late.sequencer.trans early.sequencer
  abort := late.abort.trans early.abort
  others other different :=
    ⟨(late.others other different).1.trans (early.others other different).1,
      (late.others other different).2.trans (early.others other different).2⟩

theorem service_step_cases {index : Fin services} {before after : SequencerState services}
    (taken : serviceStep index before = some after) :
    (before.service index = .testAbort ∧
      after = before.goTo index (if before.abort index then .finished else .semWait)) ∨
    (before.service index = .semWait ∧ 0 < before.sem index ∧
      after = { before.goTo index .count with
        sem := Function.update before.sem index (before.sem index - 1) }) ∨
    (before.service index = .count ∧
      after = { before.goTo index .testAbort with
        serviceCnt := Function.update before.serviceCnt index (before.serviceCnt index + 1) }) := by
  unfold serviceStep at taken
  cases point : before.service index with
  | testAbort =>
      simp only [point] at taken
      left
      split_ifs at taken with aborted <;> cases taken <;> simp [aborted]
  | semWait =>
      simp only [point] at taken
      split_ifs at taken with released
      cases taken
      exact .inr (.inl ⟨rfl, released, rfl⟩)
  | count =>
      simp only [point] at taken
      cases taken
      exact .inr (.inr ⟨rfl, rfl⟩)
  | finished => simp [point] at taken

theorem go_to_only (index : Fin services) (state : SequencerState services)
    (point : ServicePoint) : ServiceOnly index state (state.goTo index point) where
  sequencer := rfl
  abort := rfl
  others _ different := ⟨Function.update_of_ne different _ _, rfl⟩

theorem service_step_only {index : Fin services} {before after : SequencerState services}
    (taken : serviceStep index before = some after) : ServiceOnly index before after := by
  rcases service_step_cases taken with ⟨_, rfl⟩ | ⟨_, _, rfl⟩ | ⟨_, rfl⟩
  · exact go_to_only index before _
  · refine ⟨rfl, rfl, fun other different => ⟨?_, ?_⟩⟩
    · exact Function.update_of_ne different _ _
    · exact Function.update_of_ne different _ _
  · refine ⟨rfl, rfl, fun other different => ⟨?_, rfl⟩⟩
    exact Function.update_of_ne different _ _

/-- A flag that has been written is set, and a service that waits after its final
post still has it. -/
structure Awake (state : SequencerState services) : Prop where
  aborted : ∀ service, state.sequencer.abortWritten service.val → state.abort service = true
  fueled : ∀ service, state.sequencer.finalPosted service.val →
    state.service service = .semWait → 0 < state.sem service

theorem awake_sequencer_step {before after : SequencerState services} (given : Awake before)
    (taken : sequencerStep divisors sequencePeriods before = some after) : Awake after := by
  unfold sequencerStep at taken
  cases point : before.sequencer with
  | sleep =>
      simp only [point, Option.some.injEq] at taken
      subst taken
      constructor <;> simp [SequencerPoint.abortWritten, SequencerPoint.finalPosted]
  | count =>
      simp only [point, Option.some.injEq] at taken
      subst taken
      constructor <;> simp [SequencerPoint.abortWritten, SequencerPoint.finalPosted]
  | release next =>
      simp only [point] at taken
      split_ifs at taken <;> cases taken <;> constructor <;>
        simp [SequencerPoint.abortWritten, SequencerPoint.finalPosted]
  | test =>
      simp only [point] at taken
      split_ifs at taken <;> cases taken <;> constructor <;>
        simp [SequencerPoint.abortWritten, SequencerPoint.finalPosted]
  | finalPost next =>
      simp only [point] at taken
      split_ifs at taken with bound
      · cases taken
        refine ⟨by simp [SequencerPoint.abortWritten], fun service posted waits => ?_⟩
        have upTo : service.val < next + 1 := posted
        by_cases same : service = ⟨next, bound⟩
        · subst same
          simp [SequencerState.semPost]
        · have earlier : before.sequencer.finalPosted service.val := by
            rw [point]
            have different : service.val ≠ next := fun equal => same (Fin.ext equal)
            exact Nat.lt_of_le_of_ne (Nat.lt_succ_iff.mp upTo) different
          simp only [SequencerState.semPost, Function.update_of_ne same]
          exact given.fueled service earlier waits
      · cases taken
        refine ⟨by simp [SequencerPoint.abortWritten], fun service _ waits => ?_⟩
        apply given.fueled service _ waits
        rw [point]
        exact Nat.lt_of_lt_of_le service.isLt (Nat.not_lt.mp bound)
  | setAbort next =>
      have posted (service : Fin services) : before.sequencer.finalPosted service.val := by
        rw [point]
        trivial
      simp only [point] at taken
      split_ifs at taken with bound
      · cases taken
        refine ⟨fun service written => ?_, fun service _ => given.fueled service (posted service)⟩
        have upTo : service.val < next + 1 := written
        by_cases same : service = ⟨next, bound⟩
        · subst same
          simp
        · simp only [Function.update_of_ne same]
          apply given.aborted service
          rw [point]
          have different : service.val ≠ next := fun equal => same (Fin.ext equal)
          exact Nat.lt_of_le_of_ne (Nat.lt_succ_iff.mp upTo) different
      · cases taken
        refine ⟨fun service _ => ?_, fun service _ => given.fueled service (posted service)⟩
        apply given.aborted service
        rw [point]
        exact Nat.lt_of_lt_of_le service.isLt (Nat.not_lt.mp bound)
  | finished => simp [point] at taken

theorem awake_service_step {index : Fin services} {before after : SequencerState services}
    (given : Awake before) (inTime : TestsInTime (.service index) before)
    (taken : serviceStep index before = some after) : Awake after := by
  have only := service_step_only taken
  refine ⟨fun service written => ?_, fun service posted waits => ?_⟩
  · rw [only.abort]
    rw [only.sequencer] at written
    exact given.aborted service written
  · rw [only.sequencer] at posted
    by_cases same : service = index
    · subst same
      rcases service_step_cases taken with ⟨tests, rfl⟩ | ⟨_, _, rfl⟩ | ⟨_, rfl⟩
      · by_cases aborted : before.abort service = true
        · simp [SequencerState.goTo, aborted] at waits
        · by_contra empty
          exact aborted (inTime tests posted (Nat.eq_zero_of_not_pos empty))
      · simp [SequencerState.goTo] at waits
      · simp [SequencerState.goTo] at waits
    · rw [(only.others service same).1] at waits
      rw [(only.others service same).2]
      exact given.fueled service posted waits

theorem awake_reachable {state : SequencerState services}
    (reached : Reachable (sequencerSystem divisors sequencePeriods) TestsInTime state) :
    Awake state := by
  apply reached.keeps
  · intro start ⟨abortTest, same⟩
    subst same
    constructor <;>
      simp [SequencerState.start, SequencerPoint.abortWritten, SequencerPoint.finalPosted]
  · intro label before after given inTime taken
    cases label with
    | sequencer => exact awake_sequencer_step given taken
    | service index => exact awake_service_step given inTime taken

/-- The sequencer is done, all flags are set and whoever waits can go on. -/
structure Leaving (state : SequencerState services) : Prop where
  finished : state.sequencer = .finished
  aborted : ∀ service, state.abort service = true
  fueled : ∀ service, state.service service = .semWait → 0 < state.sem service

theorem Awake.leaving {state : SequencerState services} (given : Awake state)
    (finished : state.sequencer = .finished) : Leaving state where
  finished := finished
  aborted service := given.aborted service (by rw [finished]; trivial)
  fueled service := given.fueled service (by rw [finished]; trivial)

theorem Leaving.allows {state : SequencerState services} (given : Leaving state)
    (index : Fin services) : TestsInTime (.service index) state :=
  fun _ _ _ => given.aborted index

theorem Leaving.step {index : Fin services} {before after : SequencerState services}
    (given : Leaving before) (only : ServiceOnly index before after)
    (own : after.service index ≠ .semWait) : Leaving after where
  finished := only.sequencer.trans given.finished
  aborted service := by
    rw [only.abort]
    exact given.aborted service
  fueled service waits := by
    by_cases same : service = index
    · subst same
      exact absurd waits own
    · rw [(only.others service same).1] at waits
      rw [(only.others service same).2]
      exact given.fueled service waits

def Exits (divisors : Divisors services) (sequencePeriods : Nat) (index : Fin services)
    (state : SequencerState services) : Prop :=
  ∃ later, Run (sequencerSystem divisors sequencePeriods) TestsInTime state later ∧
    ServiceOnly index state later ∧ later.service index = .finished

theorem Exits.before {index : Fin services} {state next : SequencerState services}
    (given : Leaving state) (taken : serviceStep index state = some next)
    (rest : Exits divisors sequencePeriods index next) :
    Exits divisors sequencePeriods index state := by
  obtain ⟨later, run, only, finished⟩ := rest
  exact ⟨later, (Run.single (.service index) (given.allows index) taken).trans run,
    (service_step_only taken).trans only, finished⟩

theorem exits_from_test {index : Fin services} {state : SequencerState services}
    (given : Leaving state) (tests : state.service index = .testAbort) :
    Exits divisors sequencePeriods index state := by
  have taken : serviceStep index state = some (state.goTo index .finished) := by
    simp [serviceStep, tests, given.aborted index]
  apply Exits.before given taken
  exact ⟨_, .refl _, .refl index _, by simp [SequencerState.goTo]⟩

theorem exits_from_count {index : Fin services} {state : SequencerState services}
    (given : Leaving state) (counts : state.service index = .count) :
    Exits divisors sequencePeriods index state := by
  have taken : serviceStep index state = some
      { state.goTo index .testAbort with
        serviceCnt := Function.update state.serviceCnt index (state.serviceCnt index + 1) } := by
    simp [serviceStep, counts]
  apply Exits.before given taken
  apply exits_from_test (given.step (service_step_only taken) (by simp [SequencerState.goTo]))
  simp [SequencerState.goTo]

theorem exits_from_wait {index : Fin services} {state : SequencerState services}
    (given : Leaving state) (waits : state.service index = .semWait) :
    Exits divisors sequencePeriods index state := by
  have taken : serviceStep index state = some
      { state.goTo index .count with
        sem := Function.update state.sem index (state.sem index - 1) } := by
    simp [serviceStep, waits, given.fueled index waits]
  apply Exits.before given taken
  apply exits_from_count (given.step (service_step_only taken) (by simp [SequencerState.goTo]))
  simp [SequencerState.goTo]

theorem service_exits (index : Fin services) {state : SequencerState services}
    (given : Leaving state) : Exits divisors sequencePeriods index state := by
  cases point : state.service index with
  | testAbort => exact exits_from_test given point
  | semWait => exact exits_from_wait given point
  | count => exact exits_from_count given point
  | finished => exact ⟨state, .refl state, .refl index state, point⟩

theorem services_exit (indices : List (Fin services)) {state : SequencerState services}
    (given : Leaving state) :
    ∃ later, Run (sequencerSystem divisors sequencePeriods) TestsInTime state later ∧
      Leaving later ∧ (∀ index ∈ indices, later.service index = .finished) ∧
      ∀ index, state.service index = .finished → later.service index = .finished := by
  induction indices generalizing state with
  | nil => exact ⟨state, .refl state, given, by simp, fun _ finished => finished⟩
  | cons index indices ih =>
      obtain ⟨middle, first, only, done⟩ := service_exits index given
      have leaving := given.step only (by simp [done])
      obtain ⟨later, second, still, exited, kept⟩ := ih leaving
      refine ⟨later, first.trans second, still, ?_, fun other finished => kept other ?_⟩
      · intro other member
        rcases List.mem_cons.mp member with rfl | inside
        · exact kept other done
        · exact exited other inside
      · by_cases same : other = index
        · rw [same]
          exact done
        · rw [(only.others other same).1]
          exact finished

theorem joins_complete {state : SequencerState services} (given : Awake state) :
    ∃ later, Run (sequencerSystem divisors sequencePeriods) TestsInTime state later ∧
      Joined later := by
  obtain ⟨middle, first, finished, _⟩ : ∃ later,
      Run (sequencerSystem divisors sequencePeriods) TestsInTime state later ∧
        later.sequencer = .finished ∧ SequencerOnly state later :=
    sequencer_finishes (fun _ => trivial) state
  have awake : Awake middle := by
    apply first.keeps _ given
    intro label before after holds inTime taken
    cases label with
    | sequencer => exact awake_sequencer_step holds taken
    | service index => exact awake_service_step holds inTime taken
  obtain ⟨later, second, leaving, exited, _⟩ := services_exit (List.finRange services)
    (awake.leaving finished)
  exact ⟨later, first.trans second, leaving.finished, fun index =>
    exited index (List.mem_finRange index)⟩

theorem late_test_gets_stuck {index : Fin services} {before after : SequencerState services}
    (taken : serviceStep index before = some after)
    (late : ¬TestsInTime (.service index) before) :
    ∃ later, Run (sequencerSystem divisors sequencePeriods) anyStep after later ∧ Stuck later := by
  simp only [TestsInTime, Classical.not_imp] at late
  obtain ⟨tests, posted, empty, unset⟩ := late
  have only := service_step_only taken
  have blocked : after.service index = .semWait ∧ after.sem index = 0 := by
    rcases service_step_cases taken with ⟨_, rfl⟩ | ⟨waits, _⟩ | ⟨counts, _⟩
    · exact ⟨by simp [SequencerState.goTo, unset], empty⟩
    · rw [tests] at waits
      cases waits
    · rw [tests] at counts
      cases counts
  obtain ⟨later, run, finished, rest⟩ : ∃ later,
      Run (sequencerSystem divisors sequencePeriods) anyStep after later ∧
        later.sequencer = .finished ∧ SequencerOnly after later :=
    sequencer_finishes (fun _ => trivial) after
  refine ⟨later, run, finished, index, ?_, ?_⟩
  · rw [rest.service]
    exact blocked.1
  · rw [(rest.posted index (by rw [only.sequencer]; exact posted)).2]
    exact blocked.2

/-- In every run in which each service tests its flag in time, no service is ever
stuck and all threads can still be joined; and from every step that does not meet
this condition a run goes on to a stuck service. -/
theorem shutdown_leaves_no_service_stuck (divisors : Divisors services) (sequencePeriods : Nat)
    (state : SequencerState services)
    (reached : Reachable (sequencerSystem divisors sequencePeriods) TestsInTime state) :
    ¬Stuck state ∧
    (∃ later, Run (sequencerSystem divisors sequencePeriods) TestsInTime state later ∧
      Joined later) ∧
    ∀ label next, (sequencerSystem divisors sequencePeriods).step label state = some next →
      ¬TestsInTime label state →
      ∃ later, Run (sequencerSystem divisors sequencePeriods) anyStep next later ∧
        Stuck later := by
  have awake := awake_reachable reached
  refine ⟨?_, joins_complete awake, ?_⟩
  · intro ⟨finished, index, waits, empty⟩
    have fuel := (awake.leaving finished).fueled index waits
    omega
  · intro label next taken late
    cases label with
    | sequencer => exact absurd trivial late
    | service index => exact late_test_gets_stuck taken late

/-- `Service_1` waits when the shutdown begins; the others have not started. -/
theorem shutdown_leaves_no_service_stuck_one_waiting :
    ∃ state : SequencerState 7, state.sequencer = .finished ∧ state.service 0 = .semWait ∧
      ¬Stuck state := by
  let labels : List (SequencerLabel 7) := .service 0 :: List.replicate 27 .sequencer
  obtain ⟨state, reached, finished, waiting⟩ : ∃ state,
      Reachable (sequencerSystem seqgen 1) TestsInTime state ∧
      state.sequencer = .finished ∧ state.service 0 = .semWait :=
    schedule_reaches labels ⟨false, rfl⟩ (by decide)
  exact ⟨state, finished, waiting, (shutdown_leaves_no_service_stuck seqgen 1 state reached).1⟩

/-- `seqgen.c` with one sequence period: `Service_1` takes its final post and tests
its flag before the sequencer writes it. -/
theorem final_post_taken_before_abort_gets_stuck :
    ¬∀ state, Reachable (sequencerSystem seqgen 1) anyStep state → ¬Stuck state := by
  intro always
  let labels : List (SequencerLabel 7) := List.replicate 12 .sequencer ++
    List.replicate 4 (.service 0) ++ List.replicate 15 .sequencer
  obtain ⟨state, reached, stuck⟩ : ∃ state,
      Reachable (sequencerSystem seqgen 1) anyStep state ∧ Stuck state :=
    schedule_reaches labels ⟨false, rfl⟩ (by decide)
  exact always state reached stuck

end Schedulers.Sequencer
