import Schedulers.Sequencer.SequencerShutdown

/-!
# The releases of the sequencer

Every `sem_post` of a service is either taken by a completed `sem_wait` or still in
the semaphore, so the two together are what the sequencer has posted: one for each
multiple of the divisor it has counted, and one at shutdown.
-/

namespace Schedulers.Sequencer

open Schedulers.TransitionSystem

set_option autoImplicit false

variable {services : Nat} {divisors : Divisors services} {sequencePeriods : Nat}

/-- Completed `sem_wait`s: the one in hand is counted by the service's next statement. -/
def SequencerState.waited (state : SequencerState services) (service : Fin services) : Nat :=
  state.serviceCnt service + if state.service service = .count then 1 else 0

/-- The sequencer is between the last conditional `sem_post` of a cycle and the
increment of `seqCnt` in the next. -/
def SequencerPoint.betweenCycles (services : Nat) : SequencerPoint → Prop
  | .sleep => True
  | .count => True
  | .release next => services ≤ next
  | .test => True
  | _ => False

def posts (divisor service seqCnt : Nat) : SequencerPoint → Nat
  | .sleep => seqCnt / divisor
  | .count => seqCnt / divisor
  | .release next => if service < next then seqCnt / divisor else (seqCnt - 1) / divisor
  | .test => seqCnt / divisor
  | .finalPost next => if service < next then seqCnt / divisor + 1 else seqCnt / divisor
  | .setAbort _ => seqCnt / divisor + 1
  | .finished => seqCnt / divisor + 1

def SequencerPoint.cycleBound (sequencePeriods seqCnt : Nat) : SequencerPoint → Prop
  | .sleep => seqCnt < sequencePeriods
  | .count => seqCnt < sequencePeriods
  | .release _ => 0 < seqCnt ∧ seqCnt ≤ sequencePeriods
  | .test => 0 < seqCnt ∧ seqCnt ≤ sequencePeriods
  | .finalPost _ => seqCnt = sequencePeriods
  | .setAbort _ => seqCnt = sequencePeriods
  | .finished => seqCnt = sequencePeriods

structure Released (divisors : Divisors services) (sequencePeriods : Nat)
    (state : SequencerState services) : Prop where
  running : state.abortTest = false
  cycles : state.sequencer.cycleBound sequencePeriods state.seqCnt
  counted : ∀ service divisor, divisors service = some divisor →
    state.waited service + state.sem service =
      posts divisor service.val state.seqCnt state.sequencer

theorem posts_between_cycles {divisor seqCnt : Nat} {point : SequencerPoint}
    (between : point.betweenCycles services) (service : Fin services) :
    posts divisor service.val seqCnt point = seqCnt / divisor := by
  cases point with
  | sleep => rfl
  | count => rfl
  | release next => exact if_pos (Nat.lt_of_lt_of_le service.isLt between)
  | test => rfl
  | finalPost => exact between.elim
  | setAbort => exact between.elim
  | finished => exact between.elim

theorem posts_final {divisor service seqCnt : Nat} {point : SequencerPoint}
    (posted : point.finalPosted service) :
    posts divisor service seqCnt point = seqCnt / divisor + 1 := by
  cases point with
  | sleep => exact posted.elim
  | count => exact posted.elim
  | release => exact posted.elim
  | test => exact posted.elim
  | finalPost next => exact if_pos posted
  | setAbort => rfl
  | finished => rfl

theorem posts_at_most (divisor service seqCnt : Nat) (point : SequencerPoint) :
    posts divisor service seqCnt point ≤ seqCnt / divisor + 1 := by
  have previous : (seqCnt - 1) / divisor ≤ seqCnt / divisor :=
    Nat.div_le_div_right (Nat.sub_le seqCnt 1)
  cases point with
  | sleep => exact Nat.le_succ _
  | count => exact Nat.le_succ _
  | release next =>
      dsimp only [posts]
      split_ifs <;> omega
  | test => exact Nat.le_succ _
  | finalPost next =>
      dsimp only [posts]
      split_ifs <;> omega
  | setAbort => exact Nat.le_refl _
  | finished => exact Nat.le_refl _

theorem SequencerPoint.cycleBound.le {seqCnt : Nat} {point : SequencerPoint}
    (bound : point.cycleBound sequencePeriods seqCnt) : seqCnt ≤ sequencePeriods := by
  cases point with
  | sleep => exact Nat.le_of_lt bound
  | count => exact Nat.le_of_lt bound
  | release => exact bound.2
  | test => exact bound.2
  | finalPost => exact Nat.le_of_eq bound
  | setAbort => exact Nat.le_of_eq bound
  | finished => exact Nat.le_of_eq bound

theorem SequencerPoint.cycleBound.of_final_posted {service seqCnt : Nat} {point : SequencerPoint}
    (bound : point.cycleBound sequencePeriods seqCnt) (posted : point.finalPosted service) :
    seqCnt = sequencePeriods := by
  cases point with
  | sleep => exact posted.elim
  | count => exact posted.elim
  | release => exact posted.elim
  | test => exact posted.elim
  | finalPost => exact bound
  | setAbort => exact bound
  | finished => exact bound

theorem posts_release {seqCnt : Nat} (positive : 0 < seqCnt) (divisor service next : Nat) :
    posts divisor service seqCnt (.release (next + 1)) =
      posts divisor service seqCnt (.release next) +
        if service = next ∧ seqCnt % divisor = 0 then 1 else 0 := by
  obtain ⟨previous, rfl⟩ : ∃ previous, seqCnt = previous + 1 := ⟨seqCnt - 1, by omega⟩
  dsimp only [posts]
  by_cases same : service = next
  · subst same
    by_cases multiple : (previous + 1) % divisor = 0
    · simp [multiple, Nat.succ_div_of_mod_eq_zero multiple]
    · simp [multiple, Nat.succ_div_of_mod_ne_zero multiple]
  · have sides : service < next + 1 ↔ service < next := by omega
    simp [same, sides]

theorem posts_final_post (divisor service seqCnt next : Nat) :
    posts divisor service seqCnt (.finalPost (next + 1)) =
      posts divisor service seqCnt (.finalPost next) + if service = next then 1 else 0 := by
  dsimp only [posts]
  split_ifs <;> omega

theorem sem_post_counts (state : SequencerState services) (service target : Fin services) :
    (state.semPost target).sem service =
      state.sem service + if service.val = target.val then 1 else 0 := by
  by_cases same : service = target
  · subst same
    simp [SequencerState.semPost]
  · have other : service.val ≠ target.val := fun equal => same (Fin.ext equal)
    simp [SequencerState.semPost, same, other]

theorem released_at_start (positive : 0 < sequencePeriods) :
    Released divisors sequencePeriods (.start services false) where
  running := rfl
  cycles := positive
  counted service divisor _ := by simp [SequencerState.waited, SequencerState.start, posts]

theorem released_release {before after : SequencerState services} {next : Nat}
    (given : Released divisors sequencePeriods before) (point : before.sequencer = .release next)
    (taken : sequencerStep divisors sequencePeriods before = some after) :
    Released divisors sequencePeriods after := by
  have bounds := given.cycles
  have counted := given.counted
  rw [point] at bounds counted
  simp only [sequencerStep, point] at taken
  split_ifs at taken with inside due
  · cases taken
    refine ⟨given.running, bounds, fun service divisor divides => ?_⟩
    show before.waited service + (before.semPost ⟨next, inside⟩).sem service =
      posts divisor service.val before.seqCnt (.release (next + 1))
    rw [posts_release bounds.1, ← counted service divisor divides, sem_post_counts]
    by_cases same : service.val = next
    · have multiple : before.seqCnt % divisor = 0 := by
        obtain rfl : service = ⟨next, inside⟩ := Fin.ext same
        simpa [releases, divides] using due
      simp only [same, multiple, and_self, Nat.add_assoc]
    · simp only [same, false_and, Nat.add_assoc]
  · cases taken
    refine ⟨given.running, bounds, fun service divisor divides => ?_⟩
    have unposted : ¬(service.val = next ∧ before.seqCnt % divisor = 0) := by
      intro ⟨same, multiple⟩
      obtain rfl : service = ⟨next, inside⟩ := Fin.ext same
      simp [releases, divides, multiple] at due
    show before.waited service + before.sem service =
      posts divisor service.val before.seqCnt (.release (next + 1))
    rw [posts_release bounds.1, ← counted service divisor divides, if_neg unposted, Nat.add_zero]
  · cases taken
    refine ⟨given.running, bounds, fun service divisor divides => ?_⟩
    have between : (SequencerPoint.release next).betweenCycles services := Nat.not_lt.mp inside
    have sofar := counted service divisor divides
    rw [posts_between_cycles between service] at sofar
    exact sofar

theorem released_sequencer_step {before after : SequencerState services}
    (given : Released divisors sequencePeriods before)
    (taken : sequencerStep divisors sequencePeriods before = some after) :
    Released divisors sequencePeriods after := by
  have bounds := given.cycles
  have counted := given.counted
  cases point : before.sequencer with
  | sleep =>
      rw [point] at bounds counted
      simp only [sequencerStep, point, Option.some.injEq] at taken
      subst taken
      exact ⟨given.running, bounds, counted⟩
  | count =>
      rw [point] at bounds counted
      simp only [sequencerStep, point, Option.some.injEq] at taken
      subst taken
      -- no post of the new cycle has been executed yet
      exact ⟨given.running, ⟨Nat.succ_pos _, bounds⟩, counted⟩
  | release next => exact released_release given point taken
  | test =>
      rw [point] at bounds counted
      simp only [sequencerStep, point, given.running] at taken
      split_ifs at taken with again
      · cases taken
        simp only [Bool.not_false, Bool.true_and, decide_eq_true_eq] at again
        exact ⟨rfl, again, counted⟩
      · cases taken
        simp only [Bool.not_false, Bool.true_and, decide_eq_true_eq] at again
        exact ⟨rfl, Nat.le_antisymm bounds.2 (Nat.not_lt.mp again), counted⟩
  | finalPost next =>
      rw [point] at bounds counted
      simp only [sequencerStep, point] at taken
      split_ifs at taken with inside
      · cases taken
        refine ⟨given.running, bounds, fun service divisor divides => ?_⟩
        show before.waited service + (before.semPost ⟨next, inside⟩).sem service =
          posts divisor service.val before.seqCnt (.finalPost (next + 1))
        rw [posts_final_post, ← counted service divisor divides, sem_post_counts, Nat.add_assoc]
      · cases taken
        refine ⟨given.running, bounds, fun service divisor divides => ?_⟩
        have posted : (SequencerPoint.finalPost next).finalPosted service.val :=
          Nat.lt_of_lt_of_le service.isLt (Nat.not_lt.mp inside)
        have sofar := counted service divisor divides
        rw [posts_final posted] at sofar
        exact sofar
  | setAbort next =>
      rw [point] at bounds counted
      simp only [sequencerStep, point] at taken
      split_ifs at taken with inside
      · cases taken
        exact ⟨given.running, bounds, counted⟩
      · cases taken
        exact ⟨given.running, bounds, counted⟩
  | finished => simp [sequencerStep, point] at taken

theorem service_step_conserves {index : Fin services} {before after : SequencerState services}
    (taken : serviceStep index before = some after) (service : Fin services) :
    after.waited service + after.sem service = before.waited service + before.sem service := by
  by_cases same : service = index
  · subst same
    rcases service_step_cases taken with ⟨tests, rfl⟩ | ⟨waits, released, rfl⟩ | ⟨counts, rfl⟩
    · cases before.abort service <;>
        simp [SequencerState.waited, SequencerState.goTo, tests]
    · simp [SequencerState.waited, SequencerState.goTo, waits]
      omega
    · simp [SequencerState.waited, SequencerState.goTo, counts]
  · rcases service_step_cases taken with ⟨_, rfl⟩ | ⟨_, _, rfl⟩ | ⟨_, rfl⟩ <;>
      simp [SequencerState.waited, SequencerState.goTo, same]

theorem service_step_counts_no_cycle {index : Fin services}
    {before after : SequencerState services} (taken : serviceStep index before = some after) :
    after.sequencer = before.sequencer ∧ after.seqCnt = before.seqCnt ∧
      after.abortTest = before.abortTest := by
  rcases service_step_cases taken with ⟨_, rfl⟩ | ⟨_, _, rfl⟩ | ⟨_, rfl⟩ <;>
    exact ⟨rfl, rfl, rfl⟩

theorem released_service_step {index : Fin services} {before after : SequencerState services}
    (given : Released divisors sequencePeriods before)
    (taken : serviceStep index before = some after) :
    Released divisors sequencePeriods after := by
  obtain ⟨point, cycles, running⟩ := service_step_counts_no_cycle taken
  constructor
  · rw [running]
    exact given.running
  · rw [point, cycles]
    exact given.cycles
  · intro service divisor divides
    rw [service_step_conserves taken service, point, cycles]
    exact given.counted service divisor divides

theorem released_step (label : SequencerLabel services) (before after : SequencerState services)
    (given : Released divisors sequencePeriods before) (_ : anyStep label before)
    (taken : (sequencerSystem divisors sequencePeriods).step label before = some after) :
    Released divisors sequencePeriods after := by
  cases label with
  | sequencer => exact released_sequencer_step given taken
  | service index => exact released_service_step given taken

theorem step_keeps_abort_test {label : SequencerLabel services}
    {before after : SequencerState services}
    (taken : (sequencerSystem divisors sequencePeriods).step label before = some after) :
    after.abortTest = before.abortTest := by
  cases label with
  | sequencer =>
      dsimp only [sequencerSystem] at taken
      unfold sequencerStep at taken
      cases point : before.sequencer <;> simp only [point] at taken
      case finished => cases taken
      all_goals first
        | cases taken; rfl
        | split_ifs at taken <;> cases taken <;> rfl
  | service index => exact (service_step_counts_no_cycle taken).2.2

theorem released_reachable (positive : 0 < sequencePeriods) {state : SequencerState services}
    (reached : Reachable (sequencerSystem divisors sequencePeriods) anyStep state)
    (running : state.abortTest = false) : Released divisors sequencePeriods state := by
  obtain ⟨start, ⟨abortTest, rfl⟩, run⟩ := reached
  have unchanged : state.abortTest = abortTest := by
    apply @Run.keeps _ _ _ _ (fun state => state.abortTest = abortTest) _ _ _ run rfl
    intro label before after same _ taken
    rw [step_keeps_abort_test taken]
    exact same
  obtain rfl : abortTest = false := unchanged.symm.trans running
  exact run.keeps released_step (released_at_start positive)

/-- While `abortTest` stays false, each service has been posted exactly one release for
each multiple of its divisor, and one more at shutdown, after exactly
`sequencePeriods` cycles. -/
theorem releases_neither_lost_nor_duplicated (divisors : Divisors services)
    (sequencePeriods : Nat) (positive : 0 < sequencePeriods) (state : SequencerState services)
    (reached : Reachable (sequencerSystem divisors sequencePeriods) anyStep state)
    (running : state.abortTest = false) :
    (∀ service divisor, divisors service = some divisor →
      (state.sequencer.betweenCycles services →
        state.waited service + state.sem service = state.seqCnt / divisor) ∧
      (state.sequencer.finalPosted service.val →
        state.waited service + state.sem service = sequencePeriods / divisor + 1) ∧
      state.serviceCnt service ≤ sequencePeriods / divisor + 1) ∧
    state.seqCnt ≤ sequencePeriods ∧
    (state.sequencer = .finished → state.seqCnt = sequencePeriods) ∧
    ∃ later, Run (sequencerSystem divisors sequencePeriods) anyStep state later ∧
      later.sequencer = .finished ∧ later.seqCnt = sequencePeriods := by
  have released := released_reachable positive reached running
  have atMost := released.cycles.le
  refine ⟨fun service divisor divides => ⟨?_, ?_, ?_⟩, atMost, ?_, ?_⟩
  · intro between
    rw [released.counted service divisor divides, posts_between_cycles between]
  · intro posted
    have cycles : state.seqCnt = sequencePeriods := released.cycles.of_final_posted posted
    rw [released.counted service divisor divides, posts_final posted, cycles]
  · have counted := released.counted service divisor divides
    have bound := posts_at_most divisor service.val state.seqCnt state.sequencer
    have monotone : state.seqCnt / divisor ≤ sequencePeriods / divisor :=
      Nat.div_le_div_right atMost
    unfold SequencerState.waited at counted
    omega
  · intro finished
    have cycles := released.cycles
    rw [finished] at cycles
    exact cycles
  · obtain ⟨later, run, finished, _⟩ : ∃ later,
        Run (sequencerSystem divisors sequencePeriods) anyStep state later ∧
          later.sequencer = .finished ∧ SequencerOnly state later :=
      sequencer_finishes (fun _ => trivial) state
    have cycles := (run.keeps released_step released).cycles
    rw [finished] at cycles
    exact ⟨later, run, finished, cycles⟩

/-- `seqgen2.c` with two sequence periods: `Service_1` has taken its first release. -/
theorem releases_neither_lost_nor_duplicated_first_release :
    ∃ state : SequencerState 7, 0 < 2 ∧ state.abortTest = false ∧
      state.service 0 = .count ∧ state.seqCnt = 2 ∧
      state.waited 0 + state.sem 0 = state.seqCnt / 2 ∧ state.serviceCnt 0 ≤ 2 / 2 + 1 := by
  let labels : List (SequencerLabel 7) :=
    List.replicate 21 .sequencer ++ List.replicate 2 (.service 0)
  obtain ⟨state, reached, running, counts, cycles, point⟩ : ∃ state,
      Reachable (sequencerSystem seqgen2 2) anyStep state ∧
      state.abortTest = false ∧ state.service 0 = .count ∧ state.seqCnt = 2 ∧
      state.sequencer = .test :=
    schedule_reaches labels ⟨false, rfl⟩ (by decide)
  have released := releases_neither_lost_nor_duplicated seqgen2 2 (by decide) state reached
    running
  have first := released.1 0 2 rfl
  have between : state.sequencer.betweenCycles 7 := by
    rw [point]
    trivial
  exact ⟨state, by decide, running, counts, cycles, first.1 between, first.2.2⟩

end Schedulers.Sequencer
