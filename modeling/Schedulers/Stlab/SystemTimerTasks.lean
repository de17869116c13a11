import Schedulers.Stlab.SystemTimerModel
import Schedulers.Support.Progress
import Mathlib.Data.List.MinMax
import Mathlib.Data.List.Perm.Basic

/-!
# When the tasks of a `system_timer` run

Each task that was added runs once, not before its time point, and of two tasks in the
queue the one with the earlier time point first. No time point is slept through: once the
thread of the timer has come to rest, no task whose time has come is left. After the
destructor has set `_stop` no further task is taken.
-/

namespace Schedulers.Stlab

open Schedulers.TransitionSystem

set_option autoImplicit false

variable {state next : TimerState}

inductive TimerMove (state : TimerState) : TimerLabel → TimerState → Prop where
  | tick (time : Int) (later : state.now ≤ time) :
      TimerMove state (.tick time) { state with now := time }
  | add (duration : Int) (alive : state.destructor ≠ .joined) :
      TimerMove state (.add duration) (state.add duration)
  | leave (front : Nat) (here : state.thread = .locking) (stopped : state.stop = true) :
      TimerMove state (.check front) { state with thread := .returned }
  | waitForTasks (front : Nat) (here : state.thread = .locking) (goes : state.stop = false)
      (empty : state.timedQueue = []) :
      TimerMove state (.check front) { state with thread := .waiting none }
  | waitUntil (front : Nat) (timed : TimedTask) (here : state.thread = .locking)
      (goes : state.stop = false) (first : state.timedQueue[front]? = some timed)
      (least : ∀ other ∈ state.timedQueue, timed.when ≤ other.when)
      (early : state.now < timed.when) :
      TimerMove state (.check front) { state with thread := .waiting (some timed.when) }
  | take (front : Nat) (timed : TimedTask) (here : state.thread = .locking)
      (goes : state.stop = false) (first : state.timedQueue[front]? = some timed)
      (least : ∀ other ∈ state.timedQueue, timed.when ≤ other.when)
      (due : timed.when ≤ state.now) :
      TimerMove state (.check front) (state.take front timed)
  | timeout (when : Int) (here : state.thread = .waiting (some when)) (due : when ≤ state.now) :
      TimerMove state .timeout { state with thread := .locking }
  | wake (when : Option Int) (here : state.thread = .waiting when) :
      TimerMove state .wake { state with thread := .locking }
  | finish (timed : TimedTask) (here : state.thread = .running timed) :
      TimerMove state .finish { state with thread := .locking }
  | setStop (alive : state.destructor = .notCalled) :
      TimerMove state .setStop { state with stop := true, destructor := .notifying }
  | notifyStop (here : state.destructor = .notifying) :
      TimerMove state .notifyStop
        { state with thread := state.thread.notified, destructor := .joining }
  | join (here : state.destructor = .joining) (gone : state.thread = .returned) :
      TimerMove state .join { state with destructor := .joined }

theorem step_check_move {front : Nat} (taken : stepCheck front state = some next) :
    TimerMove state (.check front) next := by
  unfold stepCheck at taken
  split at taken
  · next here =>
      split_ifs at taken with stopped empty
      · cases taken
        exact .leave front here stopped
      · cases taken
        exact .waitForTasks front here (by simpa using stopped) empty
      · split at taken
        · next timed first =>
            split_ifs at taken with least early
            · cases taken
              exact .waitUntil front timed here (by simpa using stopped) first least early
            · cases taken
              exact .take front timed here (by simpa using stopped) first least
                (Int.not_lt.mp early)
        · cases taken
  · cases taken

theorem timer_step_move {label : TimerLabel} (taken : timerStep label state = some next) :
    TimerMove state label next := by
  cases label <;> simp only [timerStep] at taken
  case check front => exact step_check_move taken
  case tick time =>
    split_ifs at taken with later
    cases taken
    exact .tick time later
  case add duration =>
    split_ifs at taken with joined
    cases taken
    exact .add duration joined
  case timeout =>
    split at taken
    · next when here =>
        split_ifs at taken with due
        cases taken
        exact .timeout when here due
    · cases taken
  all_goals
    split at taken
    · cases taken
      constructor <;> assumption
    · cases taken

/-- `later`: what was queued when a task was taken, and still is, comes later. -/
structure StartedInOrder (state : TimerState) : Prop where
  due : ∀ task ∈ state.started,
    task.timed.when ≤ task.startedAt ∧ task.startedAt ≤ state.now
  known : ∀ task ∈ state.started, task.calls ≤ state.calls
  later : ∀ task ∈ state.started, ∀ queued ∈ state.timedQueue, queued.task < task.calls →
    task.timed.when ≤ queued.when
  inOrder : state.started.Pairwise fun first second =>
    first.startedAt ≤ second.startedAt ∧
      (second.timed.task < first.calls → first.timed.when ≤ second.timed.when)

def TaskForEachCall (state : TimerState) : Prop :=
  (state.timedQueue.map TimedTask.task ++ state.started.map fun task => task.timed.task).Perm
    (List.range state.calls)

theorem StartedInOrder.add (duration : Int) (holds : StartedInOrder state) :
    StartedInOrder (state.add duration) where
  due := holds.due
  known task member := (holds.known task member).trans (Nat.le_succ _)
  later task member queued within early := by
    have known := holds.known task member
    rcases List.mem_append.mp within with before | new
    · exact holds.later task member queued before early
    · rw [List.mem_singleton.mp new] at early
      simp only at early
      omega
  inOrder := holds.inOrder

theorem StartedInOrder.take {front : Nat} {timed : TimedTask} (holds : StartedInOrder state)
    (first : state.timedQueue[front]? = some timed)
    (least : ∀ other ∈ state.timedQueue, timed.when ≤ other.when)
    (due : timed.when ≤ state.now) : StartedInOrder (state.take front timed) where
  due task member := by
    rcases List.mem_append.mp member with before | new
    · exact holds.due task before
    · rw [List.mem_singleton.mp new]
      exact ⟨due, Int.le_refl _⟩
  known task member := by
    rcases List.mem_append.mp member with before | new
    · exact holds.known task before
    · rw [List.mem_singleton.mp new]
      exact Nat.le_refl _
  later task member queued within early := by
    have inQueue := List.mem_of_mem_eraseIdx within
    rcases List.mem_append.mp member with before | new
    · exact holds.later task before queued inQueue early
    · rw [List.mem_singleton.mp new]
      exact least queued inQueue
  inOrder := by
    refine List.pairwise_append.mpr ⟨holds.inOrder, List.pairwise_singleton _ _, ?_⟩
    intro task member new isNew
    rw [List.mem_singleton.mp isNew]
    exact ⟨(holds.due task member).2,
      holds.later task member timed (List.mem_of_getElem? first)⟩

theorem StartedInOrder.step {label : TimerLabel} (holds : StartedInOrder state)
    (move : TimerMove state label next) : StartedInOrder next := by
  cases move with
  | tick time later =>
      refine ⟨fun task member => ?_, holds.known, holds.later, holds.inOrder⟩
      obtain ⟨due, started⟩ := holds.due task member
      exact ⟨due, started.trans later⟩
  | add duration alive => exact holds.add duration
  | take front timed here goes first least due => exact holds.take first least due
  | _ => exact ⟨holds.due, holds.known, holds.later, holds.inOrder⟩

theorem add_keeps_tasks {duration : Int} (holds : TaskForEachCall state) :
    TaskForEachCall (state.add duration) := by
  have moved : (state.timedQueue.map TimedTask.task ++ [state.calls] ++
      state.started.map fun task => task.timed.task).Perm
      ((state.timedQueue.map TimedTask.task ++ state.started.map fun task => task.timed.task) ++
        [state.calls]) := by
    rw [List.append_assoc, List.append_assoc]
    exact List.perm_append_comm.append_left _
  have counted := moved.trans (holds.append_right [state.calls])
  unfold TaskForEachCall
  simpa [TimerState.add, List.range_succ] using counted

theorem take_keeps_tasks {front : Nat} {timed : TimedTask} (holds : TaskForEachCall state)
    (first : state.timedQueue[front]? = some timed) :
    TaskForEachCall (state.take front timed) := by
  obtain ⟨bound, here⟩ := List.getElem?_eq_some_iff.mp first
  have out : (timed :: state.timedQueue.eraseIdx front).Perm state.timedQueue := by
    rw [← here]
    exact List.getElem_cons_eraseIdx_perm bound
  have tasks := (out.map TimedTask.task).symm
  have moved : ((timed :: state.timedQueue.eraseIdx front).map TimedTask.task ++
      state.started.map fun task => task.timed.task).Perm
      ((state.timedQueue.eraseIdx front).map TimedTask.task ++
        ((state.started.map fun task => task.timed.task) ++ [timed.task])) := by
    rw [List.map_cons, List.cons_append, ← List.append_assoc]
    exact (List.perm_append_singleton _ _).symm
  have counted := (moved.symm.trans (tasks.symm.append_right _)).trans holds
  unfold TaskForEachCall
  simpa [TimerState.take] using counted

theorem TaskForEachCall.step {label : TimerLabel} (holds : TaskForEachCall state)
    (move : TimerMove state label next) : TaskForEachCall next := by
  cases move with
  | add duration alive => exact add_keeps_tasks holds
  | take front timed here goes first least due => exact take_keeps_tasks holds first
  | _ => exact holds

/-- Each call of `operator()` leads to one run of its task at most, never before its time
point, and a task that is taken comes, by their time points, before every task that was
then in the queue, whether that one has been taken since or is still there. -/
theorem timer_starts_tasks_in_order (state : TimerState)
    (reached : Reachable timerSystem anyStep state) :
    (∀ task ∈ state.started, task.timed.when ≤ task.startedAt) ∧
      (state.started.Pairwise fun first second =>
        first.startedAt ≤ second.startedAt ∧
          (second.timed.task < first.calls → first.timed.when ≤ second.timed.when)) ∧
      (∀ task ∈ state.started, ∀ queued ∈ state.timedQueue, queued.task < task.calls →
        task.timed.when ≤ queued.when) ∧
      (state.timedQueue.map TimedTask.task ++
        state.started.map fun task => task.timed.task).Perm (List.range state.calls) := by
  have ordered : StartedInOrder state := by
    refine reached.keeps ?_ fun _ _ _ holds _ taken => holds.step (timer_step_move taken)
    rintro _ ⟨now, rfl⟩
    constructor <;> simp
  have counted : TaskForEachCall state := by
    refine reached.keeps ?_ fun _ _ _ holds _ taken => holds.step (timer_step_move taken)
    rintro _ ⟨now, rfl⟩
    exact List.Perm.refl _
  exact ⟨fun task member => (ordered.due task member).1, ordered.inOrder, ordered.later, counted⟩

/-- The second task of two has the earlier time point, and both have come. -/
theorem timer_starts_second_task_first :
    ∃ state, Reachable timerSystem anyStep state ∧
      state.started = [⟨⟨2, 1⟩, 7, 2⟩, ⟨⟨5, 0⟩, 7, 2⟩] ∧
      ∀ task ∈ state.started, task.timed.when ≤ task.startedAt := by
  obtain ⟨state, reached, both⟩ : ∃ state, Reachable timerSystem anyStep state ∧
      state.started = [⟨⟨2, 1⟩, 7, 2⟩, ⟨⟨5, 0⟩, 7, 2⟩] :=
    schedule_reaches [.check 0, .add 5, .check 0, .add 2, .tick 7, .check 1, .finish, .check 0]
      ⟨0, rfl⟩ (by decide)
  exact ⟨state, reached, both, (timer_starts_tasks_in_order state reached).1⟩

structure WaitsRight (state : TimerState) : Prop where
  empty : state.thread = .waiting none → state.timedQueue = []
  untilTime : ∀ when, state.thread = .waiting (some when) →
    ∀ timed ∈ state.timedQueue, when ≤ timed.when
  stop : state.stop = true ↔ state.destructor ≠ .notCalled
  notified : ∀ when, state.thread = .waiting when →
    state.destructor = .notCalled ∨ state.destructor = .notifying
  returned : state.thread = .returned → state.stop = true
  joined : state.destructor = .joined → state.thread = .returned

theorem notified_not_waiting (point : TimerPoint) (when : Option Int) :
    point.notified ≠ .waiting when := by
  cases point <;> simp [TimerPoint.notified]

theorem notified_returned {point : TimerPoint} :
    point.notified = .returned ↔ point = .returned := by
  cases point <;> simp [TimerPoint.notified]

theorem WaitsRight.step {label : TimerLabel} (holds : WaitsRight state)
    (move : TimerMove state label next) : WaitsRight next := by
  obtain ⟨empty, untilTime, stop, notified, returned, joined⟩ := holds
  cases move with
  | tick time later => exact ⟨empty, untilTime, stop, notified, returned, joined⟩
  | add duration alive =>
      refine ⟨fun waits => absurd waits (notified_not_waiting _ _),
        fun when waits => absurd waits (notified_not_waiting _ _), stop,
        fun when waits => absurd waits (notified_not_waiting _ _),
        fun gone => returned (notified_returned.mp gone), fun ended => absurd ended alive⟩
  | setStop alive =>
      refine ⟨empty, untilTime, by simp, fun _ _ => .inr rfl, fun _ => rfl, fun ended => ?_⟩
      cases ended
  | notifyStop here =>
      refine ⟨fun waits => absurd waits (notified_not_waiting _ _),
        fun when waits => absurd waits (notified_not_waiting _ _), ?_,
        fun when waits => absurd waits (notified_not_waiting _ _),
        fun gone => returned (notified_returned.mp gone), fun ended => by cases ended⟩
      simp [stop, here]
  | join here gone =>
      exact ⟨empty, untilTime, by simp [stop, here], by simp [gone], returned, fun _ => gone⟩
  | _ => constructor <;> simp_all [TimerState.take]

theorem waits_right (reached : Reachable timerSystem anyStep state) : WaitsRight state := by
  refine reached.keeps ?_ fun _ _ _ holds _ taken => holds.step (timer_step_move taken)
  rintro _ ⟨now, rfl⟩
  constructor <;> simp

/-- The own steps that the thread and the destructor still have before them, besides two
for each task that is queued. -/
def TimerPoint.left (now : Int) : TimerPoint → Nat
  | .locking => 1
  | .waiting none => 0
  | .waiting (some when) => if when ≤ now then 2 else 0
  | .running _ => 2
  | .returned => 0

def TimerDestructor.left : TimerDestructor → Nat
  | .notifying => 3
  | .joining => 1
  | _ => 0

def timerLeft (state : TimerState) : Nat :=
  2 * state.timedQueue.length + state.thread.left state.now + state.destructor.left

theorem timer_left_bound (state : TimerState) :
    timerLeft state ≤ 2 * state.timedQueue.length + 5 := by
  have thread : state.thread.left state.now ≤ 2 := by
    unfold TimerPoint.left
    split <;> first | omega | (split_ifs <;> omega)
  have destructor : state.destructor.left ≤ 3 := by
    unfold TimerDestructor.left
    split <;> omega
  unfold timerLeft
  omega

theorem notified_left (now : Int) (point : TimerPoint) :
    point.notified.left now ≤ point.left now + 1 := by
  cases point <;> simp [TimerPoint.notified, TimerPoint.left]

theorem timer_lowers :
    Lowers timerSystem ownTimerSteps (fun state amount => timerLeft state = amount) := by
  intro label state next amount holds allowed taken
  refine ⟨timerLeft next, ?_, rfl⟩
  subst holds
  unfold timerLeft
  cases timer_step_move taken with
  | leave front here stopped => simp [here, TimerPoint.left]
  | waitForTasks front here goes empty => simp [here, TimerPoint.left]
  | waitUntil front timed here goes first least early =>
      simp [here, TimerPoint.left, Int.not_le.mpr early]
  | take front timed here goes first least due =>
      obtain ⟨bound, _⟩ := List.getElem?_eq_some_iff.mp first
      have shorter := List.length_eraseIdx_of_lt bound
      simp only [TimerState.take, here, TimerPoint.left, shorter]
      omega
  | timeout when here due => simp [here, TimerPoint.left, due]
  | finish timed here => simp [here, TimerPoint.left]
  | notifyStop here =>
      have more := notified_left state.now state.thread
      simp only [here, TimerDestructor.left]
      omega
  | join here gone => simp [here, TimerDestructor.left]
  | _ => cases allowed

theorem exists_front {queue : List TimedTask} (filled : queue ≠ []) :
    ∃ (front : Nat) (timed : TimedTask), queue[front]? = some timed ∧
      ∀ other ∈ queue, timed.when ≤ other.when := by
  cases least : queue.argmin TimedTask.when with
  | none => exact absurd (List.argmin_eq_none.mp least) filled
  | some timed =>
      obtain ⟨front, here⟩ := List.mem_iff_getElem?.mp (List.argmin_mem least)
      exact ⟨front, timed, here, fun other member => List.le_of_mem_argmin member least⟩

theorem locking_not_settled (here : state.thread = .locking) :
    ¬ Settled timerSystem ownTimerSteps state := by
  intro settled
  by_cases filled : state.timedQueue = []
  · have enabled := settled (.check 0) trivial
    simp only [timerSystem, timerStep, stepCheck, here, filled, if_true] at enabled
    split_ifs at enabled
  · obtain ⟨front, timed, first, least⟩ := exists_front filled
    have enabled := settled (.check front) trivial
    simp only [timerSystem, timerStep, stepCheck, here, filled, first, if_false] at enabled
    split_ifs at enabled

/-- No task whose time has come is slept through: the thread and the destructor come to
rest within two steps a queued task and five more, and while the timer has not been
stopped no task that is then in the queue has reached its time point. -/
theorem timer_comes_to_rest (state : TimerState)
    (reached : Reachable timerSystem anyStep state) :
    (∀ steps finish, CountedRun timerSystem ownTimerSteps steps state finish →
      steps ≤ 2 * state.timedQueue.length + 5) ∧
      (Settled timerSystem ownTimerSteps state → state.stop = false →
        ∀ timed ∈ state.timedQueue, state.now < timed.when) := by
  refine ⟨fun steps finish run => ?_, fun settled goes timed member => ?_⟩
  · exact (run.bounded timer_lowers (rfl : timerLeft state = _)).trans (timer_left_bound state)
  · have waits := waits_right reached
    cases here : state.thread with
    | locking => exact absurd settled (locking_not_settled here)
    | running timed =>
        have enabled := settled .finish trivial
        simp [timerSystem, timerStep, here] at enabled
    | returned =>
        rw [waits.returned here] at goes
        cases goes
    | waiting when =>
        cases when with
        | none =>
            rw [waits.empty here] at member
            cases member
        | some when =>
            have least := waits.untilTime when here timed member
            by_contra due
            have enabled := settled .timeout trivial
            simp only [timerSystem, timerStep, here] at enabled
            rw [if_pos (by omega)] at enabled
            cases enabled

def waitingForTwo : TimerState where
  now := 0
  timedQueue := [⟨5, 0⟩, ⟨2, 1⟩]
  stop := false
  thread := .waiting (some 2)
  destructor := .notCalled
  calls := 2
  started := []

theorem timer_rests_before_two :
    ∃ state, Reachable timerSystem anyStep state ∧ state = waitingForTwo ∧
      ∀ timed ∈ state.timedQueue, state.now < timed.when := by
  obtain ⟨state, reached, here⟩ : ∃ state, Reachable timerSystem anyStep state ∧
      state = waitingForTwo :=
    schedule_reaches [.check 0, .add 5, .check 0, .add 2, .check 1] ⟨0, rfl⟩ (by decide)
  refine ⟨state, reached, here, ?_⟩
  subst here
  refine (timer_comes_to_rest waitingForTwo reached).2 ?_ rfl
  intro label allowed
  cases label <;> first | rfl | cases allowed

/-- Once the destructor has set `_stop` no task is taken any more, whatever is queued, and
when the thread and the destructor have come to rest the thread has been joined. -/
theorem stopped_timer_starts_nothing (state : TimerState)
    (reached : Reachable timerSystem anyStep state) (stopped : state.stop = true) :
    (∀ finish, Run timerSystem anyStep state finish → finish.started = state.started) ∧
      (Settled timerSystem ownTimerSteps state → state.destructor = .joined) := by
  have waits := waits_right reached
  refine ⟨fun finish run => ?_, fun settled => ?_⟩
  · have both := @Run.keeps _ _ _ _
      (fun later => later.stop = true ∧ later.started = state.started)
      (fun label before after holds _ taken => by
        obtain ⟨still, same⟩ := holds
        cases timer_step_move taken with
        | take front timed here goes first least due =>
            rw [still] at goes
            cases goes
        | setStop alive => exact ⟨rfl, same⟩
        | _ => exact ⟨still, same⟩) _ _ run ⟨stopped, rfl⟩
    exact both.2
  · cases destructor : state.destructor with
    | notCalled => exact absurd destructor (waits.stop.mp stopped)
    | notifying =>
        have enabled := settled .notifyStop trivial
        simp [timerSystem, timerStep, destructor] at enabled
    | joined => rfl
    | joining =>
        cases here : state.thread with
        | locking => exact absurd settled (locking_not_settled here)
        | running timed =>
            have enabled := settled .finish trivial
            simp [timerSystem, timerStep, here] at enabled
        | waiting when =>
            rcases waits.notified when here with other | other <;>
              rw [destructor] at other <;> cases other
        | returned =>
            have enabled := settled .join trivial
            simp [timerSystem, timerStep, destructor, here] at enabled

theorem due_task_is_dropped :
    ∃ state, Reachable timerSystem anyStep state ∧
      (state.timedQueue = [⟨5, 0⟩] ∧ state.now = 9) ∧
      ∀ finish, Run timerSystem anyStep state finish → finish.started = state.started := by
  obtain ⟨state, reached, here⟩ : ∃ state, Reachable timerSystem anyStep state ∧
      (state.timedQueue = [⟨5, 0⟩] ∧ state.now = 9) ∧ state.stop = true :=
    schedule_reaches [.check 0, .add 5, .tick 9, .setStop] ⟨0, rfl⟩ (by decide)
  exact ⟨state, reached, here.1, (stopped_timer_starts_nothing state reached here.2).1⟩

end Schedulers.Stlab
