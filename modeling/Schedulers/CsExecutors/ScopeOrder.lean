import Schedulers.CsExecutors.ScopeSteps

/-!
# The order of shutdown

An executor accepts actions exactly until the main thread sends its shutdown, and is
empty when it has ended. What it has accepted by then is all that it will ever run.
-/

namespace Schedulers.CsExecutors

open Schedulers.TransitionSystem

set_option autoImplicit false

variable {Action : Type} {body : Action → List (ActionStatement Action)}
  {label : ScopeLabel} {state next : ScopeState Action}

theorem shutdown_mem_enqueued_action (other target : ExecutorName) (job : Job Action) :
    .shutdown ∈ state.enqueued other (.action job) target ↔ .shutdown ∈ state.queue target := by
  unfold ScopeState.enqueued
  split_ifs
  · rfl
  · by_cases same : target = other
    · subst same
      simp
    · rw [Function.update_of_ne same]

theorem enqueued_of_exited {target : ExecutorName} (ended : state.exited target = true)
    (other : ExecutorName) (item : QueueItem Action) :
    state.enqueued other item target = state.queue target := by
  unfold ScopeState.enqueued
  split_ifs with gone
  · rfl
  · have differ : target ≠ other := fun same => gone (same ▸ ended)
    rw [Function.update_of_ne differ]

theorem enqueued_other {other target : ExecutorName} (differ : target ≠ other)
    (item : QueueItem Action) : state.enqueued other item target = state.queue target := by
  unfold ScopeState.enqueued
  split_ifs
  · rfl
  · rw [Function.update_of_ne differ]

theorem enqueued_same {target : ExecutorName} (live : state.exited target = false)
    (item : QueueItem Action) :
    state.enqueued target item target = state.queue target ++ [item] := by
  simp [ScopeState.enqueued, live]

/-- Closed exactly when its shutdown was sent, empty when it has ended, and ended when the
main thread has joined it. -/
structure Orderly (state : ScopeState Action) (target : ExecutorName) : Prop where
  closed_iff : state.Closed target ↔ state.main.sent target = true
  exited : state.exited target = true → state.queue target = [] ∧ state.running target = none
  joined : state.main.joined target = true → state.exited target = true
  disposed : state.disposed target = true → state.exited target = true

theorem orderly_start (program : List (MainStatement Action)) (target : ExecutorName) :
    Orderly (.start program) target where
  closed_iff := by simp [ScopeState.Closed, ScopeState.start]
  exited ended := nomatch ended
  joined passed := nomatch passed
  disposed ended := nomatch ended

theorem Orderly.live {name : ExecutorName} (given : Orderly state name)
    {running : RunningJob Action} (runs : state.running name = some running) :
    state.exited name = false := by
  by_contra ended
  have idle := (given.exited (by simpa using ended)).2
  rw [runs] at idle
  cases idle

theorem Orderly.accepts {target : ExecutorName} (given : Orderly state target)
    (unsent : state.main.sent target = false) : ¬ state.Closed target := by
  rw [given.closed_iff]
  exact Bool.eq_false_iff.mp unsent

theorem Orderly.goes_on {target : ExecutorName} (given : Orderly state target)
    (closed : next.Closed target ↔ state.Closed target)
    (sent : next.main.sent target = state.main.sent target)
    (joined : next.main.joined target = state.main.joined target)
    (exited : next.exited = state.exited) (disposed : next.disposed = state.disposed)
    (empty : state.exited target = true →
      next.queue target = state.queue target ∧ next.running target = state.running target) :
    Orderly next target where
  closed_iff := by rw [closed, sent, given.closed_iff]
  exited ended := by
    rw [exited] at ended
    rw [(empty ended).1, (empty ended).2]
    exact given.exited ended
  joined passed := by
    rw [joined] at passed
    rw [exited]
    exact given.joined passed
  disposed ended := by
    rw [disposed] at ended
    rw [exited]
    exact given.disposed ended

theorem Orderly.runs_on {name : ExecutorName} {running : RunningJob Action}
    (given : ∀ target, Orderly state target) (runs : state.running name = some running)
    {queue : ExecutorName → List (QueueItem Action)} {later : Option (RunningJob Action)}
    {signals : Nat} {calls : Poster → Nat} {chained : List Call}
    {executed : ExecutorName → List Call}
    (grown : queue = state.queue ∨ ∃ other job, queue = state.enqueued other (.action job))
    {target : ExecutorName} :
    Orderly { state with
      queue := queue
      running := Function.update state.running name later
      signals := signals
      calls := calls
      chained := chained
      executed := executed } target := by
  have live := (given name).live runs
  apply (given target).goes_on
  · unfold ScopeState.Closed
    rcases grown with rfl | ⟨other, job, rfl⟩
    · rfl
    · dsimp only
      rw [shutdown_mem_enqueued_action]
  · rfl
  · rfl
  · rfl
  · rfl
  · intro ended
    have differ : target ≠ name := by
      rintro rfl
      rw [live] at ended
      cases ended
    constructor
    · rcases grown with rfl | ⟨other, job, rfl⟩
      · rfl
      · exact enqueued_of_exited ended _ _
    · exact Function.update_of_ne differ _ _

theorem not_skipped {target : ExecutorName} (given : Orderly state target)
    (stands : state.main = .disposing target .test) : state.disposed target = false := by
  by_contra ended
  have closed : state.Closed target := .inr (given.disposed (by simpa using ended))
  rw [given.closed_iff, stands, MainPoint.sent, past_same] at closed
  cases closed

theorem sent_main_moves (given : ∀ target, Orderly state target) {point : MainPoint Action}
    (moves : MainMoves state point) (target : ExecutorName) :
    point.sent target = state.main.sent target := by
  cases moves with
  | posts _ _ _ stands _ => rw [stands]; rfl
  | awaits _ stands _ => rw [stands]; rfl
  | callsDispose stands => rw [stands]; cases target <;> rfl
  | skipsDispose other stands ended =>
      rw [not_skipped (given other) stands] at ended
      cases ended
  | testsDispose other stands _ => rw [stands]; cases target <;> cases other <;> rfl
  | joins other stands _ => rw [stands]; cases target <;> cases other <;> rfl

theorem joined_main_moves (given : ∀ target, Orderly state target) {point : MainPoint Action}
    (moves : MainMoves state point) (target : ExecutorName) (passed : point.joined target = true) :
    state.exited target = true := by
  have before := (given target).joined
  cases moves with
  | posts => cases passed
  | awaits => cases passed
  | callsDispose stands => cases target <;> cases passed
  | skipsDispose other stands ended =>
      rw [not_skipped (given other) stands] at ended
      cases ended
  | testsDispose other stands _ =>
      rw [stands] at before
      exact before (by revert passed; cases target <;> cases other <;> exact id)
  | joins other stands ended =>
      by_cases same : target = other
      · exact same ▸ ended
      · rw [stands] at before
        exact before (by rw [← passed]; exact past_other _ same _ _)

theorem sent_set_disposed {other : ExecutorName}
    (stands : state.main = .disposing other .setDisposed) (target : ExecutorName) :
    (afterDispose other : MainPoint Action).sent target = state.main.sent target := by
  rw [stands]
  exact past_after_dispose rfl rfl target other

theorem Orderly.main_invokes {other : ExecutorName} {action : Action}
    {rest : List (MainStatement Action)} {target : ExecutorName} (here : Orderly state target)
    (stands : state.main = .invoking other action rest) :
    Orderly { state with
      queue := state.enqueued other (.action (state.newJob .main action))
      calls := state.nextCalls .main
      main := .working rest } target := by
  apply here.goes_on
  · exact or_congr (shutdown_mem_enqueued_action _ _ _) Iff.rfl
  · rw [stands]; rfl
  · rw [stands]; rfl
  · rfl
  · rfl
  · intro ended
    exact ⟨enqueued_of_exited ended _ _, rfl⟩

theorem Orderly.sends_shutdown {other target : ExecutorName} (here : Orderly state target)
    (stands : state.main = .disposing other .invoke) :
    Orderly { state with
      queue := state.enqueued other .shutdown
      main := .disposing other .join } target := by
  by_cases same : target = other
  · subst same
    refine ⟨?_, ?_, ?_, here.disposed⟩
    · rw [MainPoint.sent, past_same]
      refine iff_of_true ?_ rfl
      by_cases ended : state.exited target = true
      · exact .inr ended
      · left
        simp [enqueued_same (by simpa using ended)]
    · intro (ended : state.exited target = true)
      have unchanged := enqueued_of_exited ended target .shutdown
      exact ⟨unchanged.trans (here.exited ended).1, (here.exited ended).2⟩
    · intro passed
      rw [MainPoint.joined, past_same] at passed
      cases passed
  · apply here.goes_on
    · unfold ScopeState.Closed
      dsimp only
      rw [enqueued_other same]
    · rw [stands]
      exact past_other _ same _ _
    · rw [stands]
      exact past_other _ same _ _
    · rfl
    · rfl
    · intro ended
      exact ⟨enqueued_of_exited ended _ _, rfl⟩

theorem Orderly.sets_disposed {other target : ExecutorName} (here : Orderly state target)
    (stands : state.main = .disposing other .setDisposed) :
    Orderly { state with
      disposed := Function.update state.disposed other true
      main := afterDispose other } target := by
  have joined : (afterDispose other : MainPoint Action).joined target =
      state.main.joined target := by
    rw [stands]
    exact past_after_dispose rfl rfl target other
  refine ⟨here.closed_iff.trans (by rw [← sent_set_disposed stands]), here.exited, ?_, ?_⟩
  · intro passed
    exact here.joined (joined.symm.trans passed)
  · intro ended
    by_cases same : target = other
    · apply here.joined
      rw [MainPoint.joined, stands, same, past_same]
      rfl
    · exact here.disposed ((Function.update_of_ne same _ _).symm.trans ended)

theorem Orderly.takes {name target : ExecutorName} {job : Job Action}
    {rest : List (QueueItem Action)} (here : Orderly state target)
    (live : state.exited name = false) (queued : state.queue name = .action job :: rest) :
    Orderly { state with
      running := Function.update state.running name (some ⟨job, none, body job.action⟩)
      queue := Function.update state.queue name rest } target := by
  apply here.goes_on
  · unfold ScopeState.Closed
    by_cases same : target = name
    · subst same
      simp [queued]
    · simp [same]
  · rfl
  · rfl
  · rfl
  · rfl
  · intro ended
    have differ : target ≠ name := by
      rintro rfl
      rw [live] at ended
      cases ended
    exact ⟨Function.update_of_ne differ _ _, Function.update_of_ne differ _ _⟩

theorem Orderly.exits {name target : ExecutorName} {rest : List (QueueItem Action)}
    (here : Orderly state target) (idle : state.running name = none)
    (queued : state.queue name = .shutdown :: rest) :
    Orderly { state with
      queue := Function.update state.queue name []
      exited := Function.update state.exited name true } target := by
  by_cases same : target = name
  · subst same
    refine ⟨?_, ?_, ?_, ?_⟩
    · refine Iff.trans ?_ here.closed_iff
      simp [ScopeState.Closed, queued]
    · intro _
      exact ⟨Function.update_self _ _ _, idle⟩
    · intro _
      exact Function.update_self _ _ _
    · intro _
      exact Function.update_self _ _ _
  · constructor
    · simpa [ScopeState.Closed, same] using here.closed_iff
    · simpa [same] using here.exited
    · simpa [same] using here.joined
    · simpa [same] using here.disposed

theorem orderly_move (move : ScopeMove body state label next)
    (given : ∀ target, Orderly state target) (target : ExecutorName) : Orderly next target := by
  have here := given target
  cases move with
  | mainMoves point moves =>
      exact ⟨here.closed_iff.trans (by rw [sent_main_moves given moves]), here.exited,
        joined_main_moves given moves target, here.disposed⟩
  | mainSkips _ _ _ stands _ =>
      exact ⟨here.closed_iff.trans (by rw [stands]; rfl), here.exited, nofun, here.disposed⟩
  | mainInvokes other action rest stands => exact here.main_invokes stands
  | sendsShutdown other stands => exact here.sends_shutdown stands
  | setsDisposed other stands => exact here.sets_disposed stands
  | signalled => exact ⟨here.closed_iff, here.exited, here.joined, here.disposed⟩
  | invokes name other running action runs begun =>
      exact Orderly.runs_on given runs (.inr ⟨other, _, rfl⟩)
  | skips name other running action rest runs between statement ended =>
      exact Orderly.runs_on given runs (.inl rfl)
  | posts name other running action rest runs between statement accepts =>
      exact Orderly.runs_on given runs (.inl rfl)
  | uiPosts name running rest runs between statement =>
      exact Orderly.runs_on given runs (.inl rfl)
  | finishes name running runs between statement =>
      exact Orderly.runs_on given runs (.inl rfl)
  | takes name job rest idle live queued => exact here.takes live queued
  | exits name rest idle live queued => exact here.exits idle queued

theorem sent_move (move : ScopeMove body state label next)
    (given : ∀ target, Orderly state target) {target : ExecutorName}
    (sent : next.main.sent target = true) :
    state.main.sent target = true ∨ label = .main ∧ state.main = .disposing target .invoke := by
  cases move with
  | mainMoves point moves => exact .inl ((sent_main_moves given moves target).symm.trans sent)
  | mainSkips => cases sent
  | mainInvokes => cases sent
  | sendsShutdown other stands =>
      by_cases same : target = other
      · exact .inr ⟨rfl, same ▸ stands⟩
      · left
        rw [stands]
        exact (past_other _ same _ _).trans sent
  | setsDisposed other stands => exact .inl ((sent_set_disposed stands target).symm.trans sent)
  | _ => exact .inl sent

theorem sent_for_good (move : ScopeMove body state label next)
    (given : ∀ target, Orderly state target) {target : ExecutorName}
    (sent : state.main.sent target = true) : next.main.sent target = true := by
  cases move with
  | mainMoves point moves => exact (sent_main_moves given moves target).trans sent
  | mainSkips _ _ _ stands => rw [stands] at sent; cases sent
  | mainInvokes _ _ _ stands => rw [stands] at sent; cases sent
  | sendsShutdown other stands =>
      rw [stands] at sent
      by_cases same : target = other
      · subst same
        rw [MainPoint.sent, past_same] at sent
        cases sent
      · exact (past_other _ same _ _).trans sent
  | setsDisposed other stands => exact (sent_set_disposed stands target).trans sent
  | _ => exact sent

theorem jobs_ahead_enqueued_closed {target : ExecutorName} (closed : state.Closed target)
    (other : ExecutorName) (item : QueueItem Action) :
    jobsAhead (state.enqueued other item target) = jobsAhead (state.queue target) := by
  by_cases ended : state.exited target = true
  · rw [enqueued_of_exited ended]
  · have live : state.exited target = false := by simpa using ended
    by_cases same : target = other
    · subst same
      rw [enqueued_same live]
      exact jobs_ahead_append_closed (closed.resolve_right ended) _
    · rw [enqueued_other same]

theorem jobs_ahead_enqueued_open {target : ExecutorName} (accepts : ¬ state.Closed target)
    (job : Job Action) :
    jobsAhead (state.enqueued target (.action job) target) =
      jobsAhead (state.queue target) ++ [job] := by
  unfold ScopeState.Closed at accepts
  push Not at accepts
  rw [enqueued_same (by simpa using accepts.2), jobs_ahead_append_open accepts.1]
  rfl

theorem jobs_ahead_enqueued_shutdown (other target : ExecutorName) :
    jobsAhead (state.enqueued other .shutdown target) = jobsAhead (state.queue target) := by
  by_cases same : target = other
  · subst same
    unfold ScopeState.enqueued
    split_ifs
    · rfl
    · rw [Function.update_self]
      exact jobs_ahead_append_shutdown _
  · rw [enqueued_other same]

theorem running_call_same {name : ExecutorName} {running : RunningJob Action}
    (runs : state.running name = some running) (invoking : Option (ExecutorName × Action))
    (rest : List (ActionStatement Action)) (target : ExecutorName) :
    (Function.update state.running name (some ⟨running.job, invoking, rest⟩) target).toList.map
        (·.job.call) = (state.running target).toList.map (·.job.call) := by
  by_cases here : target = name
  · subst here
    simp [runs]
  · rw [Function.update_of_ne here]

theorem committed_enqueued_open {target : ExecutorName} (accepts : ¬ state.Closed target)
    (poster : Poster) (action : Action) {running : ExecutorName → Option (RunningJob Action)}
    (same : (running target).toList.map (·.job.call) =
      (state.running target).toList.map (·.job.call)) :
    state.executed target ++ (running target).toList.map (·.job.call) ++
        (jobsAhead (state.enqueued target (.action (state.newJob poster action)) target)).map
          (·.call) =
      state.committed target ++ [state.currentCall poster] := by
  unfold ScopeState.committed
  rw [same, jobs_ahead_enqueued_open accepts, List.map_append, ← List.append_assoc]
  rfl

theorem committed_enqueued (state : ScopeState Action) (other target : ExecutorName)
    (poster : Poster) (action : Action)
    {running : ExecutorName → Option (RunningJob Action)}
    (same : (running target).toList.map (·.job.call) =
      (state.running target).toList.map (·.job.call)) :
    let committed := state.executed target ++ (running target).toList.map (·.job.call) ++
      (jobsAhead (state.enqueued other (.action (state.newJob poster action)) target)).map (·.call)
    committed = state.committed target ∨ ¬ state.Closed target ∧
      committed = state.committed target ++ [state.currentCall poster] := by
  by_cases closed : state.Closed target
  · left
    rw [jobs_ahead_enqueued_closed closed, same]
    rfl
  · by_cases here : target = other
    · subst here
      exact .inr ⟨closed, committed_enqueued_open closed poster action same⟩
    · left
      rw [enqueued_other here, same]
      rfl

/-- A step changes what an executor is committed to only by a `BeginInvoke` that it accepts. -/
theorem committed_move (move : ScopeMove body state label next) (target : ExecutorName) :
    next.committed target = state.committed target ∨
      ∃ poster, ¬ state.Closed target ∧ next.calls = state.nextCalls poster ∧
        next.committed target = state.committed target ++ [state.currentCall poster] := by
  cases move with
  | mainMoves => exact .inl rfl
  | mainSkips => exact .inl rfl
  | mainInvokes other action rest stands =>
      rcases committed_enqueued state other target .main action rfl with same | ⟨accepts, grown⟩
      · exact .inl same
      · exact .inr ⟨.main, accepts, rfl, grown⟩
  | sendsShutdown other stands =>
      left
      unfold ScopeState.committed
      dsimp only
      rw [jobs_ahead_enqueued_shutdown]
  | setsDisposed => exact .inl rfl
  | signalled => exact .inl rfl
  | invokes name other running action runs begun =>
      have runningSame := running_call_same runs none running.rest target
      rcases committed_enqueued state other target (.executor name) action runningSame with
        same | ⟨accepts, grown⟩
      · exact .inl same
      · exact .inr ⟨.executor name, accepts, rfl, grown⟩
  | skips name other running action rest runs between statement ended =>
      left
      simp only [ScopeState.committed, running_call_same runs]
  | posts name other running action rest runs between statement accepts =>
      left
      simp only [ScopeState.committed, running_call_same runs]
  | uiPosts name running rest runs between statement =>
      left
      simp only [ScopeState.committed, running_call_same runs]
  | finishes name running runs between statement =>
      left
      by_cases same : target = name
      · subst same
        simp [ScopeState.committed, runs]
      · simp [ScopeState.committed, same]
  | takes name job rest idle live queued =>
      left
      by_cases same : target = name
      · subst same
        simp [ScopeState.committed, idle, queued]
      · simp [ScopeState.committed, same]
  | exits name rest idle live queued =>
      left
      by_cases same : target = name
      · subst same
        simp [ScopeState.committed, idle, queued]
      · simp [ScopeState.committed, same]

theorem committed_closed (move : ScopeMove body state label next) {target : ExecutorName}
    (closed : state.Closed target) : next.committed target = state.committed target := by
  rcases committed_move move target with same | ⟨_, accepts, -⟩
  · exact same
  · exact absurd closed accepts

theorem calls_move (move : ScopeMove body state label next) :
    next.calls = state.calls ∨ ∃ poster, next.calls = state.nextCalls poster := by
  cases move with
  | mainSkips => exact .inr ⟨_, rfl⟩
  | mainInvokes => exact .inr ⟨_, rfl⟩
  | invokes => exact .inr ⟨_, rfl⟩
  | skips => exact .inr ⟨_, rfl⟩
  | _ => exact .inl rfl

theorem calls_le_next (poster other : Poster) :
    state.calls other ≤ state.nextCalls poster other := by
  unfold ScopeState.nextCalls
  by_cases same : other = poster
  · subst same
    simp
  · exact Nat.le_of_eq (Function.update_of_ne same _ _).symm

theorem calls_le_move (move : ScopeMove body state label next) (poster : Poster) :
    state.calls poster ≤ next.calls poster := by
  rcases calls_move move with same | ⟨other, counted⟩
  · exact Nat.le_of_eq (congrFun same poster).symm
  · rw [counted]
    exact calls_le_next other poster

def Numbered (state : ScopeState Action) : Prop :=
  ∀ target, ∀ call ∈ state.committed target, call.number < state.calls call.poster

theorem numbered_move (move : ScopeMove body state label next) (given : Numbered state) :
    Numbered next := by
  intro target call listed
  rcases committed_move move target with same | ⟨poster, -, counted, grown⟩
  · rw [same] at listed
    exact Nat.lt_of_lt_of_le (given target call listed) (calls_le_move move call.poster)
  · rw [grown, List.mem_append, List.mem_singleton] at listed
    rcases listed with before | rfl
    · exact Nat.lt_of_lt_of_le (given target call before) (calls_le_move move call.poster)
    · rw [counted]
      simp [ScopeState.nextCalls, ScopeState.currentCall]

theorem Numbered.current_not_committed (given : Numbered state) (poster : Poster)
    (target : ExecutorName) : state.currentCall poster ∉ state.committed target :=
  fun listed => Nat.lt_irrefl _ (given target _ listed)

theorem committed_subset (move : ScopeMove body state label next) {target : ExecutorName}
    {call : Call} (listed : call ∈ state.committed target) : call ∈ next.committed target := by
  rcases committed_move move target with same | ⟨_, -, -, grown⟩
  · rwa [same]
  · rw [grown]
    exact List.mem_append_left _ listed

theorem Orderly.committed_executed {target : ExecutorName} (given : Orderly state target)
    (ended : state.exited target = true) : state.committed target = state.executed target := by
  have empty := given.exited ended
  simp [ScopeState.committed, empty.1, empty.2]

end Schedulers.CsExecutors
