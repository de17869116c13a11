import Schedulers.CsExecutors.ScopeOrder

/-!
# The chained actions of a disposed scope

`Scope.Dispose` shuts `IO` down before `FS`. An action of `FS` that calls `IO.Post` after
that posts behind the shutdown, or not at all. If `IO` gets its shutdown once the actions
posted to `FS` have made their calls, every chained action is run.
-/

namespace Schedulers.CsExecutors

open Schedulers.TransitionSystem

set_option autoImplicit false

variable {Action : Type}

/-- Every chained action has been run when `Scope.Dispose` returns. -/
def ChainsExecuted (state : ScopeState Action) : Prop :=
  state.main = .returned → ∀ call ∈ state.chained, call ∈ state.executed .io

def ActionStatement.chains : ActionStatement Action → Bool
  | .post .io _ => true
  | .post .fs _ => false
  | .uiPost => false

/-- An action that was posted to `FS` in time waits there and will call `IO.Post`. -/
def ChainsQueued (body : Action → List (ActionStatement Action)) (state : ScopeState Action) :
    Prop :=
  ∃ job ∈ jobsAhead (state.queue .fs),
    job.promised = true ∧ (body job.action).any (·.chains) = true

def ChainsRunning (state : ScopeState Action) : Prop :=
  ∃ running ∈ state.running .fs,
    running.job.promised = true ∧ running.rest.any (·.chains) = true

def ChainsInvoking (state : ScopeState Action) : Prop :=
  ∃ running ∈ state.running .fs,
    running.job.promised = true ∧ ∃ call ∈ running.invoking, call.1 = .io

def ChainsAhead (body : Action → List (ActionStatement Action)) (state : ScopeState Action) :
    Prop :=
  ChainsQueued body state ∨ ChainsRunning state

def ChainPending (body : Action → List (ActionStatement Action)) (state : ScopeState Action) :
    Prop :=
  ChainsAhead body state ∨ ChainsInvoking state

instance (body : Action → List (ActionStatement Action)) (state : ScopeState Action) :
    Decidable (ChainsQueued body state) :=
  inferInstanceAs (Decidable (∃ job ∈ jobsAhead (state.queue .fs),
    job.promised = true ∧ (body job.action).any (·.chains) = true))

instance (state : ScopeState Action) : Decidable (ChainsRunning state) :=
  inferInstanceAs (Decidable (∃ running ∈ state.running .fs,
    running.job.promised = true ∧ running.rest.any (·.chains) = true))

instance (state : ScopeState Action) : Decidable (ChainsInvoking state) :=
  inferInstanceAs (Decidable (∃ running ∈ state.running .fs,
    running.job.promised = true ∧ ∃ call ∈ running.invoking, call.1 = .io))

instance (body : Action → List (ActionStatement Action)) (state : ScopeState Action) :
    Decidable (ChainPending body state) :=
  inferInstanceAs (Decidable ((ChainsQueued body state ∨ ChainsRunning state) ∨
    ChainsInvoking state))

/-- `Dispose` hands `IO` its shutdown when no chained call is to come. -/
def DisposesAfterChains (body : Action → List (ActionStatement Action)) :
    Permission (ScopeState Action) ScopeLabel
  | .main, state => state.main = .disposing .io .invoke → ¬ ChainPending body state
  | .ui, _ => True
  | .executor _, _ => True

instance [DecidableEq Action] (body : Action → List (ActionStatement Action)) :
    ∀ label state, Decidable (DisposesAfterChains body label state)
  | .main, state => inferInstanceAs
      (Decidable (state.main = .disposing .io .invoke → ¬ ChainPending body state))
  | .ui, _ => isTrue trivial
  | .executor _, _ => isTrue trivial

def Unserved (body : Action → List (ActionStatement Action)) (state : ScopeState Action) : Prop :=
  (∃ call ∈ state.chained, call ∉ state.committed .io) ∨ ChainsAhead body state

/-- A noted call is one that `IO` is committed to, or the one that is being made. -/
structure Placed (state : ScopeState Action) : Prop where
  placed : state.main.sent .io = false → ∀ call ∈ state.chained,
    call ∈ state.committed .io ∨ ChainsInvoking state ∧ call = state.currentCall (.executor .fs)
  noted : ChainsInvoking state → state.currentCall (.executor .fs) ∈ state.chained

variable {body : Action → List (ActionStatement Action)} {program : List (MainStatement Action)}
  {label : ScopeLabel} {state next : ScopeState Action}

/-- Until the shutdown is sent, what is not served is what is still to come. -/
theorem unserved_iff_pending (placed : Placed state) (numbered : Numbered state)
    (unsent : state.main.sent .io = false) : Unserved body state ↔ ChainPending body state := by
  constructor
  · rintro (⟨call, listed, missed⟩ | ahead)
    · rcases placed.placed unsent call listed with committed | ⟨invoking, -⟩
      · exact absurd committed missed
      · exact .inr invoking
    · exact .inl ahead
  · rintro (ahead | invoking)
    · exact .inr ahead
    · exact .inl ⟨_, placed.noted invoking, numbered.current_not_committed _ _⟩

theorem chains_running_iff {running : RunningJob Action}
    (runs : state.running .fs = some running) :
    ChainsRunning state ↔ running.job.promised = true ∧ running.rest.any (·.chains) = true := by
  simp [ChainsRunning, runs]

theorem chains_ahead_congr (queue : jobsAhead (next.queue .fs) = jobsAhead (state.queue .fs))
    (running : next.running .fs = state.running .fs) :
    ChainsAhead body next ↔ ChainsAhead body state := by
  unfold ChainsAhead ChainsQueued ChainsRunning
  rw [queue, running]

theorem chains_queued_late (called : state.main.disposeCalled = true) (other : ExecutorName)
    (poster : Poster) (action : Action)
    (queue : next.queue = state.enqueued other (.action (state.newJob poster action))) :
    ChainsQueued body next ↔ ChainsQueued body state := by
  unfold ChainsQueued
  rw [queue]
  by_cases closed : state.Closed .fs
  · rw [jobs_ahead_enqueued_closed closed]
  · by_cases same : ExecutorName.fs = other
    · subst same
      rw [jobs_ahead_enqueued_open closed]
      simp [ScopeState.newJob, called, or_and_right, exists_or]
    · rw [enqueued_other same]

theorem not_chains_running_of_idle (idle : state.running .fs = none) : ¬ ChainsRunning state := by
  simp [ChainsRunning, idle]

def ChainsKept (body : Action → List (ActionStatement Action))
    (state next : ScopeState Action) : Prop :=
  next.chained = state.chained ∧ (ChainsAhead body next ↔ ChainsAhead body state) ∨
    next.chained = state.chained ++ [state.currentCall (.executor .fs)] ∧ ChainsAhead body state

theorem chains_kept_post {running : RunningJob Action} {other : ExecutorName} {action : Action}
    {rest : List (ActionStatement Action)} {invoking : Option (ExecutorName × Action)}
    {calls : Poster → Nat} (runs : state.running .fs = some running)
    (statement : running.rest = .post other action :: rest) :
    ChainsKept body state { state with
      chained := state.noted .fs running.job other
      calls := calls
      running := Function.update state.running .fs (some ⟨running.job, invoking, rest⟩) } := by
  by_cases chain : running.job.promised = true ∧ other = .io
  · right
    obtain ⟨promised, rfl⟩ := chain
    refine ⟨state.noted_chained promised, .inr ?_⟩
    rw [chains_running_iff runs, statement]
    exact ⟨promised, rfl⟩
  · left
    refine ⟨state.noted_other chain, or_congr Iff.rfl ?_⟩
    rw [chains_running_iff runs, chains_running_iff rfl, statement]
    cases other with
    | fs => rfl
    | io =>
        have late : ¬ running.job.promised = true := by simpa using chain
        simp [late]

theorem chains_kept_move (move : ScopeMove body state label next)
    (called : state.main.disposeCalled = true) : ChainsKept body state next := by
  cases move with
  | mainMoves => exact .inl ⟨rfl, Iff.rfl⟩
  | mainSkips => exact .inl ⟨rfl, Iff.rfl⟩
  | mainInvokes _ _ _ stands =>
      rw [stands] at called
      cases called
  | sendsShutdown other stands =>
      exact .inl ⟨rfl, chains_ahead_congr (jobs_ahead_enqueued_shutdown other .fs) rfl⟩
  | setsDisposed => exact .inl ⟨rfl, Iff.rfl⟩
  | signalled => exact .inl ⟨rfl, Iff.rfl⟩
  | invokes name other running action runs begun =>
      left
      refine ⟨rfl, or_congr (chains_queued_late called other _ action rfl) ?_⟩
      cases name with
      | io => rfl
      | fs => rw [chains_running_iff runs, chains_running_iff rfl]
  | skips name other running action rest runs between statement ended =>
      cases name with
      | io => exact .inl ⟨rfl, Iff.rfl⟩
      | fs =>
          exact chains_kept_post runs statement
  | posts name other running action rest runs between statement accepts =>
      cases name with
      | io => exact .inl ⟨rfl, Iff.rfl⟩
      | fs =>
          exact chains_kept_post runs statement
  | uiPosts name running rest runs between statement =>
      left
      refine ⟨rfl, or_congr Iff.rfl ?_⟩
      cases name with
      | io => rfl
      | fs =>
          rw [chains_running_iff runs, chains_running_iff rfl, statement]
          rfl
  | finishes name running runs between statement =>
      left
      refine ⟨rfl, or_congr Iff.rfl ?_⟩
      cases name with
      | io => rfl
      | fs =>
          rw [chains_running_iff runs, statement]
          simp [ChainsRunning]
  | takes name job rest idle live queued =>
      left
      refine ⟨rfl, ?_⟩
      cases name with
      | io => rfl
      | fs =>
          have nothing := not_chains_running_of_idle idle
          unfold ChainsAhead
          rw [chains_running_iff rfl]
          simp [ChainsQueued, nothing, queued, or_comm]
  | exits name rest idle live queued =>
      left
      refine ⟨rfl, ?_⟩
      cases name with
      | io => rfl
      | fs =>
          refine chains_ahead_congr ?_ rfl
          rw [queued]
          rfl

theorem dispose_called_of_sent {point : MainPoint Action} {target : ExecutorName}
    (sent : point.sent target = true) : point.disposeCalled = true := by
  cases point with
  | working => cases sent
  | invoking => cases sent
  | disposing => rfl
  | returned => rfl

theorem unserved_kept (move : ScopeMove body state label next) (numbered : Numbered state)
    (called : state.main.disposeCalled = true)
    (same : next.committed .io = state.committed .io) :
    Unserved body next ↔ Unserved body state := by
  rcases chains_kept_move move called with ⟨chained, ahead⟩ | ⟨chained, ahead⟩
  · unfold Unserved
    rw [chained, same, ahead]
  · apply iff_of_true
    · left
      refine ⟨state.currentCall (.executor .fs), ?_, ?_⟩
      · simp [chained]
      · rw [same]
        exact numbered.current_not_committed _ _
    · exact .inr ahead

theorem chains_invoking_iff {running : RunningJob Action}
    (runs : state.running .fs = some running) :
    ChainsInvoking state ↔
      running.job.promised = true ∧ ∃ call ∈ running.invoking, call.1 = .io := by
  simp [ChainsInvoking, runs]

theorem not_chains_invoking_between {running : RunningJob Action}
    (runs : state.running .fs = some running) (between : running.invoking = none) :
    ¬ ChainsInvoking state := by
  simp [chains_invoking_iff runs, between]

theorem not_chains_invoking_idle (idle : state.running .fs = none) : ¬ ChainsInvoking state := by
  simp [ChainsInvoking, idle]

theorem unsent_before (move : ScopeMove body state label next)
    (orderly : ∀ target, Orderly state target) {target : ExecutorName}
    (unsent : next.main.sent target = false) : state.main.sent target = false := by
  by_contra sent
  rw [sent_for_good move orderly (by simpa using sent)] at unsent
  cases unsent

theorem placed_untouched (move : ScopeMove body state label next)
    (orderly : ∀ target, Orderly state target) (given : Placed state)
    (running : next.running .fs = state.running .fs)
    (calls : next.calls (.executor .fs) = state.calls (.executor .fs))
    (chained : next.chained = state.chained) : Placed next := by
  have invoking : ChainsInvoking next ↔ ChainsInvoking state := by
    unfold ChainsInvoking
    rw [running]
  have current : next.currentCall (.executor .fs) = state.currentCall (.executor .fs) := by
    unfold ScopeState.currentCall
    rw [calls]
  constructor
  · intro unsent call listed
    rw [chained] at listed
    rw [invoking, current]
    have before := given.placed (unsent_before move orderly unsent) call listed
    exact before.imp_left (committed_subset move)
  · rw [invoking, current, chained]
    exact given.noted

theorem placed_accepted (move : ScopeMove body state label next)
    (orderly : ∀ target, Orderly state target) (given : Placed state)
    (after : ¬ ChainsInvoking next) (chained : next.chained = state.chained)
    (accepted : state.main.sent .io = false → ChainsInvoking state →
      state.currentCall (.executor .fs) ∈ next.committed .io) : Placed next where
  placed unsent call listed := by
    have before := unsent_before move orderly unsent
    rw [chained] at listed
    left
    rcases given.placed before call listed with committed | ⟨making, rfl⟩
    · exact committed_subset move committed
    · exact accepted before making
  noted making := absurd making after

theorem placed_between (move : ScopeMove body state label next)
    (orderly : ∀ target, Orderly state target) (given : Placed state)
    (before : ¬ ChainsInvoking state) (after : ¬ ChainsInvoking next)
    (chained : next.chained = state.chained) : Placed next :=
  placed_accepted move orderly given after chained fun _ making => absurd making before

theorem placed_begun (move : ScopeMove body state label next)
    (orderly : ∀ target, Orderly state target) (given : Placed state)
    (before : ¬ ChainsInvoking state) (after : ChainsInvoking next)
    (calls : next.calls = state.calls)
    (chained : next.chained = state.chained ++ [state.currentCall (.executor .fs)]) :
    Placed next := by
  have current : next.currentCall (.executor .fs) = state.currentCall (.executor .fs) := by
    unfold ScopeState.currentCall
    rw [calls]
  constructor
  · intro unsent call listed
    rw [chained, List.mem_append, List.mem_singleton] at listed
    rcases listed with earlier | rfl
    · rcases given.placed (unsent_before move orderly unsent) call earlier with committed | making
      · exact .inl (committed_subset move committed)
      · exact absurd making.1 before
    · exact .inr ⟨after, current.symm⟩
  · intro _
    simp [chained, current]

theorem placed_move (move : ScopeMove body state label next)
    (orderly : ∀ target, Orderly state target) (given : Placed state) : Placed next := by
  have moved := move
  cases move with
  | mainMoves => exact placed_untouched moved orderly given rfl rfl rfl
  | mainSkips => exact placed_untouched moved orderly given rfl rfl rfl
  | mainInvokes => exact placed_untouched moved orderly given rfl rfl rfl
  | sendsShutdown => exact placed_untouched moved orderly given rfl rfl rfl
  | setsDisposed => exact placed_untouched moved orderly given rfl rfl rfl
  | signalled => exact placed_untouched moved orderly given rfl rfl rfl
  | invokes name other running action runs begun =>
      cases name with
      | io => exact placed_untouched moved orderly given rfl rfl rfl
      | fs =>
          apply placed_accepted moved orderly given (not_chains_invoking_between rfl rfl) rfl
          -- the call being made is accepted, as the shutdown has not been sent
          intro unsent making
          have target : other = .io := by
            simpa [begun] using ((chains_invoking_iff runs).mp making).2
          subst target
          have grown := committed_enqueued_open ((orderly .io).accepts unsent) (.executor .fs)
            action (running_call_same runs none running.rest .io)
          have listed : state.currentCall (.executor .fs) ∈
              state.committed .io ++ [state.currentCall (.executor .fs)] := by simp
          rw [← grown] at listed
          exact listed
  | skips name other running action rest runs between statement ended =>
      cases name with
      | io => exact placed_untouched moved orderly given rfl rfl rfl
      | fs =>
          have before := not_chains_invoking_between runs between
          cases other with
          | fs =>
              exact placed_between moved orderly given before
                (not_chains_invoking_between rfl between) (state.noted_other (by simp))
          | io =>
              have closed : state.Closed .io := .inr ((orderly .io).disposed ended)
              refine ⟨fun unsent => ?_, fun making => ?_⟩
              · exact absurd closed ((orderly .io).accepts unsent)
              · exact absurd making (not_chains_invoking_between rfl between)
  | posts name other running action rest runs between statement accepts =>
      cases name with
      | io => exact placed_untouched moved orderly given rfl rfl rfl
      | fs =>
          have before := not_chains_invoking_between runs between
          by_cases chain : running.job.promised = true ∧ other = .io
          · obtain ⟨promised, rfl⟩ := chain
            apply placed_begun moved orderly given before _ rfl (state.noted_chained promised)
            rw [chains_invoking_iff rfl]
            exact ⟨promised, (.io, action), rfl, rfl⟩
          · apply placed_between moved orderly given before _ (state.noted_other chain)
            rw [chains_invoking_iff rfl]
            simpa using chain
  | uiPosts name running rest runs between statement =>
      cases name with
      | io => exact placed_untouched moved orderly given rfl rfl rfl
      | fs =>
          exact placed_between moved orderly given (not_chains_invoking_between runs between)
            (not_chains_invoking_between rfl between) rfl
  | finishes name running runs between statement =>
      cases name with
      | io => exact placed_untouched moved orderly given rfl rfl rfl
      | fs =>
          exact placed_between moved orderly given (not_chains_invoking_between runs between)
            (not_chains_invoking_idle rfl) rfl
  | takes name job rest idle live queued =>
      cases name with
      | io => exact placed_untouched moved orderly given rfl rfl rfl
      | fs =>
          exact placed_between moved orderly given (not_chains_invoking_idle idle)
            (not_chains_invoking_between rfl rfl) rfl
  | exits => exact placed_untouched moved orderly given rfl rfl rfl

structure ScopeInvariant (state : ScopeState Action) : Prop where
  orderly : ∀ target, Orderly state target
  numbered : Numbered state
  placed : Placed state

theorem scope_invariant_start (program : List (MainStatement Action)) :
    ScopeInvariant (.start program) where
  orderly := orderly_start program
  numbered _ _ listed := nomatch listed
  placed := ⟨fun _ _ listed => (nomatch listed), fun making =>
    absurd making (not_chains_invoking_idle rfl)⟩

theorem scope_invariant_move (move : ScopeMove body state label next)
    (given : ScopeInvariant state) : ScopeInvariant next where
  orderly := orderly_move move given.orderly
  numbered := numbered_move move given.numbered
  placed := placed_move move given.orderly given.placed

structure Served (body : Action → List (ActionStatement Action)) (state : ScopeState Action) :
    Prop where
  invariant : ScopeInvariant state
  served : state.main.sent .io = true → ¬ Unserved body state

theorem unserved_sends (body : Action → List (ActionStatement Action))
    (taken : mainStep state = some next) (given : ScopeInvariant state)
    (stands : state.main = .disposing .io .invoke) :
    next.main.sent .io = true ∧ (Unserved body next ↔ ChainPending body state) := by
  have move : ScopeMove body state .main next := main_step_moves taken
  have unsent : state.main.sent .io = false := by rw [stands]; rfl
  have called : state.main.disposeCalled = true := by rw [stands]; rfl
  unfold mainStep at taken
  rw [stands] at taken
  dsimp only [disposeStep] at taken
  rw [ScopeState.begin_invoke_eq] at taken
  cases taken
  rw [← unserved_iff_pending given.placed given.numbered unsent]
  refine ⟨rfl, unserved_kept move given.numbered called ?_⟩
  unfold ScopeState.committed
  dsimp only
  rw [jobs_ahead_enqueued_shutdown]

theorem unserved_after_sent (move : ScopeMove body state label next)
    (given : ScopeInvariant state) (sent : state.main.sent .io = true) :
    Unserved body next ↔ Unserved body state := by
  have closed := ((given.orderly .io).closed_iff).mpr sent
  exact unserved_kept move given.numbered (dispose_called_of_sent sent)
    (committed_closed move closed)

theorem served_step (taken : (scopeSystem body program).step label state = some next)
    (allowed : DisposesAfterChains body label state) (given : Served body state) :
    Served body next where
  invariant := scope_invariant_move (scope_move taken) given.invariant
  served after := by
    have move := scope_move taken
    rcases sent_move move given.invariant.orderly after with sent | ⟨rfl, stands⟩
    · rw [unserved_after_sent move given.invariant sent]
      exact given.served sent
    · rw [(unserved_sends body taken given.invariant stands).2]
      exact allowed stands

theorem served_reachable
    (reached : Reachable (scopeSystem body program) (DisposesAfterChains body) state) :
    Served body state := by
  apply reached.keeps
  · rintro _ rfl
    exact ⟨scope_invariant_start program, fun sent => nomatch sent⟩
  · intro label state next given allowed taken
    exact served_step taken allowed given

theorem chains_executed_iff (given : ∀ target, Orderly state target)
    (returned : state.main = .returned) :
    Unserved body state ↔ ∃ call ∈ state.chained, call ∉ state.executed .io := by
  have ended (target : ExecutorName) : state.exited target = true :=
    (given target).joined (by rw [returned]; rfl)
  have empty := (given .fs).exited (ended .fs)
  unfold Unserved
  rw [(given .io).committed_executed (ended .io), or_iff_left]
  rintro (⟨job, queued, -⟩ | runs)
  · rw [empty.1] at queued
    cases queued
  · exact not_chains_running_of_idle empty.2 runs

theorem unserved_for_good {later : ScopeState Action} (given : ScopeInvariant state)
    (sent : state.main.sent .io = true) (unserved : Unserved body state)
    (run : Run (scopeSystem body program) anyStep state later) :
    ScopeInvariant later ∧ Unserved body later := by
  have kept : ScopeInvariant later ∧ later.main.sent .io = true ∧ Unserved body later := by
    apply run.keeps _ ⟨given, sent, unserved⟩
    rintro label before after ⟨invariant, passed, missed⟩ _ taken
    have move := scope_move taken
    refine ⟨scope_invariant_move move invariant, sent_for_good move invariant.orderly passed, ?_⟩
    rwa [unserved_after_sent move invariant passed]
  exact ⟨kept.1, kept.2.2⟩

/-- In every run in which `IO` gets its shutdown after the chained calls, all chained actions
have been run when `Scope.Dispose` returns. If it gets the shutdown before, one is missing
whenever `Scope.Dispose` returns after that. -/
theorem chained_actions_run_when_shut_down_after_chains
    (body : Action → List (ActionStatement Action)) (program : List (MainStatement Action))
    (state : ScopeState Action)
    (reached : Reachable (scopeSystem body program) (DisposesAfterChains body) state) :
    ChainsExecuted state ∧
    ∀ label next, (scopeSystem body program).step label state = some next →
      ¬ DisposesAfterChains body label state →
      ∀ later, Run (scopeSystem body program) anyStep next later →
        later.main = .returned → ∃ call ∈ later.chained, call ∉ later.executed .io := by
  have given := served_reachable reached
  constructor
  · intro returned call listed
    have served := given.served (by rw [returned]; rfl)
    rw [chains_executed_iff given.invariant.orderly returned] at served
    by_contra missed
    exact served ⟨call, listed, missed⟩
  · intro label next taken early later run returned
    have move := scope_move taken
    cases label with
    | main =>
        have stands : state.main = .disposing .io .invoke ∧ ChainPending body state := by
          simpa [DisposesAfterChains] using early
        have sends := unserved_sends body taken given.invariant stands.1
        have lost := unserved_for_good (scope_invariant_move move given.invariant) sends.1
          (sends.2.mpr stands.2) run
        exact (chains_executed_iff lost.1.orderly returned).mp lost.2
    | ui => exact absurd trivial early
    | executor name => exact absurd trivial early

/-- `Main` itself, when `FS` has finished before the main thread sees `done`. -/
theorem chained_actions_run_when_shut_down_after_chains_in_main :
    ∃ state : ScopeState MainAction, (state.main = .returned ∧
      state.chained = [⟨.executor .fs, 0⟩]) ∧ ChainsExecuted state := by
  let labels : List ScopeLabel :=
    [.main, .main, .executor .fs, .executor .fs, .executor .fs, .executor .fs, .executor .fs,
      .ui, .main, .main, .main, .main, .executor .io, .executor .io, .executor .io, .main, .main,
      .main, .main, .executor .fs, .main, .main]
  have ⟨state, reached, found⟩ : ∃ state : ScopeState MainAction,
      Reachable (scopeSystem mainBody programMain) (DisposesAfterChains mainBody) state ∧
      state.main = .returned ∧ state.chained = [⟨.executor .fs, 0⟩] :=
    schedule_reaches labels rfl (by decide)
  exact ⟨state, found,
    (chained_actions_run_when_shut_down_after_chains mainBody programMain state reached).1⟩

/-- `Main` itself, when the action on `FS` has signalled the UI and has not yet called
`IO.Post`: the main thread leaves its loop and `IO` gets its shutdown first. -/
theorem signal_before_post_loses_the_chained_action :
    ¬∀ state : ScopeState MainAction,
      Reachable (scopeSystem mainBody programMain) anyStep state → ChainsExecuted state := by
  intro always
  let labels : List ScopeLabel :=
    [.main, .main, .executor .fs, .executor .fs, .ui, .main, .main, .main, .main, .executor .fs,
      .executor .fs, .executor .fs, .executor .io, .main, .main, .main, .main, .executor .fs,
      .main, .main]
  obtain ⟨state, reached, returned, noted, missed⟩ : ∃ state : ScopeState MainAction,
      Reachable (scopeSystem mainBody programMain) anyStep state ∧
      state.main = .returned ∧ state.chained = [⟨.executor .fs, 0⟩] ∧
      state.executed .io = [] :=
    schedule_reaches labels rfl (by decide)
  have executed := always state reached returned ⟨.executor .fs, 0⟩ (by rw [noted]; simp)
  rw [missed] at executed
  cases executed

end Schedulers.CsExecutors
