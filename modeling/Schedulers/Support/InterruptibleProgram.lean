import Mathlib.Logic.Relation
import Mathlib.Data.List.Basic
import Mathlib.Logic.Function.Iterate
import Mathlib.Tactic.Common

/-!
# Statement programs with an interrupt between any two statements

A program is a finite tree of atomic statements over a shared state. A handler
may run, as one atomic step, between any two of them. What happened so far is
kept as a history: the observations of the statements, and for each interrupt
the state the handler found.

`wp` is the weakest precondition of a program under this interference and
`wp_reaches` is its adequacy: a safety condition and a postcondition proved
statement by statement hold in every reachable moment of every interleaving.
-/

namespace Schedulers.InterruptibleProgram

set_option autoImplicit false

/-- `step` is one atomic statement: its effect, what it lets an observer see,
and the rest of the program, chosen by the state the statement read. `fault` is
undefined behaviour: there is no rest. -/
inductive Program (State Event Value : Type) where
  | done (value : Value)
  | fault
  | step (effect : State → State) (events : State → List Event)
      (next : State → Program State Event Value)

inductive Observation (State Event : Type) where
  | interrupt (before : State)
  | event (observed : Event)

structure Moment (State Event : Type) where
  history : List (Observation State Event)
  state : State

/-- `handler before after`: an interrupt taken in `before` may leave `after`. -/
abbrev Handler (State : Type) := State → State → Prop

variable {State Event Value Other Item : Type}

def interruptBy (isr : State → State) : Handler State := fun before after => after = isr before

namespace Moment

def executed (moment : Moment State Event) (effect : State → State)
    (events : State → List Event) : Moment State Event where
  history := moment.history ++ (events moment.state).map .event
  state := effect moment.state

def interrupted (moment : Moment State Event) (next : State) : Moment State Event where
  history := moment.history ++ [.interrupt moment.state]
  state := next

@[simp] theorem executed_history (moment : Moment State Event) (effect : State → State)
    (events : State → List Event) :
    (moment.executed effect events).history =
      moment.history ++ (events moment.state).map .event := rfl

@[simp] theorem executed_state (moment : Moment State Event) (effect : State → State)
    (events : State → List Event) :
    (moment.executed effect events).state = effect moment.state := rfl

@[simp] theorem executed_unread (moment : Moment State Event) :
    (moment.executed id fun _ => []) = moment := by
  simp [executed]

@[simp] theorem interrupted_history (moment : Moment State Event) (next : State) :
    (moment.interrupted next).history = moment.history ++ [.interrupt moment.state] := rfl

@[simp] theorem interrupted_state (moment : Moment State Event) (next : State) :
    (moment.interrupted next).state = next := rfl

end Moment

/-- The states the interrupts of a history found, oldest first. -/
def interruptStates (history : List (Observation State Event)) : List State :=
  history.filterMap fun
    | .interrupt before => some before
    | .event _ => none

def interruptCount (history : List (Observation State Event)) : Nat :=
  (interruptStates history).length

@[simp] theorem interrupt_states_nil :
    interruptStates ([] : List (Observation State Event)) = [] := rfl

@[simp] theorem interrupt_states_append (earlier later : List (Observation State Event)) :
    interruptStates (earlier ++ later) = interruptStates earlier ++ interruptStates later := by
  simp [interruptStates]

@[simp] theorem interrupt_states_interrupt (before : State) :
    interruptStates [(.interrupt before : Observation State Event)] = [before] := rfl

@[simp] theorem interrupt_states_event (event : Event) :
    interruptStates [(.event event : Observation State Event)] = [] := rfl

@[simp] theorem interrupt_states_events (events : List Event) :
    interruptStates (events.map (.event : Event → Observation State Event)) = [] := by
  induction events with
  | nil => rfl
  | cons event events ih => simp [interruptStates]

/-- The observations of a history other than its interrupts. -/
def observedEvents (history : List (Observation State Event)) : List Event :=
  history.filterMap fun
    | .interrupt _ => none
    | .event observed => some observed

theorem mem_observed_events {event : Event} {history : List (Observation State Event)} :
    event ∈ observedEvents history ↔ .event event ∈ history := by
  unfold observedEvents
  rw [List.mem_filterMap]
  constructor
  · intro ⟨observation, member, same⟩
    cases observation with
    | interrupt before => cases same
    | event observed =>
        cases same
        exact member
  · intro member
    exact ⟨_, member, rfl⟩

@[simp] theorem observed_events_nil :
    observedEvents ([] : List (Observation State Event)) = [] := rfl

@[simp] theorem observed_events_append (earlier later : List (Observation State Event)) :
    observedEvents (earlier ++ later) = observedEvents earlier ++ observedEvents later := by
  simp [observedEvents]

@[simp] theorem observed_events_interrupt (before : State)
    (history : List (Observation State Event)) :
    observedEvents (.interrupt before :: history) = observedEvents history := rfl

@[simp] theorem observed_events_event (event : Event) (history : List (Observation State Event)) :
    observedEvents (.event event :: history) = event :: observedEvents history := rfl

theorem append_events {fact : List (Observation State Event) → Prop} {allowed : Event → Prop}
    (each : ∀ history event, allowed event → fact history → fact (history ++ [.event event]))
    {history : List (Observation State Event)} {events : List Event}
    (about : ∀ event ∈ events, allowed event) (given : fact history) :
    fact (history ++ events.map .event) := by
  induction events generalizing history with
  | nil => simpa using given
  | cons event events ih =>
      have next := each history event (about event (by simp)) given
      have rest := ih (fun other member => about other (by simp [member])) next
      simpa using rest

/-- Every observation was good in the light of what had been observed before it. -/
def EveryObservation (good : List (Observation State Event) → Observation State Event → Prop)
    (history : List (Observation State Event)) : Prop :=
  ∀ earlier observation later, history = earlier ++ observation :: later → good earlier observation

theorem every_observation_nil
    (good : List (Observation State Event) → Observation State Event → Prop) :
    EveryObservation good [] := by
  intro earlier observation later split
  cases earlier <;> cases split

theorem every_observation_before
    {good : List (Observation State Event) → Observation State Event → Prop}
    {history earlier later : List (Observation State Event)}
    (all : EveryObservation good history) (split : history = earlier ++ later) :
    EveryObservation good earlier := by
  intro before observation after place
  apply all before observation (after ++ later)
  rw [split, place, List.append_assoc, List.cons_append]

theorem append_singleton_split {history earlier later : List (Observation State Event)}
    {last marked : Observation State Event}
    (split : history ++ [last] = earlier ++ marked :: later) :
    (later = [] ∧ history = earlier ∧ last = marked) ∨
      ∃ initial, later = initial ++ [last] ∧ history = earlier ++ marked :: initial := by
  rcases List.eq_nil_or_concat later with rfl | ⟨initial, ending, rfl⟩
  · exact .inl ⟨rfl, List.append_singleton_inj.mp split⟩
  · rw [List.concat_eq_append, ← List.cons_append, ← List.append_assoc] at split
    obtain ⟨same, rfl⟩ := List.append_singleton_inj.mp split
    exact .inr ⟨initial, List.concat_eq_append, same⟩

theorem every_observation_append_singleton
    {good : List (Observation State Event) → Observation State Event → Prop}
    {history : List (Observation State Event)} {last : Observation State Event} :
    EveryObservation good (history ++ [last]) ↔
      EveryObservation good history ∧ good history last := by
  constructor
  · intro all
    constructor
    · intro earlier observation later split
      apply all earlier observation (later ++ [last])
      rw [split, List.append_assoc, List.cons_append]
    · exact all history last [] rfl
  · intro ⟨before, good_last⟩ earlier observation later split
    rcases append_singleton_split split with ⟨_, rfl, rfl⟩ | ⟨initial, _, same⟩
    · exact good_last
    · exact before earlier observation initial same

namespace Program

def bind : Program State Event Value → (Value → Program State Event Other) →
    Program State Event Other
  | .done value, rest => rest value
  | .fault, _ => .fault
  | .step effect events next, rest => .step effect events fun state => (next state).bind rest

instance : Monad (Program State Event) where
  pure := .done
  bind := bind

@[simp] theorem pure_eq_done (value : Value) :
    (pure value : Program State Event Value) = .done value := rfl

@[simp] theorem done_bind (value : Value) (rest : Value → Program State Event Other) :
    ((.done value : Program State Event Value) >>= rest) = rest value := rfl

@[simp] theorem fault_bind (rest : Value → Program State Event Other) :
    ((.fault : Program State Event Value) >>= rest) = .fault := rfl

@[simp] theorem step_bind (effect : State → State) (events : State → List Event)
    (next : State → Program State Event Value) (rest : Value → Program State Event Other) :
    (.step effect events next >>= rest) = .step effect events fun state => next state >>= rest :=
  rfl

def read (field : State → Value) : Program State Event Value :=
  .step id (fun _ => []) fun state => .done (field state)

/-- A statement that assigns and may be observed. -/
def write (effect : State → State) (events : List Event) : Program State Event Unit :=
  .step effect (fun _ => events) fun _ => .done ()

def forEach : List Item → (Item → Program State Event Unit) → Program State Event Unit
  | [], _ => .done ()
  | item :: rest, body => body item >>= fun _ => forEach rest body

/-- Executes a program to its end with no interrupt; a fault has no result. -/
def run : Program State Event Value → Moment State Event → Option (Value × Moment State Event)
  | .done value, moment => some (value, moment)
  | .fault, _ => none
  | .step effect events next, moment =>
      (next moment.state).run (moment.executed effect events)

theorem run_bind (program : Program State Event Value)
    (rest : Value → Program State Event Other) (moment : Moment State Event) :
    (program >>= rest).run moment =
      (program.run moment).bind fun result => (rest result.1).run result.2 := by
  induction program generalizing moment with
  | done value => rfl
  | fault => rfl
  | step effect events next ih => exact ih moment.state _

theorem run_history {program : Program State Event Value} {start finish : Moment State Event}
    {value : Value} (finished : program.run start = some (value, finish)) :
    ∃ segment, finish.history = start.history ++ segment := by
  induction program generalizing start with
  | done value =>
      cases finished
      exact ⟨[], by simp⟩
  | fault => cases finished
  | step effect events next ih =>
      obtain ⟨segment, history⟩ := ih start.state finished
      exact ⟨_, history.trans (List.append_assoc _ _ _)⟩

theorem bind_assoc {Third : Type} (program : Program State Event Value)
    (first : Value → Program State Event Other) (second : Other → Program State Event Third) :
    ((program >>= first) >>= second) = program >>= fun value => first value >>= second := by
  induction program with
  | done value => rfl
  | fault => rfl
  | step effect events next ih =>
      simp only [step_bind]
      congr 1
      funext state
      exact ih state

theorem bind_done (program : Program State Event Unit) :
    (program >>= fun _ => .done ()) = program := by
  induction program with
  | done value => rfl
  | fault => rfl
  | step effect events next ih =>
      simp only [step_bind]
      congr 1
      funext state
      exact ih state

theorem for_each_append (front back : List Item) (body : Item → Program State Event Unit) :
    forEach (front ++ back) body = forEach front body >>= fun _ => forEach back body := by
  induction front with
  | nil => rfl
  | cons item front ih =>
      rw [List.cons_append, forEach, forEach, bind_assoc]
      congr 1
      funext _
      exact ih

theorem run_for_each {items : List Item} {body : Item → Program State Event Unit}
    {invariant : Moment State Event → Prop}
    (each : ∀ item ∈ items, ∀ start finish, invariant start →
      (body item).run start = some ((), finish) → invariant finish)
    {start finish : Moment State Event} (before : invariant start)
    (finished : (forEach items body).run start = some ((), finish)) : invariant finish := by
  induction items generalizing start with
  | nil =>
      cases finished
      exact before
  | cons item items ih =>
      rw [forEach, run_bind, Option.bind_eq_some_iff] at finished
      obtain ⟨⟨_, next⟩, first, rest⟩ := finished
      exact ih (fun other member => each other (by simp [member]))
        (each item (by simp) start next before first) rest

/-- Every statement of the program satisfies `allowed`, whatever the reads return. -/
def EveryStep (allowed : (State → State) → (State → List Event) → Prop) :
    Program State Event Value → Prop
  | .done _ => True
  | .fault => True
  | .step effect events next => allowed effect events ∧ ∀ state, (next state).EveryStep allowed

theorem every_step_bind {allowed : (State → State) → (State → List Event) → Prop}
    {program : Program State Event Value} {rest : Value → Program State Event Other}
    (first : program.EveryStep allowed) (second : ∀ value, (rest value).EveryStep allowed) :
    (program >>= rest).EveryStep allowed := by
  induction program with
  | done value => exact second value
  | fault => trivial
  | step effect events next ih => exact ⟨first.1, fun state => ih state (first.2 state)⟩

/-- Every value the program can end with satisfies `allowed`, whatever the reads return. -/
def EveryValue (allowed : Value → Prop) : Program State Event Value → Prop
  | .done value => allowed value
  | .fault => True
  | .step _ _ next => ∀ state, (next state).EveryValue allowed

theorem every_value_bind {allowed : Other → Prop} {middle : Value → Prop}
    {program : Program State Event Value} {rest : Value → Program State Event Other}
    (first : program.EveryValue middle)
    (second : ∀ value, middle value → (rest value).EveryValue allowed) :
    (program >>= rest).EveryValue allowed := by
  induction program with
  | done value => exact second value first
  | fault => trivial
  | step effect events next ih => exact fun state => ih state (first state)

end Program

/-- One step of the machine: the handler, or the next statement of the program. -/
inductive Advance (handler : Handler State) :
    Program State Event Value × Moment State Event →
      Program State Event Value × Moment State Event → Prop where
  | interrupt (program : Program State Event Value) (moment : Moment State Event) (next : State)
      (fires : handler moment.state next) :
      Advance handler (program, moment) (program, moment.interrupted next)
  | statement (effect : State → State) (events : State → List Event)
      (next : State → Program State Event Value) (moment : Moment State Event) :
      Advance handler (.step effect events next, moment)
        (next moment.state, moment.executed effect events)

def Reaches (handler : Handler State)
    (start finish : Program State Event Value × Moment State Event) : Prop :=
  Relation.ReflTransGen (Advance handler) start finish

theorem Program.EveryValue.reached {handler : Handler State} {allowed : Value → Prop}
    {program : Program State Event Value} {start finish : Moment State Event} {value : Value}
    (every : program.EveryValue allowed)
    (path : Reaches handler (program, start) (.done value, finish)) : allowed value := by
  have kept : ∀ config, Reaches handler (program, start) config →
      config.1.EveryValue allowed := by
    intro config path
    induction path with
    | refl => exact every
    | tail _ last ih =>
        cases last with
        | interrupt => exact ih
        | statement effect events next moment => exact ih moment.state
  exact kept _ path

def Interrupted (handler : Handler State) (start finish : Moment State Event) : Prop :=
  Relation.ReflTransGen
    (fun before after => ∃ next, handler before.state next ∧ after = before.interrupted next)
    start finish

theorem Program.run_reaches (handler : Handler State) {program : Program State Event Value}
    {moment final : Moment State Event} {value : Value}
    (finished : program.run moment = some (value, final)) :
    Reaches handler (program, moment) (.done value, final) := by
  induction program generalizing moment with
  | done value =>
      cases finished
      exact .refl
  | fault => cases finished
  | step effect events next ih =>
      exact .head (.statement effect events next moment) (ih moment.state finished)

inductive Turn where
  | interrupt
  | statement
  deriving DecidableEq, Repr

/-- One turn of a schedule; a statement turn of a finished program is idle. -/
def takeTurn (isr : State → State) :
    Program State Event Value × Moment State Event → Turn →
      Program State Event Value × Moment State Event
  | (program, moment), .interrupt => (program, moment.interrupted (isr moment.state))
  | (.step effect events next, moment), .statement =>
      (next moment.state, moment.executed effect events)
  | finished, .statement => finished

def follow (isr : State → State) (turns : List Turn)
    (start : Program State Event Value × Moment State Event) :
    Program State Event Value × Moment State Event :=
  turns.foldl (takeTurn isr) start

theorem follow_append (isr : State → State) (earlier later : List Turn)
    (start : Program State Event Value × Moment State Event) :
    follow isr (earlier ++ later) start = follow isr later (follow isr earlier start) :=
  List.foldl_append

theorem follow_done_statements (isr : State → State) (count : Nat) (value : Value)
    (moment : Moment State Event) :
    follow isr (List.replicate count .statement)
        ((.done value : Program State Event Value), moment) = (.done value, moment) := by
  induction count with
  | zero => rfl
  | succ count ih => exact ih

theorem follow_reaches (isr : State → State) (turns : List Turn)
    (start : Program State Event Value × Moment State Event) :
    Reaches (interruptBy isr) start (follow isr turns start) := by
  induction turns generalizing start with
  | nil => exact .refl
  | cons turn turns ih =>
      have rest := ih (takeTurn isr start turn)
      obtain ⟨program, moment⟩ := start
      cases turn with
      | interrupt => exact .head (.interrupt program moment _ rfl) rest
      | statement =>
          cases program with
          | done value => exact rest
          | fault => exact rest
          | step effect events next => exact .head (.statement effect events next moment) rest

theorem follow_done_reaches (isr : State → State) (turns : List Turn)
    (start : Program State Event Value × Moment State Event) (value : Value)
    (finished : (follow isr turns start).1 = .done value) :
    Reaches (interruptBy isr) start (.done value, (follow isr turns start).2) := by
  rw [← finished]
  exact follow_reaches isr turns start

def afterInterrupts (isr : State → State) (moment : Moment State Event) (count : Nat) :
    Moment State Event :=
  (fun moment => moment.interrupted (isr moment.state))^[count] moment

theorem interrupted_after_interrupts (isr : State → State) (moment : Moment State Event)
    (count : Nat) : Interrupted (interruptBy isr) moment (afterInterrupts isr moment count) := by
  induction count with
  | zero => exact .refl
  | succ count ih =>
      rw [afterInterrupts, Function.iterate_succ_apply']
      exact ih.tail ⟨_, rfl, rfl⟩

theorem interrupt_count_after_interrupts (isr : State → State) (moment : Moment State Event)
    (count : Nat) : interruptCount (afterInterrupts isr moment count).history =
      interruptCount moment.history + count := by
  induction count with
  | zero => rfl
  | succ count ih =>
      rw [interruptCount, interruptCount] at ih
      rw [afterInterrupts, Function.iterate_succ_apply']
      simp only [interruptCount, Moment.interrupted_history, interrupt_states_append,
        interrupt_states_interrupt, List.length_append, List.length_singleton]
      change (interruptStates (afterInterrupts isr moment count).history).length + 1 = _
      rw [ih, Nat.add_assoc]

theorem interrupted_reaches {handler : Handler State} (program : Program State Event Value)
    {start finish : Moment State Event} (path : Interrupted handler start finish) :
    Reaches handler (program, start) (program, finish) := by
  induction path with
  | refl => exact .refl
  | tail _ last ih =>
      obtain ⟨next, fires, rfl⟩ := last
      exact ih.tail (.interrupt program _ next fires)

section Verification

variable (handler : Handler State) (safe : Moment State Event → Prop)

/-- `safe` holds from here on at every moment, and `post` when the program ends. -/
def wp (post : Value → Moment State Event → Prop) :
    Program State Event Value → Moment State Event → Prop
  | .done value, moment =>
      ∀ later, Interrupted handler moment later → safe later ∧ post value later
  | .fault, moment => ∀ later, Interrupted handler moment later → safe later
  | .step effect events next, moment =>
      ∀ later, Interrupted handler moment later →
        safe later ∧ wp post (next later.state) (later.executed effect events)

/-- A condition that is safe and that no interrupt can break. -/
structure Assertion where
  holds : Moment State Event → Prop
  sound : ∀ moment, holds moment → safe moment
  stable : ∀ moment next, holds moment → handler moment.state next →
    holds (moment.interrupted next)

def Triple (pre : Moment State Event → Prop) (program : Program State Event Value)
    (post : Value → Moment State Event → Prop) : Prop :=
  ∀ moment, pre moment → wp handler safe post program moment

variable {handler safe}

theorem Assertion.interrupted (assertion : Assertion handler safe)
    {start finish : Moment State Event} (before : assertion.holds start)
    (path : Interrupted handler start finish) : assertion.holds finish := by
  induction path with
  | refl => exact before
  | tail _ last ih =>
      obtain ⟨next, fires, rfl⟩ := last
      exact assertion.stable _ next ih fires

theorem wp_interrupted {post : Value → Moment State Event → Prop}
    {program : Program State Event Value} {start finish : Moment State Event}
    (before : wp handler safe post program start) (path : Interrupted handler start finish) :
    wp handler safe post program finish := by
  cases program with
  | done value => exact fun later rest => before later (path.trans rest)
  | fault => exact fun later rest => before later (path.trans rest)
  | step effect events next => exact fun later rest => before later (path.trans rest)

theorem wp_safe {post : Value → Moment State Event → Prop}
    {program : Program State Event Value} {moment : Moment State Event}
    (before : wp handler safe post program moment) : safe moment := by
  cases program with
  | done value => exact (before moment .refl).1
  | fault => exact before moment .refl
  | step effect events next => exact (before moment .refl).1

theorem wp_advance {post : Value → Moment State Event → Prop}
    {start finish : Program State Event Value × Moment State Event}
    (before : wp handler safe post start.1 start.2) (step : Advance handler start finish) :
    wp handler safe post finish.1 finish.2 := by
  cases step with
  | interrupt program moment next fires =>
      exact wp_interrupted before (.single ⟨next, fires, rfl⟩)
  | statement effect events next moment => exact (before moment .refl).2

/-- Adequacy, for the whole run: the precondition is carried along by every step. -/
theorem wp_reaches {post : Value → Moment State Event → Prop}
    {start finish : Program State Event Value × Moment State Event}
    (before : wp handler safe post start.1 start.2) (path : Reaches handler start finish) :
    wp handler safe post finish.1 finish.2 := by
  induction path with
  | refl => exact before
  | tail _ last ih => exact wp_advance ih last

theorem Triple.always_safe {pre : Moment State Event → Prop}
    {program residual : Program State Event Value} {post : Value → Moment State Event → Prop}
    {start finish : Moment State Event} (triple : Triple handler safe pre program post)
    (before : pre start) (path : Reaches handler (program, start) (residual, finish)) :
    safe finish :=
  wp_safe (@wp_reaches _ _ _ _ _ _ (program, start) _ (triple start before) path)

theorem Triple.finally {pre : Moment State Event → Prop}
    {program : Program State Event Value} {post : Value → Moment State Event → Prop}
    {start finish : Moment State Event} {value : Value}
    (triple : Triple handler safe pre program post)
    (before : pre start) (path : Reaches handler (program, start) (.done value, finish)) :
    post value finish :=
  (@wp_reaches _ _ _ _ _ _ (program, start) _ (triple start before) path finish .refl).2

theorem Triple.after_run {pre : Moment State Event → Prop}
    {program : Program State Event Value} {post : Value → Moment State Event → Prop}
    {start finish : Moment State Event} {value : Value}
    (triple : Triple handler safe pre program post)
    (before : pre start) (finished : program.run start = some (value, finish)) :
    post value finish :=
  triple.finally before (program.run_reaches handler finished)

def Assertion.and {safeToo : Moment State Event → Prop} (first : Assertion handler safe)
    (second : Assertion handler safeToo) :
    Assertion handler (fun moment => safe moment ∧ safeToo moment) where
  holds moment := first.holds moment ∧ second.holds moment
  sound moment given := ⟨first.sound moment given.1, second.sound moment given.2⟩
  stable moment next given fires :=
    ⟨first.stable moment next given.1 fires, second.stable moment next given.2 fires⟩

theorem wp_and {safeToo : Moment State Event → Prop} {program : Program State Event Value}
    {post postToo : Value → Moment State Event → Prop} {moment : Moment State Event}
    (first : wp handler safe post program moment)
    (second : wp handler safeToo postToo program moment) :
    wp handler (fun moment => safe moment ∧ safeToo moment)
      (fun value moment => post value moment ∧ postToo value moment) program moment := by
  induction program generalizing moment with
  | done value =>
      intro later path
      have left := first later path
      have right := second later path
      exact ⟨⟨left.1, right.1⟩, left.2, right.2⟩
  | fault => exact fun later path => ⟨first later path, second later path⟩
  | step effect events next ih =>
      intro later path
      have left := first later path
      have right := second later path
      exact ⟨⟨left.1, right.1⟩, ih later.state left.2 right.2⟩

theorem triple_and {safeToo : Moment State Event → Prop}
    {pre preToo : Moment State Event → Prop} {program : Program State Event Value}
    {post postToo : Value → Moment State Event → Prop}
    (first : Triple handler safe pre program post)
    (second : Triple handler safeToo preToo program postToo) :
    Triple handler (fun moment => safe moment ∧ safeToo moment)
      (fun moment => pre moment ∧ preToo moment) program
      fun value moment => post value moment ∧ postToo value moment := by
  intro moment given
  exact wp_and (first moment given.1) (second moment given.2)

theorem wp_consequence {program : Program State Event Value}
    {weak post : Value → Moment State Event → Prop} {moment : Moment State Event}
    (weaken : ∀ value moment, weak value moment → post value moment)
    (established : wp handler safe weak program moment) :
    wp handler safe post program moment := by
  induction program generalizing moment with
  | done value =>
      intro later path
      exact ⟨(established later path).1, weaken value later (established later path).2⟩
  | fault => exact established
  | step effect events next ih =>
      intro later path
      exact ⟨(established later path).1, ih later.state (established later path).2⟩

theorem triple_consequence {pre strong : Moment State Event → Prop}
    {program : Program State Event Value} {weak post : Value → Moment State Event → Prop}
    (triple : Triple handler safe pre program weak)
    (strengthen : ∀ moment, strong moment → pre moment)
    (weaken : ∀ value moment, weak value moment → post value moment) :
    Triple handler safe strong program post :=
  fun moment before => wp_consequence weaken (triple moment (strengthen moment before))

theorem triple_done (pre : Assertion handler safe) (value : Value) :
    Triple handler safe pre.holds (.done value)
      fun result moment => result = value ∧ pre.holds moment := by
  intro moment before later path
  have still := pre.interrupted before path
  exact ⟨pre.sound later still, rfl, still⟩

theorem triple_fault (pre : Assertion handler safe) (post : Value → Moment State Event → Prop) :
    Triple handler safe pre.holds .fault post := by
  intro moment before later path
  exact pre.sound later (pre.interrupted before path)

theorem triple_step (pre : Assertion handler safe) {effect : State → State}
    {events : State → List Event} {next : State → Program State Event Value}
    {post : Value → Moment State Event → Prop}
    (rest : ∀ moment, pre.holds moment →
      wp handler safe post (next moment.state) (moment.executed effect events)) :
    Triple handler safe pre.holds (.step effect events next) post := by
  intro moment before later path
  have still := pre.interrupted before path
  exact ⟨pre.sound later still, rest later still⟩

theorem triple_bind {pre : Moment State Event → Prop} {program : Program State Event Value}
    (middle : Value → Moment State Event → Prop) {rest : Value → Program State Event Other}
    {post : Other → Moment State Event → Prop}
    (first : Triple handler safe pre program middle)
    (second : ∀ value, Triple handler safe (middle value) (rest value) post) :
    Triple handler safe pre (program >>= rest) post := by
  intro moment before
  have established := first moment before
  clear before first
  induction program generalizing moment with
  | done value => exact second value moment (established moment .refl).2
  | fault => exact established
  | step effect events next ih =>
      intro later path
      exact ⟨(established later path).1, ih later.state _ (established later path).2⟩

/-- What was read is tied to the moment of reading only by facts an interrupt
cannot break; `learned` names them. -/
theorem triple_read (pre : Assertion handler safe) (field : State → Value)
    (learned : Value → Assertion handler safe)
    (reads : ∀ moment, pre.holds moment → (learned (field moment.state)).holds moment) :
    Triple handler safe pre.holds (.read field)
      (fun value moment => (learned value).holds moment) := by
  refine triple_step pre fun moment before => ?_
  rw [Moment.executed_unread]
  intro later path
  have still := (learned (field moment.state)).interrupted (reads moment before) path
  exact ⟨(learned _).sound later still, still⟩

theorem triple_write (pre post : Assertion handler safe) {effect : State → State}
    {events : List Event}
    (writes : ∀ moment, pre.holds moment →
      post.holds (moment.executed effect fun _ => events)) :
    Triple handler safe pre.holds (.write effect events) fun _ => post.holds := by
  refine triple_step pre fun moment before later path => ?_
  have still := post.interrupted (writes moment before) path
  exact ⟨post.sound later still, still⟩

theorem triple_for_each {items : List Item} {body : Item → Program State Event Unit}
    (invariant : Assertion handler safe)
    (each : ∀ item ∈ items,
      Triple handler safe invariant.holds (body item) fun _ => invariant.holds) :
    Triple handler safe invariant.holds (.forEach items body) fun _ => invariant.holds := by
  induction items with
  | nil =>
      exact triple_consequence (triple_done invariant ()) (fun _ given => given)
        fun _ _ given => given.2
  | cons item items ih =>
      exact triple_bind _ (each item (by simp))
        fun _ => ih fun other member => each other (by simp [member])

/-- The frame rule: a condition kept by each statement is kept by the program. -/
theorem triple_every_step (invariant : Assertion handler safe)
    {program : Program State Event Value}
    (kept : program.EveryStep fun effect events => ∀ moment,
      invariant.holds moment → invariant.holds (moment.executed effect events)) :
    Triple handler safe invariant.holds program fun _ => invariant.holds := by
  induction program with
  | done value =>
      exact triple_consequence (triple_done invariant value) (fun _ given => given)
        fun _ _ given => given.2
  | fault => exact triple_fault invariant _
  | step effect events next ih =>
      exact triple_step invariant fun moment before =>
        ih moment.state (kept.2 moment.state) _ (kept.1 moment before)

end Verification

end Schedulers.InterruptibleProgram
