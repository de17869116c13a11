import Schedulers.Actors.ActorsModel

/-!
# The active objects drain in order

Whatever its termination test, a dispatch loop that takes the messages one at a time
and stops behind the shutdown message executes what was enqueued before it. The
messages that were sent are those executed, the one in hand and those in the queue,
in this order; both loops keep it so.
-/

namespace Schedulers.Actors

open Schedulers.TransitionSystem Schedulers.NotifyMonitor Schedulers.Queues

set_option autoImplicit false

variable {Sender Message Point : Type}

def beforeShutdown : List (ActorMessage Message) → List Message
  | [] => []
  | .message body :: rest => body :: beforeShutdown rest
  | .shutdown :: _ => []

def Dispatcher.point : Dispatcher Point → Point
  | .running point => point
  | .waiting point => point
  | .woken point => point

/-- What a loop that drains in order does. At the `valid` points `hand` is what has been
dequeued and not executed, and `work` bounds what is left to do with it. -/
structure DrainingLoop (loop : DispatchLoop Message Point) (valid : Point → Prop)
    (hand : Point → List (ActorMessage Message)) (work : Point → Nat) : Prop where
  start : valid loop.start ∧ hand loop.start = []
  dequeue : ∀ point next, valid point → loop.action point = .dequeue next →
    hand point = [] ∧
      ∀ msg, valid (next msg) ∧ hand (next msg) = [msg] ∧ work (next msg) < work point + 4
  execute : ∀ point message next, valid point → loop.action point = .execute message next →
    hand point = [.message message] ∧ valid next ∧ hand next = [] ∧ work next < work point
  goTo : ∀ point next, valid point → loop.action point = .goTo next →
    valid next ∧ hand next = hand point ∧ work next < work point
  finished : ∀ point, valid point → loop.action point = .finished → hand point = [.shutdown]

structure Accounted (loop : DispatchLoop Message Point) (valid : Point → Prop)
    (hand : Point → List (ActorMessage Message)) (state : ActorState Message Point) : Prop where
  valid : valid state.dispatcher.point
  enqueued : state.enqueued =
    state.executed.map .message ++ (hand state.dispatcher.point ++ state.mq)
  waiting : ∀ point, state.dispatcher = .waiting point →
    state.mq = [] ∧ ∃ next, loop.action point = .dequeue next
  woken : ∀ point, state.dispatcher = .woken point → ∃ next, loop.action point = .dequeue next
  shutdown : state.destructor ≠ .notEntered → .shutdown ∈ state.enqueued
  joined : state.destructor = .joined → state.dispatcher.exited loop = true

def Cc98Point.hand : Cc98Point Message → List (ActorMessage Message)
  | .dequeue => []
  | .test msg => [msg]
  | .execute msg => [.message msg]
  | .finished => [.shutdown]

def Cc98Point.work : Cc98Point Message → Nat
  | .dequeue => 0
  | .test _ => 2
  | .execute _ => 1
  | .finished => 0

theorem cc98_run_drains :
    DrainingLoop (cc98Run Message) (fun _ => True) Cc98Point.hand Cc98Point.work where
  start := ⟨trivial, rfl⟩
  dequeue point next _ action := by
    rcases point with _ | (_ | _) | _ | _ <;> cases action
    exact ⟨rfl, fun msg => ⟨trivial, rfl, by simp [Cc98Point.work]⟩⟩
  execute point message next _ action := by
    rcases point with _ | (_ | _) | _ | _ <;> cases action
    exact ⟨rfl, trivial, rfl, by simp [Cc98Point.work]⟩
  goTo point next _ action := by
    rcases point with _ | (_ | _) | _ | _ <;> cases action
    · exact ⟨trivial, rfl, by simp [Cc98Point.work]⟩
    · exact ⟨trivial, rfl, by simp [Cc98Point.work]⟩
  finished point _ action := by
    rcases point with _ | (_ | _) | _ | _ <;> cases action
    rfl

def Cc11Point.valid : Cc11Point Message → Prop
  | ⟨false, .finished⟩ => False
  | ⟨true, .dequeue⟩ => False
  | ⟨true, .execute _⟩ => False
  | _ => True

def Cc11Point.hand : Cc11Point Message → List (ActorMessage Message)
  | ⟨_, .execute msg⟩ => [msg]
  | ⟨true, _⟩ => [.shutdown]
  | ⟨false, _⟩ => []

def Cc11Point.work : Cc11Point Message → Nat
  | ⟨_, .test⟩ => 1
  | ⟨_, .dequeue⟩ => 0
  | ⟨_, .execute _⟩ => 2
  | ⟨_, .finished⟩ => 0

theorem cc11_run_drains :
    DrainingLoop (cc11Run Message) Cc11Point.valid Cc11Point.hand Cc11Point.work where
  start := ⟨trivial, rfl⟩
  dequeue point next valid action := by
    rcases point with ⟨_ | _, _ | _ | (_ | _) | _⟩ <;> cases action
    · exact ⟨rfl, fun msg => ⟨trivial, rfl, by simp [Cc11Point.work]⟩⟩
    · exact valid.elim
  execute point message next valid action := by
    rcases point with ⟨_ | _, _ | _ | (_ | _) | _⟩ <;> cases action
    · exact ⟨rfl, trivial, rfl, by simp [Cc11Point.work]⟩
    · exact valid.elim
  goTo point next valid action := by
    rcases point with ⟨_ | _, _ | _ | (_ | _) | _⟩ <;> cases action
    · exact ⟨trivial, rfl, by simp [Cc11Point.work]⟩
    · exact ⟨trivial, rfl, by simp [Cc11Point.work]⟩
    · exact ⟨trivial, rfl, by simp [Cc11Point.work]⟩
    · exact valid.elim
  finished point valid action := by
    rcases point with ⟨_ | _, _ | _ | (_ | _) | _⟩ <;> cases action
    · exact valid.elim
    · rfl

theorem enqueue_eq (state : ActorState Message Point) (message : ActorMessage Message) :
    state.enqueue message = { state with
      mq := state.mq ++ [message]
      dispatcher := state.dispatcher.notified
      enqueued := state.enqueued ++ [message] } :=
  rfl

theorem dispatch_step_cases {loop : DispatchLoop Message Point}
    {state after : ActorState Message Point} (taken : dispatchStep loop state = some after) :
    (∃ point next, (state.dispatcher = .running point ∨ state.dispatcher = .woken point) ∧
      loop.action point = .dequeue next ∧
      ((state.mq = [] ∧ after = { state with dispatcher := .waiting point }) ∨
        ∃ val rest, state.mq = val :: rest ∧
          after = { state with mq := rest, dispatcher := .running (next val) })) ∨
    (∃ point message next, state.dispatcher = .running point ∧
      loop.action point = .execute message next ∧
      after = { state with
        dispatcher := .running next
        executed := state.executed ++ [message] }) ∨
    (∃ point next, state.dispatcher = .running point ∧ loop.action point = .goTo next ∧
      after = { state with dispatcher := .running next }) := by
  have dequeued (point : Point) (next : ActorMessage Message → Point)
      (section_ : state.dequeue point next = some after) :
      (state.mq = [] ∧ after = { state with dispatcher := .waiting point }) ∨
        ∃ val rest, state.mq = val :: rest ∧
          after = { state with mq := rest, dispatcher := .running (next val) } := by
    unfold ActorState.dequeue at section_
    cases contents : state.mq with
    | nil =>
        simp only [contents, MessageQueue.dequeue, Option.some.injEq] at section_
        left
        rw [← section_, ← contents]
        exact ⟨rfl, rfl⟩
    | cons val rest =>
        simp only [contents, MessageQueue.dequeue, Option.some.injEq] at section_
        exact .inr ⟨val, rest, rfl, section_.symm⟩
  unfold dispatchStep at taken
  cases point : state.dispatcher with
  | running place =>
      simp only [point] at taken
      cases action : loop.action place with
      | dequeue next =>
          simp only [action] at taken
          exact .inl ⟨place, next, .inl rfl, action, dequeued place next taken⟩
      | execute message next =>
          simp only [action, Option.some.injEq] at taken
          exact .inr (.inl ⟨place, message, next, rfl, action, taken.symm⟩)
      | goTo next =>
          simp only [action, Option.some.injEq] at taken
          exact .inr (.inr ⟨place, next, rfl, action, taken.symm⟩)
      | finished => simp [action] at taken
  | woken place =>
      simp only [point] at taken
      cases action : loop.action place with
      | dequeue next =>
          simp only [action] at taken
          exact .inl ⟨place, next, .inr rfl, action, dequeued place next taken⟩
      | execute message next => simp [action] at taken
      | goTo next => simp [action] at taken
      | finished => simp [action] at taken
  | waiting place => simp [point] at taken

theorem notified_point (dispatcher : Dispatcher Point) :
    dispatcher.notified.point = dispatcher.point := by
  cases dispatcher <;> rfl

theorem notified_waiting (dispatcher : Dispatcher Point) (point : Point) :
    dispatcher.notified ≠ .waiting point := by
  cases dispatcher <;> simp [Dispatcher.notified]

theorem notified_exited {loop : DispatchLoop Message Point} (dispatcher : Dispatcher Point) :
    dispatcher.notified.exited loop = dispatcher.exited loop := by
  cases dispatcher <;> rfl

theorem exited_stays {loop : DispatchLoop Message Point} {state after : ActorState Message Point}
    (exited : state.dispatcher.exited loop = true) : dispatchStep loop state ≠ some after := by
  intro taken
  rcases dispatch_step_cases taken with ⟨point, next, where_, action, _⟩ |
    ⟨point, message, next, where_, action, _⟩ | ⟨point, next, where_, action, _⟩
  · rcases where_ with running | woken
    · simp [running, Dispatcher.exited, action] at exited
    · simp [woken, Dispatcher.exited] at exited
  · simp [where_, Dispatcher.exited, action] at exited
  · simp [where_, Dispatcher.exited, action] at exited

section Steps

variable {loop : DispatchLoop Message Point} {valid : Point → Prop}
  {hand : Point → List (ActorMessage Message)} {work : Point → Nat}
  {state after : ActorState Message Point}

theorem accounted_enqueue (given : Accounted loop valid hand state)
    (message : ActorMessage Message) : Accounted loop valid hand (state.enqueue message) := by
  rw [enqueue_eq]
  constructor
  · dsimp only
    rw [notified_point]
    exact given.valid
  · dsimp only
    rw [notified_point, given.enqueued]
    simp only [List.append_assoc]
  · intro point waits
    exact absurd waits (notified_waiting _ point)
  · intro point wakes
    dsimp only at wakes
    cases before : state.dispatcher with
    | running place => simp [before, Dispatcher.notified] at wakes
    | waiting place =>
        simp only [before, Dispatcher.notified, Dispatcher.woken.injEq] at wakes
        subst wakes
        exact (given.waiting place before).2
    | woken place =>
        simp only [before, Dispatcher.notified, Dispatcher.woken.injEq] at wakes
        subst wakes
        exact given.woken place before
  · intro entered
    exact List.mem_append_left _ (given.shutdown entered)
  · intro joined
    dsimp only
    rw [notified_exited]
    exact given.joined joined

theorem accounted_running {point : Point} (running : after.dispatcher = .running point)
    (holds : valid point)
    (enqueued : after.enqueued = after.executed.map .message ++ (hand point ++ after.mq))
    (shutdown : after.destructor ≠ .notEntered → .shutdown ∈ after.enqueued)
    (notJoined : after.destructor ≠ .joined) : Accounted loop valid hand after where
  valid := by
    rw [running]
    exact holds
  enqueued := by
    rw [running]
    exact enqueued
  waiting place waits := by
    rw [running] at waits
    cases waits
  woken place wakes := by
    rw [running] at wakes
    cases wakes
  shutdown := shutdown
  joined joined := absurd joined notJoined

theorem accounted_dispatch (drains : DrainingLoop loop valid hand work)
    (given : Accounted loop valid hand state) (taken : dispatchStep loop state = some after) :
    Accounted loop valid hand after := by
  have enqueued := given.enqueued
  have holds := given.valid
  have notJoined : state.destructor ≠ .joined := fun joined =>
    exited_stays (given.joined joined) taken
  rcases dispatch_step_cases taken with ⟨point, next, where_, action, how⟩ |
    ⟨point, message, next, where_, action, rfl⟩ | ⟨point, next, where_, action, rfl⟩
  · have here : state.dispatcher.point = point := by
      rcases where_ with running | woken
      · rw [running]
        rfl
      · rw [woken]
        rfl
    rw [here] at enqueued holds
    obtain ⟨empty, each⟩ := drains.dequeue point next holds action
    rcases how with ⟨nothing, rfl⟩ | ⟨val, rest, contents, rfl⟩
    · constructor
      · exact holds
      · exact enqueued
      · intro place waits
        obtain rfl := Dispatcher.waiting.inj waits
        exact ⟨nothing, next, action⟩
      · intro place wakes
        cases wakes
      · exact given.shutdown
      · exact fun joined => absurd joined notJoined
    · obtain ⟨fine, held, _⟩ := each val
      refine accounted_running rfl fine ?_ given.shutdown notJoined
      rw [empty, contents, List.nil_append] at enqueued
      dsimp only
      rw [held, enqueued]
      rfl
  · rw [where_] at enqueued holds
    obtain ⟨held, fine, empty, _⟩ := drains.execute point message next holds action
    refine accounted_running rfl fine ?_ given.shutdown notJoined
    dsimp only [Dispatcher.point] at enqueued ⊢
    rw [held] at enqueued
    rw [enqueued, empty, List.map_append]
    simp
  · rw [where_] at enqueued holds
    obtain ⟨fine, same, _⟩ := drains.goTo point next holds action
    refine accounted_running rfl fine ?_ given.shutdown notJoined
    dsimp only [Dispatcher.point] at enqueued ⊢
    rw [same]
    exact enqueued

theorem accounted_spurious {point : Point} (given : Accounted loop valid hand state)
    (waits : state.dispatcher = .waiting point) :
    Accounted loop valid hand { state with dispatcher := .woken point } := by
  have enqueued := given.enqueued
  have holds := given.valid
  rw [waits] at enqueued holds
  refine ⟨holds, enqueued, ?_, ?_, given.shutdown, ?_⟩
  · intro place still
    cases still
  · intro place wakes
    cases wakes
    exact (given.waiting point waits).2
  · intro joined
    have exited := given.joined joined
    simp [waits, Dispatcher.exited] at exited

theorem accounted_step (drains : DrainingLoop loop valid hand work)
    {label : ActorLabel Sender Message} (given : Accounted loop valid hand state)
    (taken : actorStep loop label state = some after) : Accounted loop valid hand after := by
  cases label with
  | send sender message =>
      simp only [actorStep] at taken
      split_ifs at taken
      cases taken
      exact accounted_enqueue given _
  | sendFromBody message =>
      simp only [actorStep] at taken
      split_ifs at taken
      cases taken
      exact accounted_enqueue given _
  | shutdown =>
      simp only [actorStep] at taken
      split_ifs at taken
      cases taken
      have sent := accounted_enqueue given (.shutdown : ActorMessage Message)
      refine ⟨sent.valid, sent.enqueued, sent.waiting, sent.woken, ?_, ?_⟩
      · intro _
        rw [enqueue_eq]
        simp
      · intro joined
        cases joined
  | dispatch => exact accounted_dispatch drains given taken
  | spurious =>
      cases before : state.dispatcher with
      | waiting place =>
          simp only [actorStep, before, Option.some.injEq] at taken
          subst taken
          exact accounted_spurious given before
      | running place => simp [actorStep, before] at taken
      | woken place => simp [actorStep, before] at taken
  | join =>
      simp only [actorStep] at taken
      split_ifs at taken with ready
      cases taken
      refine ⟨given.valid, given.enqueued, given.waiting, given.woken, ?_, ?_⟩
      · intro _
        apply given.shutdown
        rw [ready.1]
        simp
      · exact fun _ => ready.2

theorem accounted_reachable (drains : DrainingLoop loop valid hand work)
    (reached : Reachable (actorSystem Sender loop) anyStep state) :
    Accounted loop valid hand state := by
  apply reached.keeps
  · intro start begins
    rw [begins]
    constructor
    · exact drains.start.1
    · simp [ActorState.start, Dispatcher.point, drains.start.2]
    · simp [ActorState.start]
    · simp [ActorState.start]
    · simp [ActorState.start]
    · simp [ActorState.start]
  · intro label before after given _ taken
    exact accounted_step drains given taken

theorem shutdown_to_come (given : Accounted loop valid hand state)
    (entered : state.destructor ≠ .notEntered) :
    .shutdown ∈ hand state.dispatcher.point ++ state.mq := by
  have sent := given.shutdown entered
  rw [given.enqueued] at sent
  rcases List.mem_append.mp sent with executed | toCome
  · obtain ⟨body, _, same⟩ := List.mem_map.mp executed
    cases same
  · exact toCome

theorem message_to_dequeue (drains : DrainingLoop loop valid hand work)
    (given : Accounted loop valid hand state) (entered : state.destructor ≠ .notEntered)
    {next : ActorMessage Message → Point}
    (action : loop.action state.dispatcher.point = .dequeue next) :
    ∃ val rest, state.mq = val :: rest ∧
      work (next val) < work state.dispatcher.point + 4 := by
  obtain ⟨empty, each⟩ := drains.dequeue _ next given.valid action
  have toCome := shutdown_to_come given entered
  rw [empty, List.nil_append] at toCome
  obtain ⟨val, rest, contents⟩ := List.exists_cons_of_ne_nil (List.ne_nil_of_mem toCome)
  exact ⟨val, rest, contents, (each val).2.2⟩

theorem dequeue_progress (drains : DrainingLoop loop valid hand work)
    (given : Accounted loop valid hand state) (entered : state.destructor ≠ .notEntered)
    {next : ActorMessage Message → Point}
    (action : loop.action state.dispatcher.point = .dequeue next) :
    ∃ after, state.dequeue state.dispatcher.point next = some after ∧
      after.destructor = state.destructor ∧
      4 * after.mq.length + work after.dispatcher.point <
        4 * state.mq.length + work state.dispatcher.point := by
  obtain ⟨val, rest, contents, less⟩ := message_to_dequeue drains given entered action
  refine ⟨{ state with mq := rest, dispatcher := .running (next val) }, ?_, rfl, ?_⟩
  · simp [ActorState.dequeue, contents, MessageQueue.dequeue]
  · change 4 * rest.length + work (next val) < _
    rw [contents, List.length_cons]
    omega

/-- As long as it has not exited the dispatch thread can go on, and has less to do. -/
theorem dispatch_progress (drains : DrainingLoop loop valid hand work)
    (given : Accounted loop valid hand state) (entered : state.destructor ≠ .notEntered)
    (runs : state.dispatcher.exited loop = false) :
    ∃ next, dispatchStep loop state = some next ∧ next.destructor = state.destructor ∧
      4 * next.mq.length + work next.dispatcher.point <
        4 * state.mq.length + work state.dispatcher.point := by
  have holds := given.valid
  have dequeued := @dequeue_progress _ _ _ _ _ _ state drains given entered
  cases point : state.dispatcher with
  | waiting place =>
      obtain ⟨nothing, next, action⟩ := given.waiting place point
      have here : loop.action state.dispatcher.point = .dequeue next := by
        rw [point]
        exact action
      obtain ⟨val, rest, contents, _⟩ := message_to_dequeue drains given entered here
      rw [nothing] at contents
      cases contents
  | woken place =>
      obtain ⟨next, action⟩ := given.woken place point
      rw [point] at dequeued
      obtain ⟨after, taken, same, less⟩ := dequeued action
      refine ⟨after, ?_, same, less⟩
      simp only [dispatchStep, point, action]
      exact taken
  | running place =>
      rw [point] at dequeued holds
      cases action : loop.action place with
      | dequeue next =>
          obtain ⟨after, taken, same, less⟩ := dequeued action
          refine ⟨after, ?_, same, less⟩
          simp only [dispatchStep, point, action]
          exact taken
      | execute message next =>
          have less := (drains.execute place message next holds action).2.2.2
          refine ⟨{ state with
            dispatcher := .running next
            executed := state.executed ++ [message] }, ?_, rfl, ?_⟩
          · simp [dispatchStep, point, action]
          · exact Nat.add_lt_add_left less _
      | goTo next =>
          have less := (drains.goTo place next holds action).2.2
          refine ⟨{ state with dispatcher := .running next }, ?_, rfl, ?_⟩
          · simp [dispatchStep, point, action]
          · exact Nat.add_lt_add_left less _
      | finished => simp [point, Dispatcher.exited, action] at runs

theorem join_returns (drains : DrainingLoop loop valid hand work)
    (given : Accounted loop valid hand state) (joining : state.destructor = .joining) :
    ∃ later, Run (actorSystem Sender loop) anyStep state later ∧
      later.destructor = .joined := by
  induction left : 4 * state.mq.length + work state.dispatcher.point
    using Nat.strong_induction_on generalizing state with
  | _ left ih =>
      cases exited : state.dispatcher.exited loop with
      | true =>
          have taken : (actorSystem Sender loop).step .join state =
              some { state with destructor := .joined } := by
            simp [actorSystem, actorStep, joining, exited]
          exact ⟨_, Run.single .join trivial taken, rfl⟩
      | false =>
          have entered : state.destructor ≠ .notEntered := by simp [joining]
          obtain ⟨next, taken, same, less⟩ := dispatch_progress drains given entered exited
          have still := accounted_dispatch drains given taken
          obtain ⟨later, run, joined⟩ := ih _ (left ▸ less) still (same.trans joining) rfl
          exact ⟨later, (Run.single .dispatch trivial taken).trans run, joined⟩

end Steps

theorem before_shutdown_append (executed : List Message) (rest : List (ActorMessage Message)) :
    beforeShutdown (executed.map .message ++ rest) = executed ++ beforeShutdown rest := by
  induction executed with
  | nil => rfl
  | cons body executed ih =>
      change body :: beforeShutdown (executed.map .message ++ rest) = _
      rw [ih]
      rfl

/-- What has been executed is in order, is everything when the join has returned, and
the join can return once the shutdown message has been sent. -/
structure DrainsInOrder (Sender : Type) (loop : DispatchLoop Message Point)
    (state : ActorState Message Point) : Prop where
  inOrder : ∃ toCome, beforeShutdown state.enqueued = state.executed ++ toCome
  complete : state.destructor = .joined → state.executed = beforeShutdown state.enqueued
  returns : state.destructor = .joining →
    ∃ later, Run (actorSystem Sender loop) anyStep state later ∧ later.destructor = .joined

theorem loop_drains_in_order {loop : DispatchLoop Message Point} {valid : Point → Prop}
    {hand : Point → List (ActorMessage Message)} {work : Point → Nat}
    {state : ActorState Message Point} (drains : DrainingLoop loop valid hand work)
    (reached : Reachable (actorSystem Sender loop) anyStep state) :
    DrainsInOrder Sender loop state := by
  have given := accounted_reachable drains reached
  constructor
  · rw [given.enqueued, before_shutdown_append]
    exact ⟨_, rfl⟩
  · intro joined
    have exited := given.joined joined
    have holds := given.valid
    rw [given.enqueued, before_shutdown_append]
    cases point : state.dispatcher with
    | running place =>
        rw [point] at exited holds
        cases action : loop.action place with
        | finished =>
            have last := drains.finished place holds action
            simp [Dispatcher.point, last, beforeShutdown]
        | dequeue next => simp [Dispatcher.exited, action] at exited
        | execute message next => simp [Dispatcher.exited, action] at exited
        | goTo next => simp [Dispatcher.exited, action] at exited
    | waiting place => simp [point, Dispatcher.exited] at exited
    | woken place => simp [point, Dispatcher.exited] at exited
  · exact join_returns drains given

/-- Both active objects execute exactly what was enqueued before the shutdown message,
in that order, before the join of the destructor returns; so they agree on what they
execute when the same has been enqueued. -/
theorem actors_drain_in_order_and_agree (Sender Message : Type) :
    (∀ state, Reachable (actorSystem Sender (cc98Run Message)) anyStep state →
      DrainsInOrder Sender (cc98Run Message) state) ∧
    (∀ state, Reachable (actorSystem Sender (cc11Run Message)) anyStep state →
      DrainsInOrder Sender (cc11Run Message) state) ∧
    ∀ actor actior, Reachable (actorSystem Sender (cc98Run Message)) anyStep actor →
      Reachable (actorSystem Sender (cc11Run Message)) anyStep actior →
      actor.destructor = .joined → actior.destructor = .joined →
      actor.enqueued = actior.enqueued → actor.executed = actior.executed := by
  have first : ∀ state, Reachable (actorSystem Sender (cc98Run Message)) anyStep state →
      DrainsInOrder Sender (cc98Run Message) state :=
    fun _ reached => loop_drains_in_order cc98_run_drains reached
  have second : ∀ state, Reachable (actorSystem Sender (cc11Run Message)) anyStep state →
      DrainsInOrder Sender (cc11Run Message) state :=
    fun _ reached => loop_drains_in_order cc11_run_drains reached
  refine ⟨first, second, ?_⟩
  intro actor actior actorReached actiorReached actorJoined actiorJoined same
  rw [(first actor actorReached).complete actorJoined,
    (second actior actiorReached).complete actiorJoined, same]

/-- A body sends a message of its own, and one sender comes after the shutdown. -/
theorem actors_drain_in_order_and_agree_late_sender :
    ∃ (actor : ActorState Nat (Cc98Point Nat)) (actior : ActorState Nat (Cc11Point Nat)),
      actor.destructor = .joined ∧ actior.destructor = .joined ∧
      actor.enqueued = [.message 1, .message 2, .shutdown, .message 3] ∧
      actor.executed = beforeShutdown actor.enqueued ∧ actor.executed = actior.executed := by
  let sends : List (ActorLabel Nat Nat) :=
    [.sendFromBody 2, .shutdown, .send 0 3]
  let actorLabels := [.dispatch, .send 0 1] ++ List.replicate 2 .dispatch ++ sends ++
    List.replicate 6 .dispatch ++ [.join]
  let actiorLabels := List.replicate 2 .dispatch ++ [.send 0 1, .dispatch] ++ sends ++
    List.replicate 8 .dispatch ++ [.join]
  obtain ⟨actor, actorReached, actorJoined, actorSent⟩ : ∃ actor,
      Reachable (actorSystem Nat (cc98Run Nat)) anyStep actor ∧ actor.destructor = .joined ∧
      actor.enqueued = [.message 1, .message 2, .shutdown, .message 3] :=
    schedule_reaches actorLabels rfl (by decide)
  obtain ⟨actior, actiorReached, actiorJoined, actiorSent⟩ : ∃ actior,
      Reachable (actorSystem Nat (cc11Run Nat)) anyStep actior ∧ actior.destructor = .joined ∧
      actior.enqueued = [.message 1, .message 2, .shutdown, .message 3] :=
    schedule_reaches actiorLabels rfl (by decide)
  obtain ⟨first, _, agree⟩ := actors_drain_in_order_and_agree Nat Nat
  exact ⟨actor, actior, actorJoined, actiorJoined, actorSent,
    (first actor actorReached).complete actorJoined,
    agree actor actior actorReached actiorReached actorJoined actiorJoined
      (actorSent.trans actiorSent.symm)⟩

end Schedulers.Actors
