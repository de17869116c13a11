import Schedulers.Support.TransitionSystem
import Schedulers.Support.ThreadCounting
import Schedulers.Support.FifoHistory

/-!
# `QueuePthread` of `test_pthread_safe_queue.cc`

Both overloads of `pop` test the list before they take the lock, and do not test it
again under the lock. The test is one step and each locked section another. The
elements that are in the list when a consumer tests it may all be taken by consumers
that have tested before it: then `front` and `pop_front` are executed on an empty
list. Copies of elements are taken not to throw.
-/

namespace Schedulers.Queues

open Schedulers.TransitionSystem Schedulers.ThreadCounting Schedulers.FifoHistory

set_option autoImplicit false

/-- The two overloads; `r` is what the destination of the second holds. -/
inductive PopCall (T : Type) where
  | pop
  | popInto (r : T)
  deriving DecidableEq, Repr

inductive PopPoint (T : Type) where
  | outside
  | tested (call : PopCall T)
  deriving DecidableEq, Repr

inductive QueuePthreadResult (T : Type) where
  | pushed (value : T)
  | thrown (call : PopCall T)
  | returned (value : T)
  | assigned (r : T)
  deriving DecidableEq, Repr

/-- `frontOnEmpty` says that `front` and `pop_front` have been executed on an empty
list; what the program does from then on is undefined. -/
structure QueuePthreadState (Thread T : Type) where
  list : List T
  thread : Thread → PopPoint T
  frontOnEmpty : Bool
  log : List (QueuePthreadResult T)

inductive QueuePthreadLabel (Thread T : Type) where
  | push (thread : Thread) (value : T)
  | test (thread : Thread) (call : PopCall T)
  | take (thread : Thread)
  deriving DecidableEq, Repr

variable {Thread T : Type}

def PopPoint.isTested : PopPoint T → Prop
  | .outside => False
  | .tested _ => True

def PopCall.result (value : T) : PopCall T → QueuePthreadResult T
  | .pop => .returned value
  | .popInto _ => .assigned value

section Steps

variable [DecidableEq Thread]

def queuePthreadStep :
    QueuePthreadLabel Thread T → QueuePthreadState Thread T → Option (QueuePthreadState Thread T)
  | .push thread value, state =>
      match state.frontOnEmpty, state.thread thread with
      | false, .outside =>
          some { state with
            list := state.list ++ [value]
            log := state.log ++ [.pushed value] }
      | _, _ => none
  | .test thread call, state =>
      match state.frontOnEmpty, state.thread thread with
      | false, .outside =>
          if state.list.isEmpty then some { state with log := state.log ++ [.thrown call] }
          else some { state with thread := Function.update state.thread thread (.tested call) }
      | _, _ => none
  | .take thread, state =>
      match state.frontOnEmpty, state.thread thread with
      | false, .tested call =>
          match state.list with
          | [] => some { state with frontOnEmpty := true }
          | front :: rest =>
              some { state with
                list := rest
                thread := Function.update state.thread thread .outside
                log := state.log ++ [call.result front] }
      | _, _ => none

def queuePthreadSystem (Thread T : Type) [DecidableEq Thread] :
    System (QueuePthreadState Thread T) (QueuePthreadLabel Thread T) where
  initial state :=
    state = { list := [], thread := fun _ => .outside, frontOnEmpty := false, log := [] }
  step := queuePthreadStep

end Steps

def QueuePthreadResult.event : QueuePthreadResult T → Option (FifoEvent T)
  | .pushed value => some (.pushed value)
  | .thrown _ => none
  | .returned value => some (.popped value)
  | .assigned r => some (.popped r)

def QueuePthreadState.events (state : QueuePthreadState Thread T) : List (FifoEvent T) :=
  state.log.filterMap QueuePthreadResult.event

/-- A test that finds an element finds more of them than there are consumers that have
tested before and not taken theirs yet. -/
def TestCovers : Permission (QueuePthreadState Thread T) (QueuePthreadLabel Thread T)
  | .test _ _, state =>
      state.list ≠ [] → ¬AtLeast state.list.length PopPoint.isTested state.thread
  | _, _ => True

structure ElementsForAll (state : QueuePthreadState Thread T) : Prop where
  defined : state.frontOnEmpty = false
  covered : ¬AtLeast (state.list.length + 1) PopPoint.isTested state.thread
  ordered : Fifo state.events state.list

variable {state next : QueuePthreadState Thread T}

theorem events_quiet {result : QueuePthreadResult T} (quiet : result.event = none) :
    QueuePthreadState.events { state with log := state.log ++ [result] } = state.events := by
  simp [QueuePthreadState.events, quiet]

theorem elements_for_all_push {value : T} (given : ElementsForAll state) :
    ElementsForAll { state with
      list := state.list ++ [value]
      log := state.log ++ [.pushed value] } where
  defined := given.defined
  covered more := by
    rw [List.length_append] at more
    exact given.covered (more.fewer (Nat.le_succ _))
  ordered := by
    have grown := given.ordered.push value
    simpa [QueuePthreadState.events, QueuePthreadResult.event] using grown

variable [DecidableEq Thread]

theorem queue_pthread_step_cases {label : QueuePthreadLabel Thread T}
    (taken : queuePthreadStep label state = some next) :
    state.frontOnEmpty = false ∧
    ((∃ thread value, label = .push thread value ∧
        next = { state with
          list := state.list ++ [value]
          log := state.log ++ [.pushed value] }) ∨
      (∃ thread call, label = .test thread call ∧ state.list = [] ∧
        next = { state with log := state.log ++ [.thrown call] }) ∨
      (∃ thread call, label = .test thread call ∧ state.thread thread = .outside ∧
        state.list ≠ [] ∧
        next = { state with thread := Function.update state.thread thread (.tested call) }) ∨
      (∃ thread call, label = .take thread ∧ state.thread thread = .tested call ∧
        state.list = [] ∧ next = { state with frontOnEmpty := true }) ∨
      (∃ thread call front rest, label = .take thread ∧ state.thread thread = .tested call ∧
        state.list = front :: rest ∧
        next = { state with
          list := rest
          thread := Function.update state.thread thread .outside
          log := state.log ++ [call.result front] })) := by
  cases undefined : state.frontOnEmpty with
  | true =>
      cases label <;> simp [queuePthreadStep, undefined] at taken
  | false =>
      refine ⟨rfl, ?_⟩
      cases label with
      | push thread value =>
          cases point : state.thread thread <;> simp only [queuePthreadStep, undefined, point,
            reduceCtorEq, Option.some.injEq] at taken
          exact .inl ⟨thread, value, rfl, taken.symm⟩
      | test thread call =>
          cases point : state.thread thread <;> simp only [queuePthreadStep, undefined, point,
            reduceCtorEq] at taken
          split_ifs at taken with empty
          · rw [List.isEmpty_iff] at empty
            exact .inr (.inl ⟨thread, call, rfl, empty, (Option.some.inj taken).symm⟩)
          · rw [List.isEmpty_iff] at empty
            exact .inr (.inr (.inl ⟨thread, call, rfl, point, empty,
              (Option.some.inj taken).symm⟩))
      | take thread =>
          cases point : state.thread thread <;> simp only [queuePthreadStep, undefined, point,
            reduceCtorEq] at taken
          cases contents : state.list <;> simp only [contents, Option.some.injEq] at taken
          case nil => exact .inr (.inr (.inr (.inl ⟨thread, _, rfl, point, rfl, taken.symm⟩)))
          case cons front rest =>
            exact .inr (.inr (.inr (.inr ⟨thread, _, front, rest, rfl, point, rfl, taken.symm⟩)))

theorem elements_for_all_test {thread : Thread} {call : PopCall T} (given : ElementsForAll state)
    (outside : state.thread thread = .outside)
    (fewer : ¬AtLeast state.list.length PopPoint.isTested state.thread) :
    ElementsForAll { state with
      thread := Function.update state.thread thread (.tested call) } where
  defined := given.defined
  covered more := by
    have before := @AtLeast.leave _ _ _ _ _ _ thread .outside more
    rw [Function.update_idem, ← outside, Function.update_eq_self] at before
    exact fewer before
  ordered := given.ordered

theorem elements_for_all_take {thread : Thread} {call : PopCall T} {front : T} {rest : List T}
    (given : ElementsForAll state) (tested : state.thread thread = .tested call)
    (contents : state.list = front :: rest) :
    ElementsForAll { state with
      list := rest
      thread := Function.update state.thread thread .outside
      log := state.log ++ [call.result front] } where
  defined := given.defined
  covered more := by
    have outside : ¬(Function.update state.thread thread .outside thread).isTested := by
      rw [Function.update_self]
      exact id
    have taker : (PopPoint.tested call).isTested := trivial
    have before := more.arrive outside taker
    rw [Function.update_idem, ← tested, Function.update_eq_self] at before
    apply given.covered
    rw [contents]
    exact before
  ordered := by
    have shrunk := given.ordered
    rw [contents] at shrunk
    cases call <;>
      simpa [QueuePthreadState.events, QueuePthreadResult.event, PopCall.result] using shrunk.pop

theorem elements_for_all_step {label : QueuePthreadLabel Thread T} (given : ElementsForAll state)
    (allowed : TestCovers label state) (taken : queuePthreadStep label state = some next) :
    ElementsForAll next := by
  rcases (queue_pthread_step_cases taken).2 with ⟨thread, value, _, rfl⟩ |
    ⟨thread, call, _, empty, rfl⟩ | ⟨thread, call, rfl, outside, nonempty, rfl⟩ |
    ⟨thread, call, _, tested, empty, rfl⟩ | ⟨thread, call, front, rest, _, tested, contents, rfl⟩
  · exact elements_for_all_push given
  · refine ⟨given.defined, given.covered, ?_⟩
    rw [events_quiet rfl]
    exact given.ordered
  · exact elements_for_all_test given outside (allowed nonempty)
  · have taker : (state.thread thread).isTested := by
      rw [tested]
      trivial
    have covered := given.covered
    rw [empty] at covered
    exact absurd (at_least_one taker) covered
  · exact elements_for_all_take given tested contents

theorem elements_for_all_reachable
    (reached : Reachable (queuePthreadSystem Thread T) TestCovers state) :
    ElementsForAll state := by
  apply reached.keeps
  · intro start begins
    rw [begins]
    refine ⟨rfl, ?_, .empty⟩
    intro more
    obtain ⟨thread, tested⟩ := more.somebody
    exact tested
  · intro label before after given allowed taken
    exact elements_for_all_step given allowed taken

omit [DecidableEq Thread] in
theorem somebody_tested {count : Nat}
    (more : AtLeast (count + 1) PopPoint.isTested state.thread) :
    ∃ thread call, state.thread thread = .tested call := by
  obtain ⟨thread, busy⟩ := more.somebody
  cases point : state.thread thread with
  | outside => simp [point, PopPoint.isTested] at busy
  | tested call => exact ⟨thread, call, point⟩

theorem taken_beyond_the_end (state : QueuePthreadState Thread T)
    (defined : state.frontOnEmpty = false)
    (more : AtLeast (state.list.length + 1) PopPoint.isTested state.thread) :
    ∃ later, Run (queuePthreadSystem Thread T) anyStep state later ∧
      later.frontOnEmpty = true := by
  induction contents : state.list generalizing state with
  | nil =>
      obtain ⟨thread, call, tested⟩ := somebody_tested more
      have taken : queuePthreadStep (.take thread) state =
          some { state with frontOnEmpty := true } := by
        simp [queuePthreadStep, defined, tested, contents]
      exact ⟨_, Run.single (.take thread) trivial taken, rfl⟩
  | cons front rest ih =>
      obtain ⟨thread, call, tested⟩ := somebody_tested more
      let after : QueuePthreadState Thread T := { state with
        list := rest
        thread := Function.update state.thread thread .outside
        log := state.log ++ [call.result front] }
      have taken : queuePthreadStep (.take thread) state = some after := by
        simp [queuePthreadStep, defined, tested, contents, after]
      -- one consumer and one element less
      have still : AtLeast (after.list.length + 1) PopPoint.isTested after.thread := by
        rw [contents] at more
        exact more.leave
      obtain ⟨later, run, undefined⟩ := ih after defined still rfl
      exact ⟨later, (Run.single (.take thread) trivial taken).trans run, undefined⟩

theorem uncovered_test_goes_wrong {label : QueuePthreadLabel Thread T}
    (taken : queuePthreadStep label state = some next) (uncovered : ¬TestCovers label state) :
    ∃ later, Run (queuePthreadSystem Thread T) anyStep next later ∧
      later.frontOnEmpty = true := by
  obtain ⟨defined, how⟩ := queue_pthread_step_cases taken
  rcases how with ⟨thread, value, rfl, _⟩ | ⟨thread, call, rfl, empty, _⟩ |
    ⟨thread, call, rfl, outside, nonempty, rfl⟩ | ⟨thread, call, rfl, _⟩ |
    ⟨thread, call, front, rest, rfl, _⟩
  · exact absurd trivial uncovered
  · exact absurd (fun nonempty => absurd empty nonempty) uncovered
  · have before : AtLeast state.list.length PopPoint.isTested state.thread := by
      by_contra fewer
      exact uncovered fun _ => fewer
    have untested : ¬(state.thread thread).isTested := by
      rw [outside]
      exact id
    have now : (PopPoint.tested call).isTested := trivial
    exact taken_beyond_the_end _ defined (before.arrive untested now)
  · exact absurd trivial uncovered
  · exact absurd trivial uncovered

/-- In every run whose tests are covered `front` and `pop_front` are never executed on
an empty list, and the elements come out in the order in which they were put in, each
once; and from every test that is not covered a run goes on to an empty list. -/
theorem queue_pthread_pops_pushed_elements (state : QueuePthreadState Thread T)
    (reached : Reachable (queuePthreadSystem Thread T) TestCovers state) :
    state.frontOnEmpty = false ∧
    Fifo state.events state.list ∧
    pops state.events ++ state.list = pushes state.events ∧
    ∀ label next, (queuePthreadSystem Thread T).step label state = some next →
      ¬TestCovers label state →
      ∃ later, Run (queuePthreadSystem Thread T) anyStep next later ∧
        later.frontOnEmpty = true := by
  have given := elements_for_all_reachable reached
  refine ⟨given.defined, given.ordered, given.ordered.in_order, ?_⟩
  intro label next taken uncovered
  exact uncovered_test_goes_wrong taken uncovered

/-- One element and one consumer, which has tested but not taken. -/
theorem queue_pthread_pops_pushed_elements_one_consumer :
    ∃ state : QueuePthreadState Nat Nat, state.list = [7] ∧ state.thread 0 = .tested .pop ∧
      state.frontOnEmpty = false := by
  let start : QueuePthreadState Nat Nat :=
    { list := [], thread := fun _ => .outside, frontOnEmpty := false, log := [] }
  let pushed : QueuePthreadState Nat Nat := { start with list := [7], log := [.pushed 7] }
  let tested : QueuePthreadState Nat Nat :=
    { pushed with thread := Function.update pushed.thread 0 (.tested .pop) }
  have first : Run (queuePthreadSystem Nat Nat) TestCovers start pushed :=
    .single (.push 1 7) trivial rfl
  have covered : TestCovers (.test 0 .pop) pushed := by
    intro _ more
    obtain ⟨thread, busy⟩ := more.somebody
    exact busy
  have second : Run (queuePthreadSystem Nat Nat) TestCovers start tested :=
    first.tail (.test 0 .pop) covered rfl
  exact ⟨tested, rfl, rfl, (queue_pthread_pops_pushed_elements tested ⟨start, rfl, second⟩).1⟩

/-- One element and two consumers that both find it. -/
theorem two_tests_before_one_take_go_wrong :
    ¬∀ state : QueuePthreadState Nat Nat,
      Reachable (queuePthreadSystem Nat Nat) anyStep state → state.frontOnEmpty = false := by
  intro always
  let labels : List (QueuePthreadLabel Nat Nat) :=
    [.push 0 7, .test 1 .pop, .test 2 (.popInto 0), .take 1, .take 2]
  obtain ⟨state, reached, undefined⟩ : ∃ state,
      Reachable (queuePthreadSystem Nat Nat) anyStep state ∧ state.frontOnEmpty = true :=
    schedule_reaches labels rfl (by decide)
  rw [always state reached] at undefined
  cases undefined

end Schedulers.Queues
