import Schedulers.TimeTriggered.Sch51Timing
import Mathlib.Data.List.Induction

/-!
# The task table as its users know it

The users of the scheduler see calls and returns. `Ledger` is the table they can
keep from that: an Add enters a task, a Delete strikes out a slot, and a one-shot
task is struck out when its body returns. As long as no body deletes the slot it
runs in, the table in memory agrees with the ledger at every moment, whatever the
timer interrupt divides.
-/

namespace Schedulers.TimeTriggered

open Schedulers.InterruptibleProgram

set_option autoImplicit false

variable {maxTasks : Nat} {Task : Type}

abbrev SchObservation (maxTasks : Nat) (Task : Type) :=
  Observation (SchState maxTasks Task) (SchEvent maxTasks Task)

/-- The task of one Add; the Adds are numbered from zero. -/
structure LedgerEntry (Task : Type) where
  number : Nat
  pFunction : Option Task
  period : Nat
  deriving DecidableEq, Repr

structure Ledger (maxTasks : Nat) (Task : Type) where
  adds : Nat
  entries : Fin maxTasks → Option (LedgerEntry Task)

def Ledger.empty : Ledger maxTasks Task where
  adds := 0
  entries := fun _ => none

def Ledger.observe (ledger : Ledger maxTasks Task) :
    SchObservation maxTasks Task → Ledger maxTasks Task
  | .event (.added index pFunction _ period) =>
      { adds := ledger.adds + 1
        entries := Function.update ledger.entries index
          (some { number := ledger.adds, pFunction := pFunction, period := period }) }
  | .event (.deleting _ index _) =>
      { ledger with entries := Function.update ledger.entries index none }
  | .event (.returned index) =>
      { ledger with
        entries := Function.update ledger.entries index
          ((ledger.entries index).filter fun entry => entry.period ≠ 0) }
  | _ => ledger

/-- No entry but that of the slot depends on the event. -/
def SchEvent.Concerns (index : Fin maxTasks) : SchEvent maxTasks Task → Prop
  | .added slot _ _ _ => slot = index
  | .deleting _ slot _ => slot = index
  | .returned slot => slot = index
  | _ => True

theorem observe_elsewhere {index other : Fin maxTasks} {event : SchEvent maxTasks Task}
    (about : event.Concerns index) (different : other ≠ index)
    (ledger : Ledger maxTasks Task) :
    (ledger.observe (.event event)).entries other = ledger.entries other := by
  cases event with
  | added slot pFunction delay period =>
      cases about
      exact Function.update_of_ne different _ _
  | deleting handle slot pTask =>
      cases about
      exact Function.update_of_ne different _ _
  | returned slot =>
      cases about
      exact Function.update_of_ne different _ _
  | called slot pTask => rfl
  | errorSet code => rfl

def replay (history : SchHistory maxTasks Task) : Ledger maxTasks Task :=
  history.foldl Ledger.observe .empty

@[simp] theorem replay_append_singleton (history : SchHistory maxTasks Task)
    (last : SchObservation maxTasks Task) :
    replay (history ++ [last]) = (replay history).observe last := by
  simp [replay]

def observeRelease (index : Fin maxTasks) (released : Bool) : SchObservation maxTasks Task → Bool
  | .interrupt before => released || decide (before.tasks index).BecomesDue
  | .event (.added slot _ _ _) => if slot = index then false else released
  | _ => released

def releasedSinceAdd (index : Fin maxTasks) (history : SchHistory maxTasks Task) : Bool :=
  history.foldl (observeRelease index) false

@[simp] theorem released_since_add_append_singleton (index : Fin maxTasks)
    (history : SchHistory maxTasks Task) (last : SchObservation maxTasks Task) :
    releasedSinceAdd index (history ++ [last]) =
      observeRelease index (releasedSinceAdd index history) last := by
  simp [releasedSinceAdd]

/-- An Add takes a slot that holds nobody's task, for a function that exists. -/
def FillsFreeSlot (earlier : SchHistory maxTasks Task) : SchObservation maxTasks Task → Prop
  | .event (.added index pFunction _ _) =>
      (replay earlier).entries index = none ∧ pFunction ≠ none
  | _ => True

def CalledWhenDue (earlier : SchHistory maxTasks Task) : SchObservation maxTasks Task → Prop
  | .event (.called index _) => releasedSinceAdd index earlier = true
  | _ => True

def noSlot : Fin maxTasks → Prop := fun _ => False

def anySlot : Fin maxTasks → Prop := fun _ => True

/-- The table agrees with the ledger. Slots in `opened` may still hold the remains
of a task that has left the ledger; `deletes` says whether anyone may call
`SCH_Delete_Task`. -/
structure FollowsLedger (deletes : Prop) (opened : Fin maxTasks → Prop)
    (moment : SchMoment maxTasks Task) : Prop where
  listed : ∀ index entry, (replay moment.history).entries index = some entry →
    (moment.state.tasks index).pTask = entry.pFunction ∧ entry.pFunction ≠ none ∧
      (moment.state.tasks index).period = entry.period
  unlisted : ∀ index, ¬opened index → (replay moment.history).entries index = none →
    moment.state.tasks index = .zero
  released : ∀ index, ¬opened index → (moment.state.tasks index).runMe ≠ 0 →
    releasedSinceAdd index moment.history = true
  undisplaced : EveryObservation FillsFreeSlot moment.history
  justified : EveryObservation CalledWhenDue moment.history
  deletions : ∀ handle index pTask,
    .event (.deleting handle index pTask) ∈ moment.history → deletes

theorem FollowsLedger.mono {deletes : Prop} {narrow wide : Fin maxTasks → Prop}
    {moment : SchMoment maxTasks Task} (given : FollowsLedger deletes narrow moment)
    (wider : ∀ index, narrow index → wide index) : FollowsLedger deletes wide moment where
  listed := given.listed
  unlisted index closed := given.unlisted index fun inside => closed (wider index inside)
  released index closed := given.released index fun inside => closed (wider index inside)
  undisplaced := given.undisplaced
  justified := given.justified
  deletions := given.deletions

theorem FollowsLedger.free_slot {deletes : Prop} {opened : Fin maxTasks → Prop}
    {moment : SchMoment maxTasks Task} (given : FollowsLedger deletes opened moment)
    {index : Fin maxTasks} (free : (moment.state.tasks index).pTask = none) :
    (replay moment.history).entries index = none := by
  cases content : (replay moment.history).entries index with
  | none => rfl
  | some entry =>
      have listed := given.listed index entry content
      exact absurd (listed.1.symm.trans free) listed.2.1

theorem follows_ledger_update {deletes : Prop} {opened : Fin maxTasks → Prop}
    {moment : SchMoment maxTasks Task} (given : FollowsLedger deletes opened moment) :
    FollowsLedger deletes opened (moment.interrupted (schUpdate moment.state)) where
  listed index entry content := by
    rw [Moment.interrupted_history, replay_append_singleton] at content
    rw [Moment.interrupted_state, sch_update_tasks, update_task_p_task, update_task_period]
    exact given.listed index entry content
  unlisted index closed content := by
    rw [Moment.interrupted_history, replay_append_singleton] at content
    rw [Moment.interrupted_state, sch_update_tasks, given.unlisted index closed content]
    exact update_task_free rfl
  released index closed nonzero := by
    rw [Moment.interrupted_history, released_since_add_append_singleton]
    rw [Moment.interrupted_state, sch_update_tasks, update_task_run_me] at nonzero
    by_cases due : (moment.state.tasks index).BecomesDue
    · simp [observeRelease, due]
    · rw [if_neg due] at nonzero
      simp [observeRelease, given.released index closed nonzero]
  undisplaced := every_observation_append_singleton.mpr ⟨given.undisplaced, trivial⟩
  justified := every_observation_append_singleton.mpr ⟨given.justified, trivial⟩
  deletions handle index pTask member := by
    apply given.deletions handle index pTask
    simpa using member

theorem FollowsLedger.observe {deletes : Prop} {opened : Fin maxTasks → Prop}
    {history : SchHistory maxTasks Task} {state : SchState maxTasks Task}
    (given : FollowsLedger deletes opened ⟨history, state⟩)
    {event : SchEvent maxTasks Task}
    (unmoved : (replay history).observe (.event event) = replay history)
    (notAdded : ∀ index released, observeRelease index released (.event event) = released)
    (fills : FillsFreeSlot history (.event event)) (due : CalledWhenDue history (.event event))
    (notDeleting : ∀ handle index pTask, event ≠ .deleting handle index pTask) :
    FollowsLedger deletes opened ⟨history ++ [.event event], state⟩ where
  listed := by
    rw [replay_append_singleton, unmoved]
    exact given.listed
  unlisted := by
    rw [replay_append_singleton, unmoved]
    exact given.unlisted
  released index closed nonzero := by
    rw [released_since_add_append_singleton, notAdded]
    exact given.released index closed nonzero
  undisplaced := every_observation_append_singleton.mpr ⟨given.undisplaced, fills⟩
  justified := every_observation_append_singleton.mpr ⟨given.justified, due⟩
  deletions handle index pTask member := by
    rcases List.mem_append.mp member with old | new
    · exact given.deletions handle index pTask old
    · simp only [List.mem_singleton, Observation.event.injEq] at new
      exact absurd new.symm (notDeleting handle index pTask)

theorem FollowsLedger.leave {deletes : Prop} {history : SchHistory maxTasks Task}
    {state : SchState maxTasks Task} (given : FollowsLedger deletes noSlot ⟨history, state⟩)
    {event : SchEvent maxTasks Task} {index : Fin maxTasks} (about : event.Concerns index)
    (left : ∀ entry, ((replay history).observe (.event event)).entries index = some entry →
      (replay history).entries index = some entry)
    (notAdded : ∀ slot released, observeRelease slot released (.event event) = released)
    (fills : FillsFreeSlot history (.event event)) (due : CalledWhenDue history (.event event))
    (permitted : ∀ handle slot pTask, event = .deleting handle slot pTask → deletes) :
    FollowsLedger deletes (· = index) ⟨history ++ [.event event], state⟩ where
  listed slot entry content := by
    rw [replay_append_singleton] at content
    by_cases same : slot = index
    · subst same
      exact given.listed slot entry (left entry content)
    · rw [observe_elsewhere about same] at content
      exact given.listed slot entry content
  unlisted slot closed content := by
    rw [replay_append_singleton, observe_elsewhere about closed] at content
    exact given.unlisted slot id content
  released slot _ nonzero := by
    rw [released_since_add_append_singleton, notAdded]
    exact given.released slot id nonzero
  undisplaced := every_observation_append_singleton.mpr ⟨given.undisplaced, fills⟩
  justified := every_observation_append_singleton.mpr ⟨given.justified, due⟩
  deletions handle slot pTask member := by
    rcases List.mem_append.mp member with old | new
    · exact given.deletions handle slot pTask old
    · simp only [List.mem_singleton, Observation.event.injEq] at new
      exact permitted handle slot pTask new.symm

theorem FollowsLedger.reassign {deletes : Prop} {index : Fin maxTasks}
    {history : SchHistory maxTasks Task} {before after : SchState maxTasks Task}
    (given : FollowsLedger deletes (· = index) ⟨history, before⟩)
    (others : ∀ other, other ≠ index → after.tasks other = before.tasks other)
    (listed : ∀ entry, (replay history).entries index = some entry →
      (after.tasks index).pTask = entry.pFunction ∧ entry.pFunction ≠ none ∧
        (after.tasks index).period = entry.period) :
    FollowsLedger deletes (· = index) ⟨history, after⟩ where
  listed other entry content := by
    by_cases same : other = index
    · subst same
      exact listed entry content
    · rw [others other same]
      exact given.listed other entry content
  unlisted other closed content := by
    rw [others other closed]
    exact given.unlisted other closed content
  released other closed nonzero := by
    rw [others other closed] at nonzero
    exact given.released other closed nonzero
  undisplaced := given.undisplaced
  justified := given.justified
  deletions := given.deletions

/-- The slots in `opened` hold nobody's task; those in `kept` hold one that is due. -/
structure Following (deletes : Prop) (opened kept : Fin maxTasks → Prop)
    (moment : SchMoment maxTasks Task) : Prop where
  follows : FollowsLedger deletes opened moment
  nobody : ∀ index, opened index → (replay moment.history).entries index = none
  occupied : ∀ index, kept index → (replay moment.history).entries index ≠ none
  due : ∀ index, kept index → releasedSinceAdd index moment.history = true

def following (deletes : Prop) (opened kept : Fin maxTasks → Prop) :
    Assertion (timer : Handler (SchState maxTasks Task)) (FollowsLedger deletes anySlot) where
  holds := Following deletes opened kept
  sound _ given := given.follows.mono fun _ _ => trivial
  stable moment next given fires := by
    obtain rfl : next = schUpdate moment.state := fires
    constructor
    · exact follows_ledger_update given.follows
    · intro index inside
      rw [Moment.interrupted_history, replay_append_singleton]
      exact given.nobody index inside
    · intro index inside
      rw [Moment.interrupted_history, replay_append_singleton]
      exact given.occupied index inside
    · intro index inside
      rw [Moment.interrupted_history, released_since_add_append_singleton]
      simp [observeRelease, given.due index inside]

/-- After the return of a body: a one-shot task has left the ledger but not the table. -/
structure Settling (deletes : Prop) (index : Fin maxTasks)
    (moment : SchMoment maxTasks Task) : Prop where
  follows : FollowsLedger deletes (· = index) moment
  oneShot : (replay moment.history).entries index = none ↔ (moment.state.tasks index).period = 0
  due : releasedSinceAdd index moment.history = true

def settling (deletes : Prop) (index : Fin maxTasks) :
    Assertion (timer : Handler (SchState maxTasks Task)) (FollowsLedger deletes anySlot) where
  holds := Settling deletes index
  sound _ given := given.follows.mono fun _ _ => trivial
  stable moment next given fires := by
    obtain rfl : next = schUpdate moment.state := fires
    constructor
    · exact follows_ledger_update given.follows
    · rw [Moment.interrupted_history, replay_append_singleton, Moment.interrupted_state,
        sch_update_tasks, update_task_period]
      exact given.oneShot
    · rw [Moment.interrupted_history, released_since_add_append_singleton]
      simp [observeRelease, given.due]

theorem following_ignores (deletes : Prop) (kept : Fin maxTasks → Prop) (errors : Bool)
    (index : Fin maxTasks) :
    IgnoresSlot (errorEvent errors) index
      (Following deletes (· = index) kept : SchMoment maxTasks Task → Prop) := by
  intro before after change given
  obtain ⟨events, history, about⟩ := change.observed
  have nobody := given.nobody index rfl
  have moved : Following deletes (· = index) kept ⟨before.history, after.state⟩ :=
    { follows := given.follows.reassign change.others fun entry content => by
        rw [nobody] at content
        cases content
      nobody := given.nobody
      occupied := given.occupied
      due := given.due }
  have each (seen : SchHistory maxTasks Task) (event : SchEvent maxTasks Task)
      (error : errorEvent errors event)
      (given : Following deletes (· = index) kept ⟨seen, after.state⟩) :
      Following deletes (· = index) kept ⟨seen ++ [.event event], after.state⟩ := by
    cases event with
    | errorSet code =>
        constructor
        · exact given.follows.observe rfl (fun _ _ => rfl) trivial trivial (by simp)
        · simpa [Ledger.observe] using given.nobody
        · simpa [Ledger.observe] using given.occupied
        · simpa [observeRelease] using given.due
    | _ => exact error.elim
  have shown := @append_events _ _
    (fun seen => Following deletes (· = index) kept ⟨seen, after.state⟩) _ each _ _ about moved
  rw [← history] at shown
  exact shown

theorem delete_task_follows (deletes : Prop) (kept : Fin maxTasks → Prop) (index : Fin maxTasks) :
    Triple (timer : Handler (SchState maxTasks Task)) (FollowsLedger deletes anySlot)
      (following deletes (· = index) kept).holds (schDeleteTask index.val)
      fun _ => (following deletes noSlot kept).holds := by
  apply triple_consequence (delete_any_task_spec timer_only_updates
    (following deletes (· = index) kept) (following_ignores deletes kept true index))
  · exact fun _ given => given
  · intro _ moment given
    obtain ⟨before, empty⟩ := given
    constructor
    · constructor
      · exact before.follows.listed
      · intro slot _ content
        by_cases same : slot = index
        · rw [same]
          exact empty
        · exact before.follows.unlisted slot same content
      · intro slot _ nonzero
        by_cases same : slot = index
        · rw [same, empty] at nonzero
          exact absurd rfl nonzero
        · exact before.follows.released slot same nonzero
      · exact before.follows.undisplaced
      · exact before.follows.justified
      · exact before.follows.deletions
    · exact fun _ inside => inside.elim
    · exact before.occupied
    · exact before.due

theorem following_open {deletes : Prop} {kept : Fin maxTasks → Prop}
    {moment : SchMoment maxTasks Task} {index : Fin maxTasks}
    (given : Following deletes noSlot kept moment)
    (free : (moment.state.tasks index).pTask = none) :
    Following deletes (· = index) kept moment where
  follows := given.follows.mono fun _ inside => inside.elim
  nobody slot same := by
    rw [same]
    exact given.follows.free_slot free
  occupied := given.occupied
  due := given.due

theorem observe_release_elsewhere {slot other : Fin maxTasks} (different : other ≠ slot)
    (released : Bool) (pFunction : Option Task) (delay period : Nat) :
    observeRelease other released (.event (.added slot pFunction delay period) :
      SchObservation maxTasks Task) = released := by
  simp [observeRelease, Ne.symm different]

theorem follows_ledger_added {deletes : Prop} {moment : SchMoment maxTasks Task}
    {slot : Fin maxTasks} {pFunction : Task} {delay period : Nat}
    (given : FollowsLedger deletes (· = slot) moment)
    (free : (replay moment.history).entries slot = none)
    (named : (moment.state.tasks slot).pTask = some pFunction)
    (interval : (moment.state.tasks slot).period = period) :
    FollowsLedger deletes noSlot (moment.executed
      (fun state => state.setTask slot { state.tasks slot with runMe := 0 })
      fun _ => [.added slot (some pFunction) delay period]) := by
  have others (other : Fin maxTasks) (different : other ≠ slot) :=
    SchState.set_task_other moment.state
      { moment.state.tasks slot with runMe := 0 } different
  have about : (.added slot (some pFunction) delay period : SchEvent maxTasks Task).Concerns slot :=
    rfl
  constructor
  · intro index entry content
    simp only [Moment.executed_history, List.map_cons, List.map_nil,
      replay_append_singleton] at content
    by_cases same : index = slot
    · subst same
      simp only [Ledger.observe, Function.update_self, Option.some.injEq] at content
      subst content
      simp [named, interval]
    · rw [observe_elsewhere about same] at content
      rw [Moment.executed_state, others index same]
      exact given.listed index entry content
  · intro index _ content
    simp only [Moment.executed_history, List.map_cons, List.map_nil,
      replay_append_singleton] at content
    by_cases same : index = slot
    · subst same
      simp [Ledger.observe] at content
    · rw [observe_elsewhere about same] at content
      rw [Moment.executed_state, others index same]
      exact given.unlisted index same content
  · intro index _ nonzero
    by_cases same : index = slot
    · subst same
      simp at nonzero
    · rw [Moment.executed_state, others index same] at nonzero
      simp only [Moment.executed_history, List.map_cons, List.map_nil,
        released_since_add_append_singleton, observe_release_elsewhere same]
      exact given.released index same nonzero
  · exact every_observation_append_singleton.mpr ⟨given.undisplaced, free, by simp⟩
  · exact every_observation_append_singleton.mpr ⟨given.justified, trivial⟩
  · intro handle index pTask member
    apply given.deletions handle index pTask
    simpa using member

theorem following_added {deletes : Prop} {kept : Fin maxTasks → Prop}
    {moment : SchMoment maxTasks Task} {slot : Fin maxTasks} {pFunction : Task}
    {delay period : Nat} (given : Following deletes (· = slot) kept moment)
    (named : (moment.state.tasks slot).pTask = some pFunction)
    (interval : (moment.state.tasks slot).period = period) :
    Following deletes noSlot kept (moment.executed
      (fun state => state.setTask slot { state.tasks slot with runMe := 0 })
      fun _ => [.added slot (some pFunction) delay period]) := by
  have about : (.added slot (some pFunction) delay period : SchEvent maxTasks Task).Concerns slot :=
    rfl
  have apart (other : Fin maxTasks) (inside : kept other) : other ≠ slot :=
    fun same => given.occupied other inside (given.nobody other same)
  constructor
  · exact follows_ledger_added given.follows (given.nobody slot rfl) named interval
  · exact fun _ inside => inside.elim
  · intro index inside
    simp only [Moment.executed_history, List.map_cons, List.map_nil, replay_append_singleton]
    rw [observe_elsewhere about (apart index inside)]
    exact given.occupied index inside
  · intro index inside
    simp only [Moment.executed_history, List.map_cons, List.map_nil,
      released_since_add_append_singleton, observe_release_elsewhere (apart index inside)]
    exact given.due index inside

theorem add_task_follows (deletes : Prop) (kept : Fin maxTasks → Prop) (pFunction : Task)
    (delay period : Nat) :
    Triple (timer : Handler (SchState maxTasks Task)) (FollowsLedger deletes anySlot)
      (following deletes noSlot kept).holds (schAddTask (some pFunction) delay period)
      fun found moment => ∃ slot : Fin maxTasks, found = slot.val ∧
        (following deletes noSlot kept).holds moment := by
  apply add_task_spec timer_only_updates (some pFunction) delay period
    (following deletes noSlot kept) (fun slot => following deletes (· = slot) kept)
    (fun _ => following deletes noSlot kept) (following_ignores deletes kept false)
    (fun slot _ given free => following_open given free)
    (fun _ => True) trivial (fun _ _ _ _ _ => trivial)
  intro slot moment given named interval _
  exact following_added given named interval

theorem following_deleting {deletes : Prop} {kept : Fin maxTasks → Prop}
    {moment : SchMoment maxTasks Task} {index : Fin maxTasks} (handle : Option Nat)
    (given : Following deletes noSlot kept moment) (allowed : deletes) (foreign : ¬kept index) :
    Following deletes (· = index) kept (moment.executed id
      fun state => [.deleting handle index (state.tasks index).pTask]) := by
  have about : (.deleting handle index (moment.state.tasks index).pTask :
      SchEvent maxTasks Task).Concerns index := rfl
  constructor
  · apply given.follows.leave about
    · intro entry content
      simp [Ledger.observe] at content
    · exact fun _ _ => rfl
    · trivial
    · trivial
    · exact fun _ _ _ _ => allowed
  · intro slot same
    simp [Ledger.observe, same]
  · intro slot inside
    have different : slot ≠ index := fun same => foreign (same ▸ inside)
    simp only [Moment.executed_history, List.map_cons, List.map_nil, replay_append_singleton]
    rw [observe_elsewhere about different]
    exact given.occupied slot inside
  · intro slot inside
    simp only [Moment.executed_history, List.map_cons, List.map_nil,
      released_since_add_append_singleton]
    exact given.due slot inside

theorem request_follows (deletes : Prop) (kept : Fin maxTasks → Prop)
    (request : Request maxTasks Task)
    (allowed : ∀ index, request = .delete index → deletes ∧ ¬kept index) :
    Triple timer (FollowsLedger deletes anySlot) (following deletes noSlot kept).holds
      request.perform fun _ => (following deletes noSlot kept).holds := by
  have finish : Triple (timer : Handler (SchState maxTasks Task)) (FollowsLedger deletes anySlot)
      (following deletes noSlot kept).holds (.done ())
      fun _ => (following deletes noSlot kept).holds :=
    triple_consequence (triple_done (following deletes noSlot kept) ()) (fun _ given => given)
      fun _ _ given => given.2
  cases request with
  | add pFunction delay period =>
      apply triple_bind _ (add_task_follows deletes kept pFunction delay period)
      intro found
      apply triple_consequence finish
      · intro moment ⟨_, _, given⟩
        exact given
      · exact fun _ _ given => given
  | delete index =>
      have permitted := allowed index rfl
      apply triple_step (following deletes noSlot kept)
      intro moment given
      apply triple_bind _ (delete_task_follows deletes kept index) (fun _ => finish)
      exact following_deleting none given permitted.1 permitted.2

theorem following_due {deletes : Prop} {moment : SchMoment maxTasks Task} {index : Fin maxTasks}
    (given : Following deletes noSlot noSlot moment)
    (nonzero : (moment.state.tasks index).runMe ≠ 0) :
    Following deletes noSlot (· = index) moment where
  follows := given.follows
  nobody := given.nobody
  occupied slot same := by
    subst same
    intro free
    rw [given.follows.unlisted slot id free] at nonzero
    exact nonzero rfl
  due slot same := by
    subst same
    exact given.follows.released slot id nonzero

theorem following_called {deletes : Prop} {moment : SchMoment maxTasks Task}
    {index : Fin maxTasks} (given : Following deletes noSlot (· = index) moment) :
    Following deletes noSlot (· = index)
      (moment.executed id fun state => [.called index (state.tasks index).pTask]) where
  follows := given.follows.observe rfl (fun _ _ => rfl) trivial (given.due index rfl) (by simp)
  nobody _ inside := inside.elim
  occupied := by simpa [Ledger.observe] using given.occupied
  due := by simpa [observeRelease] using given.due

theorem settling_returned {deletes : Prop} {moment : SchMoment maxTasks Task}
    {index : Fin maxTasks} (given : Following deletes noSlot (· = index) moment) :
    Settling deletes index (moment.executed id fun _ => [.returned index]) := by
  obtain ⟨entry, content⟩ := Option.ne_none_iff_exists'.mp (given.occupied index rfl)
  have about := given.follows.listed index entry content
  have returns : (.returned index : SchEvent maxTasks Task).Concerns index := rfl
  constructor
  · apply given.follows.leave returns
    · intro found seen
      simp only [Ledger.observe, Function.update_self, Option.filter_eq_some_iff] at seen
      exact seen.1
    · exact fun _ _ => rfl
    · trivial
    · trivial
    · exact fun _ _ _ same => nomatch same
  · simp only [Moment.executed_history, List.map_cons, List.map_nil, replay_append_singleton,
      Ledger.observe, Function.update_self, content, Moment.executed_state, id_eq, about.2.2]
    simp [Option.filter]
  · simp only [Moment.executed_history, List.map_cons, List.map_nil,
      released_since_add_append_singleton]
    exact given.due index rfl

theorem settling_counted {deletes : Prop} {moment : SchMoment maxTasks Task}
    {index : Fin maxTasks} (given : Settling deletes index moment) :
    Settling deletes index (moment.executed
      (fun state => state.setTask index
        { state.tasks index with runMe := (state.tasks index).runMe - 1 }) fun _ => []) := by
  have same : (moment.executed (fun state => state.setTask index
        { state.tasks index with runMe := (state.tasks index).runMe - 1 }) fun _ => []) =
      ⟨moment.history, moment.state.setTask index
        { moment.state.tasks index with runMe := (moment.state.tasks index).runMe - 1 }⟩ := by
    simp [Moment.executed]
  rw [same]
  constructor
  · apply given.follows.reassign
    · exact fun other different => SchState.set_task_other _ _ different
    · intro entry content
      simpa using given.follows.listed index entry content
  · simpa using given.oneShot
  · exact given.due

theorem following_periodic {deletes : Prop} {moment : SchMoment maxTasks Task}
    {index : Fin maxTasks} (given : Settling deletes index moment)
    (periodic : (moment.state.tasks index).period ≠ 0) :
    Following deletes noSlot noSlot moment where
  follows :=
    { listed := given.follows.listed
      unlisted := by
        intro slot _ content
        by_cases same : slot = index
        · subst same
          exact absurd (given.oneShot.mp content) periodic
        · exact given.follows.unlisted slot same content
      released := by
        intro slot _ nonzero
        by_cases same : slot = index
        · rw [same]
          exact given.due
        · exact given.follows.released slot same nonzero
      undisplaced := given.follows.undisplaced
      justified := given.follows.justified
      deletions := given.follows.deletions }
  nobody _ inside := inside.elim
  occupied _ inside := inside.elim
  due _ inside := inside.elim

theorem following_one_shot {deletes : Prop} {moment : SchMoment maxTasks Task}
    {index : Fin maxTasks} (given : Settling deletes index moment)
    (single : (moment.state.tasks index).period = 0) :
    Following deletes (· = index) noSlot moment where
  follows := given.follows
  nobody slot same := by
    rw [same]
    exact given.oneShot.mpr single
  occupied _ inside := inside.elim
  due _ inside := inside.elim

theorem dispatch_follows (deletes : Prop) (bodies : Bodies maxTasks Task)
    (allowed : ∀ index other, .delete other ∈ bodies index → deletes ∧ other ≠ index) :
    Triple timer (FollowsLedger deletes anySlot) (following deletes noSlot noSlot).holds
      (schDispatchTasks (runBody bodies)) fun _ => (following deletes noSlot noSlot).holds := by
  apply triple_for_each (following deletes noSlot noSlot)
  intro index _
  apply dispatch_task_spec index _ (following deletes noSlot noSlot)
    (following deletes noSlot (· = index)) (following deletes noSlot (· = index))
    (settling deletes index) (settling deletes index) (following deletes (· = index) noSlot)
  · exact fun moment given nonzero => following_due given nonzero
  · exact fun moment given => following_called given
  · intro task
    apply triple_for_each (following deletes noSlot (· = index))
    intro request member
    apply request_follows
    intro other same
    subst same
    exact allowed index other member
  · exact fun moment given => settling_returned given
  · exact fun moment given => settling_counted given
  · exact fun moment given periodic => following_periodic given periodic
  · exact fun moment given single => following_one_shot given single
  · exact delete_task_follows deletes noSlot index

/-- No body of a dispatch pass deletes the slot it runs in. -/
def Operation.KeepsOwnSlots : Operation maxTasks Task → Prop
  | .request _ => True
  | .dispatch bodies => ∀ index, .delete index ∉ bodies index

def Operation.OnlyAdds : Operation maxTasks Task → Prop
  | .request call => ∀ index, call ≠ .delete index
  | .dispatch bodies => ∀ index other, .delete other ∉ bodies index

def Operation.Allowed (deletes : Prop) : Operation maxTasks Task → Prop
  | .request call => ∀ index, call = .delete index → deletes
  | .dispatch bodies => ∀ index other, .delete other ∈ bodies index → deletes ∧ other ≠ index

theorem Operation.KeepsOwnSlots.allowed {operation : Operation maxTasks Task}
    (keeps : operation.KeepsOwnSlots) : operation.Allowed True := by
  cases operation with
  | request call => exact fun _ _ => trivial
  | dispatch bodies =>
      intro index other member
      refine ⟨trivial, fun same => ?_⟩
      subst same
      exact keeps other member

theorem Operation.OnlyAdds.allowed {operation : Operation maxTasks Task}
    (adds : operation.OnlyAdds) : operation.Allowed False := by
  cases operation with
  | request call => exact fun index same => adds index same
  | dispatch bodies => exact fun index other member => absurd member (adds index other)

theorem main_program_follows (deletes : Prop) (operations : List (Operation maxTasks Task))
    (allowed : ∀ operation ∈ operations, operation.Allowed deletes) :
    Triple timer (FollowsLedger deletes anySlot) (following deletes noSlot noSlot).holds
      (mainProgram operations) fun _ => (following deletes noSlot noSlot).holds := by
  apply triple_for_each (following deletes noSlot noSlot)
  intro operation member
  have permitted := allowed operation member
  cases operation with
  | request call =>
      apply request_follows
      intro index same
      exact ⟨permitted index same, id⟩
  | dispatch bodies => exact dispatch_follows deletes bodies permitted

theorem following_initial (deletes : Prop) :
    Following deletes noSlot noSlot (⟨[], .initial⟩ : SchMoment maxTasks Task) where
  follows :=
    { listed := fun _ _ content => by cases content
      unlisted := fun _ _ _ => rfl
      released := fun _ _ nonzero => absurd rfl nonzero
      undisplaced := every_observation_nil _
      justified := every_observation_nil _
      deletions := fun _ _ _ member => absurd member List.not_mem_nil }
  nobody _ inside := inside.elim
  occupied _ inside := inside.elim
  due _ inside := inside.elim

/-- A task stays in the ledger until somebody deletes it or, being one-shot, it has
run; as long as it stays, no Add takes its slot. -/
theorem entry_persists {earlier later : SchHistory maxTasks Task} {index : Fin maxTasks}
    {pFunction : Option Task} {delay period : Nat}
    (undisplaced : EveryObservation FillsFreeSlot
      (earlier ++ .event (.added index pFunction delay period) :: later))
    (notDeleted : ∀ between handle pTask rest,
      later = between ++ .event (.deleting handle index pTask) :: rest →
        (replay (earlier ++ .event (.added index pFunction delay period) :: between)).entries
          index ≠ some ⟨(replay earlier).adds, pFunction, period⟩)
    (alive : 0 < period ∨ .event (.returned index) ∉ later) :
    (replay (earlier ++ .event (.added index pFunction delay period) :: later)).entries index =
        some ⟨(replay earlier).adds, pFunction, period⟩ ∧
      ∀ other since interval, .event (.added index other since interval) ∉ later := by
  induction later using List.reverseRecOn with
  | nil =>
      rw [replay_append_singleton]
      simp [Ledger.observe]
  | append_singleton later last ih =>
      rw [← List.cons_append, ← List.append_assoc] at undisplaced ⊢
      obtain ⟨before, fills⟩ := every_observation_append_singleton.mp undisplaced
      have stillThere := ih before
        (fun between handle pTask rest split => notDeleted between handle pTask (rest ++ [last])
          (by rw [split, List.append_assoc, List.cons_append]))
        (alive.imp_right fun absent member => absent (List.mem_append_left _ member))
      rw [replay_append_singleton]
      cases last with
      | interrupt state => simpa [Ledger.observe] using stillThere
      | event event =>
          cases event with
          | called slot pTask => simpa [Ledger.observe] using stillThere
          | errorSet code => simpa [Ledger.observe] using stillThere
          | added slot other since interval =>
              have different : index ≠ slot := by
                intro same
                subst same
                rw [FillsFreeSlot, stillThere.1] at fills
                cases fills.1
              simpa [Ledger.observe, different] using stillThere
          | deleting handle slot pTask =>
              have different : index ≠ slot := by
                intro same
                subst same
                exact notDeleted later handle pTask [] rfl stillThere.1
              simpa [Ledger.observe, different] using stillThere
          | returned slot =>
              by_cases same : index = slot
              · subst same
                have periodic : period ≠ 0 := by
                  rcases alive with positive | absent
                  · omega
                  · exact absurd (by simp) absent
                simpa [Ledger.observe, stillThere.1, periodic] using stillThere.2
              · simpa [Ledger.observe, same] using stillThere

theorem no_entry_persists {earlier later : SchHistory maxTasks Task} {index : Fin maxTasks}
    (out : (replay earlier).entries index = none)
    (notAdded : ∀ other since interval, .event (.added index other since interval) ∉ later) :
    (replay (earlier ++ later)).entries index = none := by
  induction later using List.reverseRecOn with
  | nil => simpa using out
  | append_singleton later last ih =>
      have stillOut := ih fun other since interval member =>
        notAdded other since interval (List.mem_append_left _ member)
      rw [← List.append_assoc, replay_append_singleton]
      cases last with
      | interrupt state => exact stillOut
      | event event =>
          cases event with
          | called slot pTask => exact stillOut
          | errorSet code => exact stillOut
          | added slot other since interval =>
              have different : index ≠ slot := by
                intro same
                subst same
                exact notAdded other since interval (by simp)
              simpa [Ledger.observe, different] using stillOut
          | deleting handle slot pTask =>
              by_cases same : index = slot <;> simp [Ledger.observe, same, stillOut]
          | returned slot =>
              by_cases same : index = slot
              · subst same
                simp [Ledger.observe, stillOut]
              · simp [Ledger.observe, same, stillOut]

theorem one_shot_leaves {earlier later : SchHistory maxTasks Task} {index : Fin maxTasks}
    {pFunction : Option Task} {delay : Nat}
    (undisplaced : EveryObservation FillsFreeSlot
      (earlier ++ .event (.added index pFunction delay 0) :: later))
    (notDeleted : ∀ between handle pTask rest,
      later = between ++ .event (.deleting handle index pTask) :: rest →
        (replay (earlier ++ .event (.added index pFunction delay 0) :: between)).entries index ≠
          some ⟨(replay earlier).adds, pFunction, 0⟩)
    (run : .event (.returned index) ∈ later)
    (notFilled : ∀ between after, later = between ++ .event (.returned index) :: after →
      ∀ other since interval, .event (.added index other since interval) ∉ after) :
    (replay (earlier ++ .event (.added index pFunction delay 0) :: later)).entries index =
      none := by
  obtain ⟨between, after, place, first⟩ := List.eq_append_cons_of_mem run
  have whole : earlier ++ .event (.added index pFunction delay 0) :: later =
      (earlier ++ .event (.added index pFunction delay 0) :: between) ++
        [.event (.returned index)] ++ after := by
    simp [place]
  rw [whole, List.append_assoc] at undisplaced
  have there := (entry_persists (every_observation_before undisplaced rfl)
    (fun before handle pTask rest inside => notDeleted before handle pTask
      (rest ++ .event (.returned index) :: after)
      (by rw [place, inside, List.append_assoc, List.cons_append]))
    (.inr first)).1
  rw [whole]
  apply no_entry_persists _ (notFilled between after place)
  rw [replay_append_singleton]
  simp [Ledger.observe, there]

end Schedulers.TimeTriggered
