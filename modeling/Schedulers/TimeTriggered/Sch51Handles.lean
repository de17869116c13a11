import Schedulers.TimeTriggered.Sch51Ledger

/-!
# Task handles

`SCH_Add_Task` returns the index of the slot it filled and the caller hands that
index back to `SCH_Delete_Task`. Indices are used again, and a one-shot task frees
its slot without its owner being told: the handle then names whatever task the
next Add has put there. Handles that are not used after that name their own task.
-/

namespace Schedulers.TimeTriggered

open Schedulers.InterruptibleProgram

set_option autoImplicit false

variable {maxTasks : Nat} {Task : Type}

/-- `delete handle` passes the index that Add number `handle` of this caller returned. -/
inductive ClientCall (Task : Type) where
  | add (pFunction : Task) (delay period : Nat)
  | delete (handle : Nat)
  | dispatch
  deriving DecidableEq, Repr

def deleteByHandle (handle index : Nat) : SchProgram maxTasks Task Unit := do
  if bound : index < maxTasks then
    .step id (fun state =>
      [.deleting (some handle) ⟨index, bound⟩ (state.tasks ⟨index, bound⟩).pTask]) fun _ => .done ()
  else .done ()
  let _ ← schDeleteTask index
  return ()

/-- `handles` are the values that the Adds so far returned. -/
def clientProgram : List (ClientCall Task) → List Nat → SchProgram maxTasks Task Unit
  | [], _ => .done ()
  | .add pFunction delay period :: calls, handles => do
      let index ← schAddTask (some pFunction) delay period
      clientProgram calls (handles ++ [index])
  | .delete handle :: calls, handles =>
      match handles[handle]? with
      | none => clientProgram calls handles
      | some index => do
          deleteByHandle handle index
          clientProgram calls handles
  | .dispatch :: calls, handles => do
      schDispatchTasks fun _ _ => .done ()
      clientProgram calls handles

def deletedHandles (calls : List (ClientCall Task)) : List Nat :=
  calls.filterMap fun
    | .delete handle => some handle
    | _ => none

def addedSlots (history : SchHistory maxTasks Task) : List (Fin maxTasks) :=
  (observedEvents history).filterMap fun
    | .added index _ _ _ => some index
    | _ => none

@[simp] theorem added_slots_append (earlier later : SchHistory maxTasks Task) :
    addedSlots (earlier ++ later) = addedSlots earlier ++ addedSlots later := by
  simp [addedSlots]

@[simp] theorem added_slots_added (index : Fin maxTasks) (pFunction : Option Task)
    (delay period : Nat) (later : SchHistory maxTasks Task) :
    addedSlots (.event (.added index pFunction delay period) :: later) =
      index :: addedSlots later := rfl

/-- The last Add that filled slot `index` is number `number` and gave `pFunction`. -/
def FilledBy (number : Nat) (index : Fin maxTasks) (pFunction : Option Task)
    (history : SchHistory maxTasks Task) : Prop :=
  ∃ earlier later delay period,
    history = earlier ++ .event (.added index pFunction delay period) :: later ∧
      (addedSlots earlier).length = number ∧
      ∀ other since interval, .event (.added index other since interval) ∉ later

/-- The handle of a one-shot task is not used once its body has run and its slot has
been filled again. -/
def LiveHandle (earlier : SchHistory maxTasks Task) : SchObservation maxTasks Task → Prop
  | .event (.deleting (some handle) _ _) =>
      ∀ before slot pFunction delay between after,
        earlier = before ++ .event (.added slot pFunction delay 0) ::
          (between ++ .event (.returned slot) :: after) →
        (addedSlots before).length = handle →
        ∀ other since interval, .event (.added slot other since interval) ∉ after
  | _ => True

/-- A Delete names the slot of its Add, for the first time, and finds there what the
ledger says. -/
def HandledDelete (earlier : SchHistory maxTasks Task) : SchObservation maxTasks Task → Prop
  | .event (.deleting handle index pTask) =>
      ∃ number, handle = some number ∧ (addedSlots earlier)[number]? = some index ∧
        (∀ slot task, .event (.deleting (some number) slot task) ∉ earlier) ∧
        pTask = ((replay earlier).entries index).bind LedgerEntry.pFunction
  | _ => True

structure ClientLog (handles used : List Nat) (history : SchHistory maxTasks Task) : Prop where
  named : (addedSlots history).map Fin.val = handles
  handled : EveryObservation HandledDelete history
  usedHandles : ∀ number slot task,
    .event (.deleting (some number) slot task) ∈ history → number ∈ used

def HandledDeletes (moment : SchMoment maxTasks Task) : Prop :=
  EveryObservation HandledDelete moment.history

def clientLog (handles used : List Nat) :
    Assertion (timer : Handler (SchState maxTasks Task)) HandledDeletes where
  holds moment := ClientLog handles used moment.history
  sound _ given := given.handled
  stable moment next given _ := by
    constructor
    · simpa [addedSlots] using given.named
    · exact every_observation_append_singleton.mpr ⟨given.handled, trivial⟩
    · intro number slot task member
      apply given.usedHandles number slot task
      simpa using member

def QuietEvent : SchEvent maxTasks Task → Prop
  | .added _ _ _ _ => False
  | .deleting _ _ _ => False
  | _ => True

theorem error_event_quiet (errors : Bool) (event : SchEvent maxTasks Task)
    (error : errorEvent errors event) : QuietEvent event := by
  cases event <;> trivial

theorem dispatch_event_quiet (index : Fin maxTasks) (event : SchEvent maxTasks Task)
    (shown : dispatchEvent index event) : QuietEvent event := by
  cases event <;> trivial

theorem client_log_ignores {allowed : SchEvent maxTasks Task → Prop}
    (quiet : ∀ event, allowed event → QuietEvent event) (index : Fin maxTasks)
    (handles used : List Nat) :
    IgnoresSlot allowed index
      (clientLog handles used : Assertion (timer : Handler (SchState maxTasks Task)) _).holds := by
  intro before after change given
  obtain ⟨events, history, about⟩ := change.observed
  change ClientLog handles used after.history
  rw [history]
  apply append_events _ about given
  intro seen event member log
  have silent := quiet event member
  constructor
  · cases event <;> first | exact silent.elim | simpa [addedSlots] using log.named
  · apply every_observation_append_singleton.mpr ⟨log.handled, _⟩
    cases event <;> first | exact silent.elim | trivial
  · intro number slot task found
    apply log.usedHandles number slot task
    cases event <;> first | exact silent.elim | simpa using found

theorem add_task_logged (handles used : List Nat) (pFunction : Task) (delay period : Nat) :
    Triple (timer : Handler (SchState maxTasks Task)) HandledDeletes
      (clientLog handles used).holds (schAddTask (some pFunction) delay period)
      fun found moment => ∃ slot : Fin maxTasks, found = slot.val ∧
        (clientLog (handles ++ [slot.val]) used).holds moment := by
  apply add_task_spec timer_only_updates (some pFunction) delay period (clientLog handles used)
    (fun _ => clientLog handles used) (fun slot => clientLog (handles ++ [slot.val]) used)
    (fun slot => client_log_ignores (error_event_quiet false) slot handles used)
    (fun _ _ given _ => given) (fun _ => True) trivial (fun _ _ _ _ _ => trivial)
  intro slot moment given _ _ _
  constructor
  · simp [addedSlots, ← given.named]
  · exact every_observation_append_singleton.mpr ⟨given.handled, trivial⟩
  · intro number index task member
    apply given.usedHandles number index task
    simpa using member

theorem client_log_deleting {handles used : List Nat} {moment : SchMoment maxTasks Task}
    {handle : Nat} {index : Fin maxTasks} (log : ClientLog handles used moment.history)
    (follows : FollowsLedger True noSlot moment)
    (named : (addedSlots moment.history)[handle]? = some index) (unused : handle ∉ used) :
    ClientLog handles (handle :: used) (moment.executed id fun state =>
      [.deleting (some handle) index (state.tasks index).pTask]).history := by
  constructor
  · simpa [addedSlots] using log.named
  · apply every_observation_append_singleton.mpr ⟨log.handled, _⟩
    refine ⟨handle, rfl, named, ?_, ?_⟩
    · intro slot task member
      exact unused (log.usedHandles handle slot task member)
    · cases content : (replay moment.history).entries index with
      | none => rw [follows.unlisted index id content]; rfl
      | some entry => exact (follows.listed index entry content).1
  · intro number slot task member
    simp only [Moment.executed_history, List.map_cons, List.map_nil, List.mem_append,
      List.mem_singleton, Observation.event.injEq, SchEvent.deleting.injEq,
      Option.some.injEq] at member
    rcases member with old | new
    · exact List.mem_cons_of_mem _ (log.usedHandles number slot task old)
    · rw [new.1]
      exact List.mem_cons_self

abbrev ClientSafe (moment : SchMoment maxTasks Task) : Prop :=
  FollowsLedger True anySlot moment ∧ HandledDeletes moment

def clientPoint (handles used : List Nat) :
    Assertion (timer : Handler (SchState maxTasks Task)) ClientSafe :=
  (following True noSlot noSlot).and (clientLog handles used)

theorem delete_by_handle_safe (handles used : List Nat) (handle : Nat) (slot : Fin maxTasks)
    (named : handles[handle]? = some slot.val) (unused : handle ∉ used) :
    Triple (timer : Handler (SchState maxTasks Task)) ClientSafe (clientPoint handles used).holds
      (deleteByHandle handle slot.val) fun _ => (clientPoint handles (handle :: used)).holds := by
  have clears : Triple (timer : Handler (SchState maxTasks Task)) HandledDeletes
      (clientLog handles (handle :: used)).holds (schDeleteTask slot.val)
      fun _ => (clientLog handles (handle :: used)).holds :=
    frame_triple (delete_task_stays_in slot) (clientLog handles (handle :: used))
      (client_log_ignores (error_event_quiet true) slot handles (handle :: used))
  simp only [deleteByHandle, dif_pos slot.isLt, Program.step_bind, Program.done_bind]
  apply triple_step (clientPoint handles used)
  intro moment given
  apply triple_bind _ (triple_and (delete_task_follows True noSlot slot) clears)
  · intro _
    exact triple_consequence (triple_done (clientPoint handles (handle :: used)) ())
      (fun _ given => given) fun _ _ given => given.2
  · refine ⟨following_deleting (some handle) given.1 trivial id, ?_⟩
    apply client_log_deleting given.2 given.1.follows _ unused
    have about := given.2.named
    rw [← about, List.getElem?_map, Option.map_eq_some_iff] at named
    obtain ⟨found, filled, same⟩ := named
    rw [filled, Fin.ext same]

theorem client_program_safe (calls : List (ClientCall Task)) (handles used : List Nat)
    (once : (deletedHandles calls).Nodup) (fresh : ∀ handle ∈ deletedHandles calls, handle ∉ used) :
    Triple (timer : Handler (SchState maxTasks Task)) ClientSafe (clientPoint handles used).holds
      (clientProgram calls handles) fun _ _ => True := by
  induction calls generalizing handles used with
  | nil =>
      exact triple_consequence (triple_done (clientPoint handles used) ()) (fun _ given => given)
        fun _ _ _ => trivial
  | cons call calls ih =>
      cases call with
      | add pFunction delay period =>
          apply triple_bind _ (triple_and (add_task_follows True noSlot pFunction delay period)
            (add_task_logged handles used pFunction delay period))
          intro index moment given
          obtain ⟨⟨_, _, follows⟩, slot, rfl, log⟩ := given
          exact ih (handles ++ [slot.val]) used once fresh moment ⟨follows, log⟩
      | dispatch =>
          have logged : Triple (timer : Handler (SchState maxTasks Task)) HandledDeletes
              (clientLog handles used).holds (schDispatchTasks fun _ _ => .done ())
              fun _ => (clientLog handles used).holds := by
            apply triple_for_each (clientLog handles used)
            intro index _
            exact frame_triple (dispatch_task_stays_in index) (clientLog handles used)
              (client_log_ignores (dispatch_event_quiet index) index handles used)
          have follows := dispatch_follows True
            (fun _ => [] : Bodies maxTasks Task) (fun _ _ member => absurd member List.not_mem_nil)
          apply triple_bind _ (triple_and follows logged)
          intro _
          exact ih handles used once fresh
      | delete handle =>
          have distinct := List.nodup_cons.mp once
          have unused := fresh handle (by simp [deletedHandles])
          intro moment given
          have named := given.2.named
          cases content : handles[handle]? with
          | none =>
              simp only [clientProgram, content]
              exact ih handles used distinct.2
                (fun other member => fresh other (List.mem_cons_of_mem _ member)) moment given
          | some index =>
              have located := content
              rw [← named, List.getElem?_map, Option.map_eq_some_iff] at located
              obtain ⟨slot, _, rfl⟩ := located
              have deletes : Triple (timer : Handler (SchState maxTasks Task)) ClientSafe
                  (clientPoint handles used).holds (deleteByHandle handle slot.val)
                  fun _ => (clientPoint handles (handle :: used)).holds :=
                delete_by_handle_safe handles used handle slot content unused
              have rest := ih handles (handle :: used) distinct.2 (by
                intro other member seen
                rcases List.mem_cons.mp seen with same | old
                · exact distinct.1 (same ▸ member)
                · exact fresh other (List.mem_cons_of_mem _ member) old)
              simp only [clientProgram, content]
              exact triple_bind _ deletes (fun _ => rest) moment given

theorem replay_adds (history : SchHistory maxTasks Task) :
    (replay history).adds = (addedSlots history).length := by
  induction history using List.reverseRecOn with
  | nil => rfl
  | append_singleton history last ih =>
      rw [replay_append_singleton]
      cases last with
      | interrupt before => simpa [Ledger.observe, addedSlots] using ih
      | event event =>
          cases event <;> simpa [Ledger.observe, addedSlots] using ih

theorem added_slot_split {history : SchHistory maxTasks Task} {number : Nat}
    {index : Fin maxTasks} (filled : (addedSlots history)[number]? = some index) :
    ∃ earlier later pFunction delay period,
      history = earlier ++ .event (.added index pFunction delay period) :: later ∧
        (addedSlots earlier).length = number := by
  induction history using List.reverseRecOn with
  | nil => cases filled
  | append_singleton history last ih =>
      rw [added_slots_append] at filled
      by_cases inside : number < (addedSlots history).length
      · rw [List.getElem?_append_left inside] at filled
        obtain ⟨earlier, later, pFunction, delay, period, split, counted⟩ := ih filled
        refine ⟨earlier, later ++ [last], pFunction, delay, period, ?_, counted⟩
        rw [split, List.append_assoc, List.cons_append]
      · rw [List.getElem?_append_right (by omega)] at filled
        cases last with
        | interrupt before => cases filled
        | event event =>
            cases event with
            | added slot pFunction delay period =>
                have first : number - (addedSlots history).length = 0 := by
                  by_contra later
                  have single : (addedSlots
                      [(.event (.added slot pFunction delay period) :
                        SchObservation maxTasks Task)]).length = 1 := rfl
                  rw [List.getElem?_eq_none (by omega)] at filled
                  cases filled
                rw [first] at filled
                obtain rfl : slot = index := Option.some.inj filled
                exact ⟨history, [], pFunction, delay, period, rfl, by omega⟩
            | _ => cases filled

/-- The Delete of a handle finds the task of its own Add or a free slot. -/
def OwnDelete (earlier : SchHistory maxTasks Task) : SchObservation maxTasks Task → Prop
  | .event (.deleting handle index pTask) =>
      (pTask = none ∧ (replay earlier).entries index = none) ∨
        ∃ number period, handle = some number ∧ FilledBy number index pTask earlier ∧
          (replay earlier).entries index = some ⟨number, pTask, period⟩
  | _ => True

theorem deletion_names_entry {history earlier later : SchHistory maxTasks Task}
    {handle : Option Nat} {index : Fin maxTasks} {pTask : Option Task} {entry : LedgerEntry Task}
    (owned : EveryObservation OwnDelete history)
    (split : history = earlier ++ .event (.deleting handle index pTask) :: later)
    (entered : (replay earlier).entries index = some entry) : handle = some entry.number := by
  rcases owned _ _ _ split with ⟨_, out⟩ | ⟨number, _, same, _, there⟩
  · rw [entered] at out
    cases out
  · rw [entered, Option.some.injEq] at there
    rw [same, there]

theorem other_handle_keeps_entry {earlier later : SchHistory maxTasks Task} {index : Fin maxTasks}
    {pFunction : Option Task} {delay period : Nat}
    (owned : EveryObservation OwnDelete
      (earlier ++ .event (.added index pFunction delay period) :: later))
    (unused : ∀ task, .event (.deleting (some (addedSlots earlier).length) index task) ∉ later)
    (between : SchHistory maxTasks Task) (handle : Option Nat) (task : Option Task)
    (rest : SchHistory maxTasks Task)
    (place : later = between ++ .event (.deleting handle index task) :: rest) :
    (replay (earlier ++ .event (.added index pFunction delay period) :: between)).entries index ≠
      some ⟨(replay earlier).adds, pFunction, period⟩ := by
  intro entered
  have same := deletion_names_entry owned (by rw [place, List.append_assoc, List.cons_append])
    entered
  apply unused task
  rw [place, same, replay_adds]
  simp

theorem own_deletes {history : SchHistory maxTasks Task}
    (undisplaced : EveryObservation FillsFreeSlot history)
    (handled : EveryObservation HandledDelete history)
    (live : EveryObservation LiveHandle history) : EveryObservation OwnDelete history := by
  induction history using List.reverseRecOn with
  | nil => exact every_observation_nil _
  | append_singleton history last ih =>
      have placed := (every_observation_append_singleton.mp undisplaced).1
      obtain ⟨handledBefore, about⟩ := every_observation_append_singleton.mp handled
      obtain ⟨liveBefore, alive⟩ := every_observation_append_singleton.mp live
      have owned := ih placed handledBefore liveBefore
      apply every_observation_append_singleton.mpr ⟨owned, _⟩
      cases last with
      | interrupt before => trivial
      | event event =>
          cases event with
          | deleting handle index pTask =>
              obtain ⟨number, rfl, filled, unused, reads⟩ := about
              obtain ⟨earlier, later, pFunction, delay, period, split, counted⟩ :=
                added_slot_split filled
              have notDeleted := other_handle_keeps_entry (split ▸ owned) fun task member => by
                apply unused index task
                rw [split, ← counted]
                exact List.mem_append_right _ (List.mem_cons_of_mem _ member)
              by_cases alreadyRun : period = 0 ∧ .event (.returned index) ∈ later
              · obtain ⟨rfl, run⟩ := alreadyRun
                have out := one_shot_leaves (split ▸ placed) notDeleted run
                  fun between after place =>
                    alive earlier index pFunction delay between after (by rw [split, place]) counted
                rw [← split] at out
                rw [out] at reads
                exact .inl ⟨reads, out⟩
              · have notRun : 0 < period ∨ .event (.returned index) ∉ later := by
                  by_cases oneShot : period = 0
                  · exact .inr fun member => alreadyRun ⟨oneShot, member⟩
                  · exact .inl (Nat.pos_of_ne_zero oneShot)
                have stays := entry_persists (split ▸ placed) notDeleted notRun
                rw [← split, replay_adds, counted] at stays
                rw [stays.1] at reads
                obtain rfl : pTask = pFunction := reads
                exact .inr ⟨number, period, rfl,
                  ⟨earlier, later, delay, period, split, counted, stays.2⟩, stays.1⟩
          | _ => trivial

/-- From `SCH_Init_T2` on, when every handle is passed to `SCH_Delete_Task` at most
once and none after a one-shot task's body has run and its slot was filled again:
each such call finds its own Add's task in the slot or no task, and the task of an
Add stays in its slot until its own handle is deleted or, being one-shot, it has run. -/
theorem handle_deletes_own_task (boot afterInit : SchMoment maxTasks Task)
    (booted : schInitT2.run boot = some ((), afterInit)) (calls : List (ClientCall Task))
    (once : (deletedHandles calls).Nodup) (rest : SchProgram maxTasks Task Unit)
    (final : SchMoment maxTasks Task)
    (run : Reaches timer (clientProgram calls [], ⟨[], afterInit.state⟩) (rest, final))
    (live : EveryObservation LiveHandle final.history) :
    (∀ earlier later handle index pTask,
      final.history = earlier ++ .event (.deleting (some handle) index pTask) :: later →
        pTask ≠ none → FilledBy handle index pTask earlier) ∧
    ∀ earlier later index pFunction delay period,
      final.history = earlier ++ .event (.added index pFunction delay period) :: later →
      (∀ slot pTask, .event (.deleting (some (addedSlots earlier).length) slot pTask) ∉ later) →
      (0 < period ∨ .event (.returned index) ∉ later) →
        (final.state.tasks index).pTask = pFunction ∧ pFunction ≠ none ∧
          (final.state.tasks index).period = period := by
  rw [sch_init_t2_run boot afterInit booted] at run
  have safe := (client_program_safe calls [] [] once (by simp)).always_safe
    ⟨following_initial True, rfl, every_observation_nil _, by simp⟩ run
  have undisplaced := safe.1.undisplaced
  have owned := own_deletes undisplaced safe.2 live
  constructor
  · intro earlier later handle index pTask split occupied
    rcases owned _ _ _ split with ⟨free, _⟩ | ⟨number, period, same, filled, _⟩
    · exact absurd free occupied
    · cases same
      exact filled
  · intro earlier later index pFunction delay period split notDeleted alive
    have placed := undisplaced
    rw [split] at placed
    have foreign := other_handle_keeps_entry (split ▸ owned) (notDeleted index)
    have stays := (entry_persists placed foreign alive).1
    rw [← split] at stays
    exact safe.1.listed index _ stays

/-- Two periodic tasks; the first is deleted by its handle. -/
theorem handle_deletes_own_task_first_of_two :
    ∃ (final : SchMoment 2 Bool) (earlier later : SchHistory 2 Bool),
      final.history = earlier ++ .event (.deleting (some 0) 0 (some false)) :: later ∧
        FilledBy 0 0 (some false) earlier := by
  let calls : List (ClientCall Bool) := [.add false 0 5, .add true 0 5, .delete 0]
  obtain ⟨afterInit, booted⟩ : ∃ afterInit : SchMoment 2 Bool,
      schInitT2.run ⟨[], .initial⟩ = some ((), afterInit) := ⟨_, rfl⟩
  have run := follow_done_reaches schUpdate (List.replicate 20 .statement)
    ((clientProgram calls [] : SchProgram 2 Bool Unit), ⟨[], .initial⟩) () rfl
  have events : observedEvents (follow schUpdate (List.replicate 20 .statement)
      ((clientProgram calls [] : SchProgram 2 Bool Unit), ⟨[], .initial⟩)).2.history =
      [.added 0 (some false) 0 5, .added 1 (some true) 0 5, .deleting (some 0) 0 (some false)] := by
    decide
  generalize (follow schUpdate (List.replicate 20 .statement)
      ((clientProgram calls [] : SchProgram 2 Bool Unit), ⟨[], .initial⟩)).2 = final at run events
  have deleted : .event (.deleting (some 0) 0 (some false)) ∈ final.history := by
    apply mem_observed_events.mp
    simp [events]
  have live : EveryObservation LiveHandle final.history := by
    intro earlier observation later split
    unfold LiveHandle
    split
    · intro before slot pFunction delay between after place
      have oneShot : .added slot pFunction delay 0 ∈ observedEvents final.history := by
        apply mem_observed_events.mpr
        simp [split, place]
      simp [events] at oneShot
    · trivial
  obtain ⟨earlier, later, split⟩ := List.append_of_mem deleted
  rw [← sch_init_t2_run _ _ booted] at run
  have own := handle_deletes_own_task _ afterInit booted calls (by decide) _ _ run live
  exact ⟨final, earlier, later, split, own.1 earlier later 0 0 (some false) split (by simp)⟩

/-- The handle of a one-shot task that the dispatcher has removed deletes the task
that was added to the slot since. -/
theorem stale_handle_deletes_other_task :
    ¬∀ (calls : List (ClientCall Bool)) (rest : SchProgram 1 Bool Unit)
        (final : SchMoment 1 Bool), (deletedHandles calls).Nodup →
      Reaches timer (clientProgram calls [], ⟨[], .initial⟩) (rest, final) →
      ∀ earlier later handle index pTask,
        final.history = earlier ++ .event (.deleting (some handle) index pTask) :: later →
          pTask ≠ none → FilledBy handle index pTask earlier := by
  intro always
  let calls : List (ClientCall Bool) := [.add false 0 0, .dispatch, .add true 0 5, .delete 0]
  let turns : List Turn :=
    List.replicate 5 .statement ++ [.interrupt] ++ List.replicate 30 .statement
  have run := follow_done_reaches schUpdate turns
    ((clientProgram calls [] : SchProgram 1 Bool Unit), ⟨[], .initial⟩) () rfl
  have events : observedEvents (follow schUpdate turns
      ((clientProgram calls [] : SchProgram 1 Bool Unit), ⟨[], .initial⟩)).2.history =
      [.added 0 (some false) 0 0, .called 0 (some false), .returned 0,
        .added 0 (some true) 0 5, .deleting (some 0) 0 (some true)] := by
    decide
  generalize (follow schUpdate turns
      ((clientProgram calls [] : SchProgram 1 Bool Unit), ⟨[], .initial⟩)).2 = final at run events
  have deleted : .event (.deleting (some 0) 0 (some true)) ∈ final.history := by
    apply mem_observed_events.mp
    simp [events]
  obtain ⟨earlier, later, split⟩ := List.append_of_mem deleted
  obtain ⟨before, after, delay, period, place, first, _⟩ :=
    always calls _ final (by decide) run earlier later 0 0 (some true) split (by simp)
  rw [split, place] at events
  simp only [observed_events_append, observed_events_event, List.append_assoc,
    List.cons_append] at events
  have none : addedSlots before = [] := List.length_eq_zero_iff.mp first
  unfold addedSlots at none
  cases shown : observedEvents before with
  | nil => simp [shown] at events
  | cons event seen =>
      rw [shown] at events none
      obtain ⟨rfl, _⟩ := List.cons.inj events
      cases none

end Schedulers.TimeTriggered
