import Mathlib.Data.List.Rotate

/-!
# Delay lines whose contents can change on the way

A line of items, the oldest first. A push puts an item in at the end and the oldest one
out; an update changes the items where they are. The results say what comes out and
when: an item pushed into a line of length `n` comes out at the `n`-th push after its
own, with the updates made in between.

A ring of cells with a pointer to the oldest one is such a line: its cells from the
pointer on, around the ring.
-/

namespace Schedulers.DelayLine

set_option autoImplicit false

variable {Item View : Type}

inductive LineStep (Item : Type) where
  | push (item : Item)
  | update (change : Item → Item)

def LineStep.apply (line : List Item) : LineStep Item → List Item
  | .push item => line.tail ++ [item]
  | .update change => line.map change

def run (line : List Item) (steps : List (LineStep Item)) : List Item :=
  steps.foldl LineStep.apply line

def outputs : List Item → List (LineStep Item) → List Item
  | _, [] => []
  | line, .push item :: steps => line.take 1 ++ outputs (line.tail ++ [item]) steps
  | line, .update change :: steps => outputs (line.map change) steps

def pushed : List (LineStep Item) → List Item
  | [] => []
  | .push item :: steps => item :: pushed steps
  | .update _ :: steps => pushed steps

/-- An item after the updates, whatever is pushed behind it. -/
def carried : List (LineStep Item) → Item → Item
  | [], item => item
  | .push _ :: steps, item => carried steps item
  | .update change :: steps, item => carried steps (change item)

theorem run_append (line : List Item) (early late : List (LineStep Item)) :
    run line (early ++ late) = run (run line early) late :=
  List.foldl_append

theorem pushed_append (early late : List (LineStep Item)) :
    pushed (early ++ late) = pushed early ++ pushed late := by
  induction early with
  | nil => rfl
  | cons step steps ih =>
      cases step with
      | push item => simp [pushed, ih]
      | update change => simp [pushed, ih]

theorem outputs_append (line : List Item) (early late : List (LineStep Item)) :
    outputs line (early ++ late) = outputs line early ++ outputs (run line early) late := by
  induction early generalizing line with
  | nil => rfl
  | cons step steps ih =>
      cases step with
      | push item => simp [outputs, run, LineStep.apply, ih]
      | update change => simp [outputs, run, LineStep.apply, ih]

theorem run_length {line : List Item} (filled : 0 < line.length) (steps : List (LineStep Item)) :
    (run line steps).length = line.length := by
  induction steps generalizing line with
  | nil => rfl
  | cons step steps ih =>
      have same : (step.apply line).length = line.length := by
        cases step with
        | push item =>
            simp only [LineStep.apply, List.length_append, List.length_tail, List.length_singleton]
            omega
        | update change => simp [LineStep.apply]
      change (run (step.apply line) steps).length = line.length
      rw [ih (by omega), same]

theorem outputs_length {line : List Item} (filled : 0 < line.length)
    (steps : List (LineStep Item)) : (outputs line steps).length = (pushed steps).length := by
  induction steps generalizing line with
  | nil => rfl
  | cons step steps ih =>
      cases step with
      | push item =>
          simp only [outputs, pushed, List.length_append, List.length_take, List.length_cons]
          rw [ih (by simp)]
          omega
      | update change =>
          simp only [outputs, pushed]
          exact ih (by simpa using filled)

theorem run_carries (steps : List (LineStep Item)) (front back : List Item) (item : Item)
    (fits : (pushed steps).length ≤ front.length) :
    ∃ before behind, before.length + (pushed steps).length = front.length ∧
      run (front ++ item :: back) steps = before ++ carried steps item :: behind := by
  induction steps generalizing front back item with
  | nil => exact ⟨front, back, rfl, rfl⟩
  | cons step steps ih =>
      cases step with
      | push next =>
          cases front with
          | nil => simp [pushed] at fits
          | cons oldest front =>
              simp only [pushed, List.length_cons, Nat.add_le_add_iff_right] at fits
              obtain ⟨before, behind, places, moved⟩ := ih front (back ++ [next]) item fits
              refine ⟨before, behind, ?_, ?_⟩
              · simp only [pushed, List.length_cons]
                omega
              · simpa [run, LineStep.apply, carried] using moved
      | update change =>
          obtain ⟨before, behind, places, moved⟩ :=
            ih (front.map change) (back.map change) (change item) (by simpa [pushed] using fits)
          refine ⟨before, behind, by simpa [pushed] using places, ?_⟩
          simpa [run, LineStep.apply, carried] using moved

/-- What is at the front of the line is what the next push puts out. -/
theorem output_at {line : List Item} (filled : 0 < line.length)
    (before after : List (LineStep Item)) (later : Item) :
    (outputs line (before ++ .push later :: after))[(pushed before).length]? =
      (run line before).head? := by
  have length := outputs_length filled before
  rw [outputs_append, List.getElem?_append_right (Nat.le_of_eq length), length, Nat.sub_self]
  cases contents : run line before with
  | nil =>
      have same := run_length filled before
      rw [contents] at same
      simp only [List.length_nil] at same
      omega
  | cons front rest => simp [outputs]

theorem initial_output (before after : List (LineStep Item)) (later : Item)
    {front back : List Item} {item : Item} (place : (pushed before).length = front.length) :
    (outputs (front ++ item :: back) (before ++ .push later :: after))[(pushed before).length]? =
      some (carried before item) := by
  obtain ⟨gone, behind, places, moved⟩ :=
    run_carries before front back item (Nat.le_of_eq place)
  have empty : gone = [] := List.eq_nil_of_length_eq_zero (by omega)
  have filled : 0 < (front ++ item :: back).length := by
    rw [List.length_append, List.length_cons]
    omega
  rw [output_at filled, moved, empty]
  rfl

/-- An item comes out at the push that is as far behind its own as the line is long. -/
theorem delayed_output {line : List Item} (before between after : List (LineStep Item))
    (item later : Item) (distance : (pushed between).length + 1 = line.length) :
    (outputs line (before ++ .push item :: (between ++ .push later :: after)))[
        (pushed before).length + line.length]? = some (carried between item) := by
  have filled : 0 < line.length := by omega
  have regroup : before ++ .push item :: (between ++ .push later :: after) =
      (before ++ .push item :: between) ++ .push later :: after := by simp
  have count : (pushed (before ++ .push item :: between)).length =
      (pushed before).length + line.length := by
    simp only [pushed_append, pushed, List.length_append, List.length_cons]
    omega
  have ahead : (run line before).tail.length = (pushed between).length := by
    rw [List.length_tail, run_length filled]
    omega
  obtain ⟨gone, behind, places, moved⟩ :=
    run_carries between (run line before).tail [] item (Nat.le_of_eq ahead.symm)
  have empty : gone = [] := List.eq_nil_of_length_eq_zero (by omega)
  have arrived : run line (before ++ .push item :: between) = carried between item :: behind := by
    rw [run_append]
    change run ((run line before).tail ++ [item]) between = _
    rw [moved, empty]
    rfl
  rw [regroup, ← count, output_at filled, arrived]
  rfl

def Unchanged (view : Item → View) (steps : List (LineStep Item)) : Prop :=
  ∀ change, .update change ∈ steps → ∀ item, view (change item) = view item

theorem Unchanged.map {view : Item → View} {change : Item → Item}
    {steps : List (LineStep Item)} (given : Unchanged view (.update change :: steps))
    (line : List Item) : (line.map change).map view = line.map view := by
  rw [List.map_map]
  apply List.map_congr_left
  intro item _
  exact given change List.mem_cons_self item

theorem Unchanged.later {view : Item → View} {step : LineStep Item}
    {steps : List (LineStep Item)} (given : Unchanged view (step :: steps)) :
    Unchanged view steps :=
  fun change member => given change (List.mem_cons_of_mem step member)

theorem run_view {view : Item → View} {line : List Item} (filled : 0 < line.length)
    (steps : List (LineStep Item)) (given : Unchanged view steps) :
    (run line steps).map view =
      (line.map view ++ (pushed steps).map view).drop (pushed steps).length := by
  induction steps generalizing line with
  | nil => simp [run, pushed]
  | cons step steps ih =>
      cases step with
      | push item =>
          obtain ⟨oldest, rest, rfl⟩ := List.exists_cons_of_length_pos filled
          have later := @ih (rest ++ [item]) (by simp) given.later
          simpa [run, LineStep.apply, pushed] using later
      | update change =>
          have later := @ih (line.map change) (by simpa using filled) given.later
          rw [given.map line] at later
          simpa [run, LineStep.apply, pushed] using later

theorem outputs_view {view : Item → View} {line : List Item} (filled : 0 < line.length)
    (steps : List (LineStep Item)) (given : Unchanged view steps) :
    (outputs line steps).map view =
      (line.map view ++ (pushed steps).map view).take (pushed steps).length := by
  induction steps generalizing line with
  | nil => simp [outputs, pushed]
  | cons step steps ih =>
      cases step with
      | push item =>
          obtain ⟨oldest, rest, rfl⟩ := List.exists_cons_of_length_pos filled
          have later := @ih (rest ++ [item]) (by simp) given.later
          simpa [outputs, pushed] using later
      | update change =>
          have later := @ih (line.map change) (by simpa using filled) given.later
          rw [given.map line] at later
          simpa [outputs, pushed] using later

theorem ring_split {cells : List Item} {pointer : Nat} (inside : pointer < cells.length) :
    ∃ before oldest behind, cells = before ++ oldest :: behind ∧ pointer = before.length := by
  refine ⟨cells.take pointer, cells[pointer], cells.drop (pointer + 1), ?_, ?_⟩
  · rw [List.getElem_cons_drop, List.take_append_drop]
  · exact (List.length_take_of_le (Nat.le_of_lt inside)).symm

theorem ring_oldest {cells : List Item} {pointer : Nat} (inside : pointer < cells.length) :
    (cells.rotate pointer).head? = cells[pointer]? := by
  obtain ⟨before, oldest, behind, rfl, rfl⟩ := ring_split inside
  rw [List.rotate_append_length_eq]
  simp

/-- Writing the cell at the pointer and moving the pointer on is a push. -/
theorem ring_push {cells : List Item} {pointer : Nat} (inside : pointer < cells.length)
    (item : Item) :
    (cells.set pointer item).rotate ((pointer + 1) % cells.length) =
      (cells.rotate pointer).tail ++ [item] := by
  obtain ⟨before, oldest, behind, rfl, rfl⟩ := ring_split inside
  have written : (before ++ oldest :: behind).set before.length item =
      (before ++ [item]) ++ behind := by simp
  have moved : before.length + 1 = (before ++ [item]).length := by simp
  have length : (before ++ oldest :: behind).length = ((before ++ [item]) ++ behind).length := by
    simp
  rw [written, length, List.rotate_mod, moved, List.rotate_append_length_eq,
    List.rotate_append_length_eq]
  simp

end Schedulers.DelayLine
