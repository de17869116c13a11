import Mathlib.Tactic.Common

/-!
# First in, first out

The history of a queue is the list of its events in the order in which they took
effect. `Fifo` says which histories an unbounded queue that starts empty can have,
and with which contents it is left.
-/

namespace Schedulers.FifoHistory

set_option autoImplicit false

inductive FifoEvent (Element : Type) where
  | pushed (element : Element)
  | popped (element : Element)
  deriving DecidableEq, Repr

variable {Element : Type}

inductive Fifo : List (FifoEvent Element) → List Element → Prop where
  | empty : Fifo [] []
  | push {events : List (FifoEvent Element)} {contents : List Element}
      (before : Fifo events contents) (element : Element) :
      Fifo (events ++ [.pushed element]) (contents ++ [element])
  | pop {events : List (FifoEvent Element)} {front : Element} {rest : List Element}
      (before : Fifo events (front :: rest)) : Fifo (events ++ [.popped front]) rest

def FifoEvent.arrival : FifoEvent Element → Option Element
  | .pushed element => some element
  | .popped _ => none

def FifoEvent.departure : FifoEvent Element → Option Element
  | .pushed _ => none
  | .popped element => some element

def pushes (events : List (FifoEvent Element)) : List Element :=
  events.filterMap FifoEvent.arrival

def pops (events : List (FifoEvent Element)) : List Element :=
  events.filterMap FifoEvent.departure

@[simp] theorem pushes_push (events : List (FifoEvent Element)) (element : Element) :
    pushes (events ++ [.pushed element]) = pushes events ++ [element] := by
  simp [pushes, FifoEvent.arrival]

@[simp] theorem pushes_pop (events : List (FifoEvent Element)) (element : Element) :
    pushes (events ++ [.popped element]) = pushes events := by
  simp [pushes, FifoEvent.arrival]

@[simp] theorem pops_push (events : List (FifoEvent Element)) (element : Element) :
    pops (events ++ [.pushed element]) = pops events := by
  simp [pops, FifoEvent.departure]

@[simp] theorem pops_pop (events : List (FifoEvent Element)) (element : Element) :
    pops (events ++ [.popped element]) = pops events ++ [element] := by
  simp [pops, FifoEvent.departure]

/-- What has come out, followed by what is inside, is what has gone in. -/
theorem Fifo.in_order {events : List (FifoEvent Element)} {contents : List Element}
    (history : Fifo events contents) : pops events ++ contents = pushes events := by
  induction history with
  | empty => rfl
  | push before element ih => rw [pops_push, pushes_push, ← List.append_assoc, ih]
  | pop before ih =>
      rw [pops_pop, pushes_pop, List.append_assoc]
      exact ih

end Schedulers.FifoHistory
