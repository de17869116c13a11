import Schedulers.Support.TransitionSystem
import Mathlib.Data.Fin.VecNotation
import Mathlib.Data.List.FinRange
import Mathlib.Logic.Function.Basic

/-!
# The sequencer of `sequencer_generic`

One `Sequencer` thread releases its service threads at sub-rates of its own rate
through one semaphore each, and at the end posts every semaphore once more and
sets every abort flag. One statement of one thread is one step; a service in
`sem_wait` takes its step only while its semaphore is not zero. The sleep is taken
to succeed, and semaphore values to stay below `SEM_VALUE_MAX`.
-/

namespace Schedulers.Sequencer

open Schedulers.TransitionSystem

set_option autoImplicit false

/-- Cycles of the sequencer for one release of each service; `none` where the
release is commented out. -/
abbrev Divisors (services : Nat) := Fin services → Option Nat

def seqgen : Divisors 7 := ![some 10, some 30, some 60, some 30, some 60, some 30, some 300]

def seqgen2 : Divisors 7 := ![some 2, some 5, some 10, some 20, some 50, some 100, some 100]

/-- `seqgen3.c`, where one cycle is one run of the signal handler. -/
def seqgen3 : Divisors 7 := ![none, none, none, some 20, none, none, some 100]

inductive SequencerPoint where
  | sleep
  | count
  | release (service : Nat)
  | test
  | finalPost (service : Nat)
  | setAbort (service : Nat)
  | finished
  deriving DecidableEq, Repr

inductive ServicePoint where
  | testAbort
  | semWait
  | count
  | finished
  deriving DecidableEq, Repr

structure SequencerState (services : Nat) where
  seqCnt : Nat
  abortTest : Bool
  sequencer : SequencerPoint
  sem : Fin services → Nat
  abort : Fin services → Bool
  service : Fin services → ServicePoint
  serviceCnt : Fin services → Nat

variable {services : Nat}

def SequencerState.semPost (state : SequencerState services) (service : Fin services) :
    SequencerState services :=
  { state with sem := Function.update state.sem service (state.sem service + 1) }

/-- `(seqCnt % divisor) == 0` -/
def releases (divisors : Divisors services) (service : Fin services) (seqCnt : Nat) : Bool :=
  match divisors service with
  | none => false
  | some divisor => seqCnt % divisor == 0

def sequencerStep (divisors : Divisors services) (sequencePeriods : Nat)
    (state : SequencerState services) : Option (SequencerState services) :=
  match state.sequencer with
  | .sleep => some { state with sequencer := .count }
  | .count => some { state with seqCnt := state.seqCnt + 1, sequencer := .release 0 }
  | .release next =>
      if bound : next < services then
        let released :=
          if releases divisors ⟨next, bound⟩ state.seqCnt then state.semPost ⟨next, bound⟩
          else state
        some { released with sequencer := .release (next + 1) }
      else some { state with sequencer := .test }
  | .test =>
      if !state.abortTest && state.seqCnt < sequencePeriods then
        some { state with sequencer := .sleep }
      else some { state with sequencer := .finalPost 0 }
  | .finalPost next =>
      if bound : next < services then
        some { state.semPost ⟨next, bound⟩ with sequencer := .finalPost (next + 1) }
      else some { state with sequencer := .setAbort 0 }
  | .setAbort next =>
      if bound : next < services then
        some { state with
          abort := Function.update state.abort ⟨next, bound⟩ true
          sequencer := .setAbort (next + 1) }
      else some { state with sequencer := .finished }
  | .finished => none

def SequencerState.goTo (state : SequencerState services) (service : Fin services)
    (point : ServicePoint) : SequencerState services :=
  { state with service := Function.update state.service service point }

def serviceStep (service : Fin services) (state : SequencerState services) :
    Option (SequencerState services) :=
  match state.service service with
  | .testAbort =>
      if state.abort service then some (state.goTo service .finished)
      else some (state.goTo service .semWait)
  | .semWait =>
      if 0 < state.sem service then
        some { state.goTo service .count with
          sem := Function.update state.sem service (state.sem service - 1) }
      else none
  | .count =>
      some { state.goTo service .testAbort with
        serviceCnt := Function.update state.serviceCnt service (state.serviceCnt service + 1) }
  | .finished => none

inductive SequencerLabel (services : Nat) where
  | sequencer
  | service (index : Fin services)
  deriving DecidableEq, Repr

/-- The state in which the threads start. No code writes `abortTest`. -/
def SequencerState.start (services : Nat) (abortTest : Bool) : SequencerState services where
  seqCnt := 0
  abortTest := abortTest
  sequencer := .sleep
  sem := fun _ => 0
  abort := fun _ => false
  service := fun _ => .testAbort
  serviceCnt := fun _ => 0

def sequencerSystem (divisors : Divisors services) (sequencePeriods : Nat) :
    System (SequencerState services) (SequencerLabel services) where
  initial state := ∃ abortTest, state = .start services abortTest
  step
    | .sequencer => sequencerStep divisors sequencePeriods
    | .service index => serviceStep index

end Schedulers.Sequencer
