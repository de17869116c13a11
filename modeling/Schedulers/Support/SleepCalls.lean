import Mathlib.Tactic.Common

/-!
# Sleep calls and the times they are given

A `timespec` denotes a number of nanoseconds and is valid when its second field is
a proper fraction of a second. A relative sleep completes, or a signal interrupts
it and the part that was not slept is stored.
-/

namespace Schedulers.SleepCalls

set_option autoImplicit false

structure Timespec where
  tvSec : Int
  tvNsec : Int
  deriving DecidableEq, Repr

def nanosecPerSec : Int := 1000000000

def eintr : Int := 4

namespace Timespec

def nanoseconds (time : Timespec) : Int := time.tvSec * nanosecPerSec + time.tvNsec

def Normalized (time : Timespec) : Prop := 0 ≤ time.tvNsec ∧ time.tvNsec < nanosecPerSec

instance : DecidablePred Normalized := fun time =>
  inferInstanceAs (Decidable (0 ≤ time.tvNsec ∧ time.tvNsec < nanosecPerSec))

/-- Moves one second from the second field to the first. -/
def carry (time : Timespec) : Timespec where
  tvSec := time.tvSec + 1
  tvNsec := time.tvNsec - nanosecPerSec

@[simp] theorem carry_nanoseconds (time : Timespec) :
    time.carry.nanoseconds = time.nanoseconds := by
  have onward : (time.tvSec + 1) * nanosecPerSec =
      time.tvSec * nanosecPerSec + nanosecPerSec := by
    rw [Int.add_mul, Int.one_mul]
  rw [nanoseconds, nanoseconds, carry]
  dsimp only
  omega

theorem normalized_carry (time : Timespec) :
    time.carry.Normalized ↔
      nanosecPerSec ≤ time.tvNsec ∧ time.tvNsec < 2 * nanosecPerSec := by
  rw [Normalized, carry]
  dsimp only
  omega

def ofNanoseconds (count : Int) : Timespec where
  tvSec := count / nanosecPerSec
  tvNsec := count % nanosecPerSec

@[simp] theorem nanoseconds_ofNanoseconds (count : Int) :
    (ofNanoseconds count).nanoseconds = count := by
  rw [nanoseconds, ofNanoseconds, nanosecPerSec]
  dsimp only
  omega

theorem normalized_ofNanoseconds (count : Int) : (ofNanoseconds count).Normalized := by
  rw [Normalized, ofNanoseconds, nanosecPerSec]
  dsimp only
  omega

theorem Normalized.eq_ofNanoseconds {time : Timespec} {count : Int} (valid : time.Normalized)
    (denotes : time.nanoseconds = count) : time = ofNanoseconds count := by
  obtain ⟨seconds, fraction⟩ := time
  rw [Normalized, nanosecPerSec] at valid
  rw [nanoseconds, nanosecPerSec] at denotes
  rw [ofNanoseconds, nanosecPerSec, mk.injEq]
  dsimp only at valid denotes
  omega

def Duration (time : Timespec) : Prop := 0 ≤ time.tvSec ∧ time.Normalized

instance : DecidablePred Duration := fun time =>
  inferInstanceAs (Decidable (0 ≤ time.tvSec ∧ time.Normalized))

theorem Duration.positive {time : Timespec} (valid : time.Duration) :
    (0 < time.tvSec ∨ 0 < time.tvNsec) ↔ 0 < time.nanoseconds := by
  have seconds := valid.1
  have fraction := valid.2.1
  rw [nanoseconds, nanosecPerSec]
  omega

end Timespec

inductive SleepOutcome where
  | completed
  | interrupted (remaining : Timespec)
  deriving DecidableEq, Repr

namespace SleepOutcome

/-- What a call that requests `requested` may come back with. -/
def Allowed (requested : Timespec) : SleepOutcome → Prop
  | completed => True
  | interrupted remaining =>
      remaining.Duration ∧ remaining.nanoseconds ≤ requested.nanoseconds

instance (requested : Timespec) : DecidablePred (Allowed requested)
  | completed => isTrue trivial
  | interrupted remaining => inferInstanceAs
      (Decidable (remaining.Duration ∧ remaining.nanoseconds ≤ requested.nanoseconds))

def slept (requested : Timespec) : SleepOutcome → Int
  | completed => requested.nanoseconds
  | interrupted remaining => requested.nanoseconds - remaining.nanoseconds

/-- The return value of `nanosleep`; the error number is in `errno`. -/
def returnCode : SleepOutcome → Int
  | completed => 0
  | interrupted _ => -1

def isInterrupted : SleepOutcome → Bool
  | completed => false
  | interrupted _ => true

end SleepOutcome

end Schedulers.SleepCalls
