import Mathlib.Algebra.Group.Int.Defs
import Mathlib.Algebra.Group.Nat.Defs
import Mathlib.Tactic.Common

/-!
# C integers

The values of C integer types as integers. A value converted to a signed type is the
balanced residue, to an unsigned type the residue. Arithmetic in a signed type has no
result when the exact value does not fit; in an unsigned type it is reduced.
-/

namespace Schedulers.CIntegers

set_option autoImplicit false

variable {bits wide : Nat} {value : Int}

def FitsSigned (bits : Nat) (value : Int) : Prop := -2 ^ bits ≤ value * 2 ∧ value * 2 < 2 ^ bits

instance (bits : Nat) (value : Int) : Decidable (FitsSigned bits value) :=
  inferInstanceAs (Decidable (-2 ^ bits ≤ value * 2 ∧ value * 2 < 2 ^ bits))

def toSigned (bits : Nat) (value : Int) : Int := value.bmod (2 ^ bits)

def toUnsigned (bits : Nat) (value : Int) : Int := value % 2 ^ bits

/-- What a signed operation with this exact value returns. -/
def signed (bits : Nat) (value : Int) : Option Int :=
  if FitsSigned bits value then some value else none

theorem toSigned_of_fits (fits : FitsSigned bits value) : toSigned bits value = value := by
  apply Int.bmod_eq_of_le_mul_two
  · have least := fits.1
    push_cast
    exact least
  · have greatest := fits.2
    push_cast
    exact greatest

/-- A conversion to a wider unsigned type on the way makes no difference. -/
theorem toSigned_toUnsigned (narrow : bits ≤ wide) (value : Int) :
    toSigned bits (toUnsigned wide value) = toSigned bits value := by
  have factor : (2 : Int) ^ wide = (2 ^ bits : Nat) * 2 ^ (wide - bits) := by
    push_cast
    rw [← Int.pow_add, Nat.add_sub_cancel' narrow]
  rw [toSigned, toUnsigned, Int.emod_def, factor, Int.mul_assoc]
  exact Int.sub_mul_bmod_self_left value (2 ^ bits) _

theorem toUnsigned_of_fits (least : 0 ≤ value) (greatest : value < 2 ^ bits) :
    toUnsigned bits value = value :=
  Int.emod_eq_of_lt least greatest

theorem toUnsigned_eq_iff : toUnsigned bits value = value ↔ 0 ≤ value ∧ value < 2 ^ bits := by
  have positive : (0 : Int) < 2 ^ bits := Int.pow_pos (by decide)
  constructor
  · intro unchanged
    rw [← unchanged]
    exact ⟨Int.emod_nonneg value (Int.ne_of_gt positive), Int.emod_lt_of_pos value positive⟩
  · intro ⟨least, greatest⟩
    exact toUnsigned_of_fits least greatest

theorem toUnsigned_toUnsigned (bits : Nat) (value : Int) :
    toUnsigned bits (toUnsigned bits value) = toUnsigned bits value :=
  Int.emod_emod value (2 ^ bits)

/-- Only the value at the end of a sequence of unsigned operations is reduced. -/
theorem toUnsigned_add (bits : Nat) (left right : Int) :
    toUnsigned bits (toUnsigned bits left + right) = toUnsigned bits (left + right) :=
  Int.emod_add_emod left (2 ^ bits) right

theorem toUnsigned_sub (bits : Nat) (left right : Int) :
    toUnsigned bits (toUnsigned bits left - right) = toUnsigned bits (left - right) :=
  Int.emod_sub_emod left (2 ^ bits) right

theorem signed_eq_some {result : Int} :
    signed bits value = some result ↔ FitsSigned bits value ∧ result = value := by
  unfold signed
  split_ifs with fits
  · simp [fits, eq_comm]
  · simp [fits]

theorem signed_of_fits (fits : FitsSigned bits value) : signed bits value = some value :=
  if_pos fits

end Schedulers.CIntegers
