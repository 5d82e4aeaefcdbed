/-
  Foundation/JavaLong.lean --- times kept in a Java `long`.

  The difference of two times wraps around at 2^63.  For times that do not go back it is
  the time in between unless that does not fit, and then it is negative.
-/
import Mathlib.Algebra.Group.Int.Defs
import Mathlib.Order.Basic

set_option autoImplicit false

namespace MediatekCommon.Foundation

/-- The time between two readings, as a `long` holds it. -/
theorem toInt_sub_of_le {earlier later : Int64} (h : earlier ≤ later) :
    (later - earlier).toInt =
      if later.toInt - earlier.toInt < 2 ^ 63 then later.toInt - earlier.toInt
      else later.toInt - earlier.toInt - 2 ^ 64 := by
  have hle := Int64.le_iff_toInt_le.mp h
  have hlater := later.toInt_lt
  have hearlier := earlier.le_toInt
  rw [Int64.toInt_sub, Int.bmod_def]
  omega

/-- Wrapping around only makes the difference smaller. -/
theorem add_le_of_le_sub {earlier later : Int64} (h : earlier ≤ later) {bound : Int}
    (hsub : bound ≤ (later - earlier).toInt) :
    earlier.toInt + bound ≤ later.toInt := by
  rw [toInt_sub_of_le h] at hsub
  split at hsub <;> omega

end MediatekCommon.Foundation
