import Mathlib.Algebra.Order.Ring.Nat
import Mathlib.Tactic.Common

/-!
# Sums that stop at the ends

Operations on numbers of 64 bits whose result is the nearest number of 64 bits.
-/

namespace Saturating

def maxValue : ℕ := 2 ^ 64 - 1

def add (a b : UInt64) : UInt64 := UInt64.ofNat (min (a.toNat + b.toNat) maxValue)

def sub (a b : UInt64) : UInt64 := UInt64.ofNat (a.toNat - b.toNat)

def mul (a b : UInt64) : UInt64 := UInt64.ofNat (min (a.toNat * b.toNat) maxValue)

theorem toNat_add (a b : UInt64) : (add a b).toNat = min (a.toNat + b.toNat) maxValue := by
  apply UInt64.toNat_ofNat_of_lt'
  exact Nat.lt_of_le_of_lt (Nat.min_le_right _ _) (by decide)

theorem toNat_sub (a b : UInt64) : (sub a b).toNat = a.toNat - b.toNat := by
  apply UInt64.toNat_ofNat_of_lt'
  exact Nat.lt_of_le_of_lt (Nat.sub_le _ _) a.toNat_lt

end Saturating
