import Mathlib.Algebra.Group.Nat.Defs
import Mathlib.Data.Nat.Basic

/-!
# Counters that wrap

A machine word used as a counter holds the number of increments minus the
number of decrements modulo `2 ^ width`.  The lemmas keep that number as a
natural number, so that an invariant can be stated about the exact count and
the word read off at the end.
-/

namespace Library

variable {width count : Nat}

theorem counter_increment :
    BitVec.ofNat width count + 1 = BitVec.ofNat width (count + 1) :=
  (BitVec.ofNat_add count 1).symm

theorem counter_decrement (positive : 0 < count) :
    BitVec.ofNat width count - 1 = BitVec.ofNat width (count - 1) := by
  obtain ⟨smaller, rfl⟩ : ∃ smaller, count = smaller + 1 :=
    ⟨count - 1, by omega⟩
  rw [← counter_increment, BitVec.add_sub_cancel, Nat.add_sub_cancel]

theorem counter_toNat :
    (BitVec.ofNat width count).toNat = count % 2 ^ width :=
  BitVec.toNat_ofNat count width

theorem counter_eq_zero_iff :
    BitVec.ofNat width count = 0 ↔ 2 ^ width ∣ count := by
  rw [BitVec.toNat_eq, counter_toNat]
  simp [Nat.dvd_iff_mod_eq_zero]

theorem counter_eq_zero_iff_of_lt (bounded : count < 2 ^ width) :
    BitVec.ofNat width count = 0 ↔ count = 0 := by
  rw [counter_eq_zero_iff]
  constructor
  · intro divides
    exact Nat.eq_zero_of_dvd_of_lt divides bounded
  · rintro rfl
    exact Nat.dvd_zero _

end Library
