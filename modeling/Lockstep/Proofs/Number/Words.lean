import Mathlib.Algebra.Order.Ring.Nat

/-! Counting in words of a fixed width. -/

set_option autoImplicit false

namespace Lockstep.Number

variable {w : Nat} {n : BitVec w}

/-- One more, unless there is no room for it in a word of the width. -/
def successor? (n : BitVec w) : Option (BitVec w) :=
  if n.toNat + 1 < 2 ^ w then some (n + 1) else none

theorem successor?_of_room (room : n.toNat + 1 < 2 ^ w) : successor? n = some (n + 1) :=
  if_pos room

theorem successor?_of_full (full : 2 ^ w ≤ n.toNat + 1) : successor? n = none :=
  if_neg (Nat.not_lt.mpr full)

theorem toNat_successor (room : n.toNat + 1 < 2 ^ w) : (n + 1).toNat = n.toNat + 1 := by
  have one : (1 : BitVec w).toNat = 1 :=
    Nat.mod_eq_of_lt (Nat.lt_of_le_of_lt (Nat.le_add_left 1 _) room)
  rw [BitVec.toNat_add, one]
  exact Nat.mod_eq_of_lt room

-- Numbers of requests, which are words of 64 bits.

variable {number : UInt64}

theorem toNat_next (room : number.toNat + 1 < UInt64.size) :
    (number + 1).toNat = number.toNat + 1 :=
  toNat_successor room

theorem lt_next (room : number.toNat + 1 < UInt64.size) : number < number + 1 := by
  rw [UInt64.lt_iff_toNat_lt, toNat_next room]
  exact Nat.lt_succ_self _

end Lockstep.Number
