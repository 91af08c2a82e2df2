import Mathlib.Algebra.Order.BigOperators.Group.List
import Mathlib.Algebra.Order.Ring.Nat

/-! Quantities of the members of a group, summed up. -/

set_option autoImplicit false

namespace Lockstep

variable {β : Type}

def total (f : β → Nat) (members : List β) : Nat := (members.map f).sum

theorem total_set (f : β → Nat) {members : List β} {seat : Nat} {m : β}
    (found : members[seat]? = some m) (n : β) :
    total f (members.set seat n) + f m = total f members + f n := by
  induction members generalizing seat with
  | nil => simp at found
  | cons head rest ih =>
    cases seat with
    | zero =>
      obtain rfl : head = m := by simpa using found
      simp only [total, List.set_cons_zero, List.map_cons, List.sum_cons]
      omega
    | succ seat =>
      have moved := ih (by simpa using found : rest[seat]? = some m)
      simp only [total, List.set_cons_succ, List.map_cons, List.sum_cons] at moved ⊢
      omega

theorem total_append (f : β → Nat) (members : List β) (m : β) :
    total f (members ++ [m]) = total f members + f m := by
  simp [total]

theorem le_total (f : β → Nat) {members : List β} {seat : Nat} {m : β}
    (found : members[seat]? = some m) : f m ≤ total f members := by
  refine List.le_sum_of_mem (List.mem_iff_getElem?.mpr ⟨seat, ?_⟩)
  simp [found]

theorem add_le_total (f : β → Nat) {members : List β} {seat other : Nat} {m n : β}
    (found : members[seat]? = some m) (foundOther : members[other]? = some n)
    (differs : seat ≠ other) : f m + f n ≤ total f members := by
  induction members generalizing seat other with
  | nil => simp at found
  | cons head rest ih =>
    simp only [total, List.map_cons, List.sum_cons]
    match seat, other with
    | 0, 0 => contradiction
    | 0, other + 1 =>
      obtain rfl : head = m := by simpa using found
      exact Nat.add_le_add_left (le_total f (by simpa using foundOther : rest[other]? = some n)) _
    | seat + 1, 0 =>
      obtain rfl : head = n := by simpa using foundOther
      rw [Nat.add_comm]
      exact Nat.add_le_add_left (le_total f (by simpa using found : rest[seat]? = some m)) _
    | seat + 1, other + 1 =>
      have rested := ih (by simpa using found : rest[seat]? = some m)
        (by simpa using foundOther : rest[other]? = some n) (by omega)
      exact Nat.le_add_left_of_le rested

theorem total_eraseIdx (f : β → Nat) {members : List β} {seat : Nat} {m : β}
    (found : members[seat]? = some m) :
    total f (members.eraseIdx seat) + f m = total f members := by
  induction members generalizing seat with
  | nil => simp at found
  | cons head rest ih =>
    cases seat with
    | zero =>
      obtain rfl : head = m := by simpa using found
      simp only [total, List.eraseIdx_cons_zero, List.map_cons, List.sum_cons]
      omega
    | succ seat =>
      have left := ih (by simpa using found : rest[seat]? = some m)
      simp only [total, List.eraseIdx_cons_succ, List.map_cons, List.sum_cons] at left ⊢
      omega

theorem total_eq_zero {f : β → Nat} {members : List β}
    (none : ∀ m ∈ members, f m = 0) : total f members = 0 := by
  refine List.sum_eq_zero fun x member => ?_
  obtain ⟨m, seated, rfl⟩ := List.mem_map.mp member
  exact none m seated

theorem total_le_total {f g : β → Nat} {members : List β} (fewer : ∀ m ∈ members, f m ≤ g m) :
    total f members ≤ total g members :=
  List.sum_le_sum fewer

/-- Where each counts no more than a bound, all reach theirs or the total falls short. -/
theorem total_eq_iff_of_le {f g : β → Nat} {members : List β}
    (fewer : ∀ m ∈ members, f m ≤ g m) :
    total f members = total g members ↔ ∀ m ∈ members, f m = g m := by
  induction members with
  | nil => simp [total]
  | cons head rest ih =>
    obtain ⟨first, others⟩ := List.forall_mem_cons.mp fewer
    have least := total_le_total others
    rw [List.forall_mem_cons, ← ih others]
    simp only [total, List.map_cons, List.sum_cons] at least ⊢
    omega

end Lockstep
