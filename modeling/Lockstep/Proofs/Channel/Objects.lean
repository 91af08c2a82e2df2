import Lockstep.Channel.Space

/-! What the operations on a name space do to single names, counts and contents. -/

set_option autoImplicit false

namespace Lockstep.Channel

namespace Bindings

@[simp] theorem bind_self (names : Bindings) (name : String) (id : Nat) :
    names.bind name id name = some id := by
  simp [bind]

theorem bind_other (names : Bindings) {name other : String} (id : Nat) (differs : other ≠ name) :
    names.bind name id other = names other := by
  simp [bind, differs]

@[simp] theorem unbind_self (names : Bindings) (name : String) : names.unbind name name = none := by
  simp [unbind]

theorem unbind_other (names : Bindings) {name other : String} (differs : other ≠ name) :
    names.unbind name other = names other := by
  simp [unbind, differs]

@[simp] theorem bind_unbind (names : Bindings) (name : String) (id : Nat) :
    (names.unbind name).bind name id = names.bind name id := by
  funext other
  by_cases same : other = name <;> simp [bind, unbind, same]

end Bindings

namespace Space

variable {α : Type}

@[simp] theorem count_addSemaphore (s : Space α) (name : String) (id : Nat) :
    (s.addSemaphore name).2.count id = s.count id := by
  simp only [count, addSemaphore, Array.getD_eq_getD_getElem?, Array.getElem?_push]
  split
  · subst id
    simp
  · rfl

theorem count_eq_zero_of_size_le (s : Space α) {id : Nat} (beyond : s.counts.size ≤ id) :
    s.count id = 0 := by
  simp [count, beyond]

theorem getD_modify_self (counts : Array Nat) (f : Nat → Nat) {id : Nat}
    (bound : id < counts.size) : (counts.modify id f).getD id 0 = f (counts.getD id 0) := by
  simp only [Array.getD_eq_getD_getElem?, Array.getElem?_modify,
    Array.getElem?_eq_getElem bound, if_true, Option.map_some, Option.getD_some]

theorem getD_modify_other (counts : Array Nat) (f : Nat → Nat) {id other : Nat}
    (differs : other ≠ id) : (counts.modify id f).getD other 0 = counts.getD other 0 := by
  simp [Array.getElem?_modify, differs.symm]

theorem count_post_self (s : Space α) {id : Nat} (bound : id < s.counts.size) :
    (s.post id).count id = s.count id + 1 :=
  getD_modify_self s.counts (· + 1) bound

theorem count_post_other (s : Space α) {id other : Nat} (differs : other ≠ id) :
    (s.post id).count other = s.count other :=
  getD_modify_other s.counts (· + 1) differs

@[simp] theorem size_counts_post (s : Space α) (id : Nat) :
    (s.post id).counts.size = s.counts.size := by
  simp [post]

theorem take?_eq_none_iff (s : Space α) (id : Nat) : s.take? id = none ↔ s.count id = 0 := by
  unfold take?
  split <;> simp <;> omega

theorem take?_eq_some {s t : Space α} {id : Nat} (taken : s.take? id = some t) :
    0 < s.count id ∧ t = { s with counts := s.counts.modify id (· - 1) } := by
  unfold take? at taken
  split at taken
  next positive => exact ⟨positive, (Option.some.inj taken).symm⟩
  next => contradiction

theorem take?_of_pos (s : Space α) {id : Nat} (positive : 0 < s.count id) :
    s.take? id = some { s with counts := s.counts.modify id (· - 1) } := by
  simp [take?, positive]

theorem count_take_self {s t : Space α} {id : Nat} (taken : s.take? id = some t) :
    s.count id = t.count id + 1 := by
  obtain ⟨positive, rfl⟩ := take?_eq_some taken
  have bound : id < s.counts.size := by
    refine Nat.lt_of_not_le fun beyond => ?_
    rw [s.count_eq_zero_of_size_le beyond] at positive
    contradiction
  have lowered := getD_modify_self s.counts (· - 1) bound
  simp only [count] at positive ⊢
  omega

theorem count_take_other {s t : Space α} {id other : Nat} (taken : s.take? id = some t)
    (differs : other ≠ id) : t.count other = s.count other := by
  obtain ⟨-, rfl⟩ := take?_eq_some taken
  exact getD_modify_other s.counts (· - 1) differs

theorem count_post_le (s : Space α) (id other : Nat) :
    (s.post id).count other ≤ s.count other + 1 := by
  by_cases same : other = id
  · subst same
    by_cases bound : other < s.counts.size
    · exact Nat.le_of_eq (s.count_post_self bound)
    · rw [count_eq_zero_of_size_le _ (by simpa using bound)]
      exact Nat.zero_le _
  · rw [s.count_post_other same]
    exact Nat.le_succ _

theorem count_take_le {s t : Space α} {id : Nat} (taken : s.take? id = some t) (other : Nat) :
    t.count other ≤ s.count other := by
  by_cases same : other = id
  · subst same
    have lowered := count_take_self taken
    omega
  · exact Nat.le_of_eq (count_take_other taken same)

theorem size_counts_take {s t : Space α} {id : Nat} (taken : s.take? id = some t) :
    t.counts.size = s.counts.size := by
  obtain ⟨-, rfl⟩ := take?_eq_some taken
  simp

@[simp] theorem count_setContent (s : Space α) (id other : Nat) (content : α) :
    (s.setContent id content).count other = s.count other := rfl

@[simp] theorem content?_post (s : Space α) (id other : Nat) :
    (s.post id).content? other = s.content? other := rfl

theorem content?_take {s t : Space α} {id : Nat} (taken : s.take? id = some t) (other : Nat) :
    t.content? other = s.content? other := by
  obtain ⟨-, rfl⟩ := take?_eq_some taken
  rfl

theorem content?_setContent {s : Space α} {id : Nat} {old : α} (found : s.content? id = some old)
    (content : α) : (s.setContent id content).content? id = some content := by
  unfold content? at found
  obtain ⟨r, here, rfl⟩ := Option.map_eq_some_iff.mp found
  simp [content?, setContent, Array.getElem?_modify, here]

theorem content?_setContent_other (s : Space α) {id other : Nat} (differs : other ≠ id)
    (content : α) : (s.setContent id content).content? other = s.content? other := by
  simp [content?, setContent, Array.getElem?_modify, differs.symm]

end Space

end Lockstep.Channel
