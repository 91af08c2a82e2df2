import Lockstep.Proofs.Channel.Creation

/-! Giving the turn away, waiting for it and touching the region, one law for each phase.

An endpoint in the wrong phase does nothing at all. In the right phase it moves
one token: a count goes up as the phase falls back to waiting, or a count goes
down as the phase becomes active.
-/

set_option autoImplicit false

namespace Lockstep.Channel

open Effect

namespace Endpoint

variable {α σ : Type} (e : Endpoint) (s : Space α)

theorem require_of_eq {phase : Phase} (same : e.phase = phase) (operation : Operation) :
    e.require phase operation = .ok () := by
  simp [require, same]

theorem require_of_ne {phase : Phase} (differs : e.phase ≠ phase) (operation : Operation) :
    e.require phase operation = .error (.turnViolation operation e.phase) := by
  simp [require, differs]

def gaveTurn : Endpoint := { e with phase := .waiting, completed := e.completed + 1 }

def tookTurn : Endpoint := { e with phase := .active }

theorem of_snapshot_ok {content : α} (read : e.snapshot s = .ok content) :
    s.content? e.region.id = some content := by
  unfold snapshot at read
  split at read
  next found =>
    cases read
    exact found
  next => cases read

theorem read_of_active (active : e.phase = .active) : e.read s = e.snapshot s := by
  simp only [read, e.require_of_eq active]
  rfl

theorem read_of_waiting (waiting : e.phase ≠ .active) :
    e.read s = .error (.turnViolation .read e.phase) := by
  simp only [read, e.require_of_ne waiting]
  rfl

theorem update_of_active (active : e.phase = .active) (f : α → α) {content : α}
    (found : s.content? e.region.id = some content) :
    e.update f s = .ok ((), s.setContent e.region.id (f content)) := by
  simp only [update, e.require_of_eq active, snapshot, found]
  rfl

theorem update_of_missing (active : e.phase = .active) (f : α → α)
    (missing : s.content? e.region.id = none) :
    e.update f s = .error (.regionNotFound e.names.region) := by
  simp only [update, e.require_of_eq active, snapshot, missing]
  rfl

theorem update_of_waiting (waiting : e.phase ≠ .active) (f : α → α) :
    e.update f s = .error (.turnViolation .write e.phase) := by
  simp only [update, e.require_of_ne waiting]
  rfl

theorem finish_of_active (active : e.phase = .active) (room : s.count e.own.id < Space.maxCount) :
    e.finish s = .ok (e.gaveTurn, s.post e.own.id) := by
  simp only [finish, e.require_of_eq active, SemaphoreHandle.post, room, if_true]
  rfl

theorem finish_of_full (active : e.phase = .active)
    (full : ¬ s.count e.own.id < Space.maxCount) :
    e.finish s = .error (.semaphoreOverflow e.own.name) := by
  simp only [finish, e.require_of_eq active, SemaphoreHandle.post, full, if_false]
  rfl

theorem finish_of_waiting (waiting : e.phase ≠ .active) :
    e.finish s = .error (.turnViolation e.role.doneOperation e.phase) := by
  simp only [finish, e.require_of_ne waiting]
  rfl

theorem of_finish_ok {e' : Endpoint} {s' : Space α} (finished : e.finish s = .ok (e', s')) :
    e' = e.gaveTurn ∧ s' = s.post e.own.id := by
  by_cases active : e.phase = .active
  · by_cases room : s.count e.own.id < Space.maxCount
    · cases (e.finish_of_active s active room).symm.trans finished
      exact ⟨rfl, rfl⟩
    · cases (e.finish_of_full s active room).symm.trans finished
  · cases (e.finish_of_waiting s active).symm.trans finished

theorem tryTake_of_waiting (waiting : e.phase = .waiting) :
    e.tryTake s = match s.take? e.other.id with
      | some s => .ok ((true, e.tookTurn), s)
      | none => .ok ((false, e), s) := by
  simp only [tryTake, e.require_of_eq waiting, SemaphoreHandle.tryTake]
  cases s.take? e.other.id <;> rfl

theorem tryTake_of_active (active : e.phase ≠ .waiting) :
    e.tryTake s = .error (.turnViolation .tryWaitForRobot e.phase) := by
  simp only [tryTake, e.require_of_ne active]
  rfl

section

variable [Peer α σ] (w : World α σ)

theorem run_await_of_waiting (waiting : e.phase = .waiting) :
    e.await.run w = match w.await e.other.id with
      | (true, w) => (.ok (true, e.tookTurn), w)
      | (false, w) => (.ok (false, e), w) := by
  simp only [await, SemaphoreHandle.await, run_bind, Act.run_ofExcept, e.require_of_eq waiting,
    run_mk]
  rcases w.await e.other.id with ⟨_ | _, w⟩ <;> rfl

theorem run_await_of_active (active : e.phase ≠ .waiting) :
    e.await.run w = (.error (.turnViolation e.role.waitOperation e.phase), w) := by
  simp only [await, run_bind, Act.run_ofExcept, e.require_of_ne active]

theorem run_awaitForever_of_waiting (waiting : e.phase = .waiting) :
    e.awaitForever.run w = match w.await e.other.id with
      | (true, w) => (.ok e.tookTurn, w)
      | (false, w) => (.error (.wouldBlock e.other.name), w) := by
  simp only [awaitForever, SemaphoreHandle.awaitForever, SemaphoreHandle.await, run_bind,
    Act.run_ofExcept, e.require_of_eq waiting, run_mk]
  rcases w.await e.other.id with ⟨_ | _, w⟩ <;> rfl

theorem run_awaitForever_of_active (active : e.phase ≠ .waiting) :
    e.awaitForever.run w = (.error (.turnViolation e.role.waitOperation e.phase), w) := by
  simp only [awaitForever, run_bind, Act.run_ofExcept, e.require_of_ne active]

end

end Endpoint

theorem World.await_alone {α : Type} (w : World α Unit) (id : Nat) :
    w.await id = match w.space.take? id with
      | some s => (true, w.setSpace s)
      | none => (false, w) := by
  unfold World.await
  cases taken : w.space.take? id with
  | some s => rfl
  | none =>
    change (match w.space.take? id with
      | some s => (true, { w with space := s })
      | none => (false, w)) = (false, w)
    rw [taken]

end Lockstep.Channel
