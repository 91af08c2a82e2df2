import Lockstep.Proofs.Bridge.Output
import Lockstep.Proofs.Channel.Teardown
import Lockstep.Proofs.Simulator.Farewell
import Lockstep.Proofs.Simulator.Steps

/-! No run leaves a name behind.

A simulator never touches its own names before it takes its channel down, and
then it goes by the region's name alone. So none of the three is left
unless somebody else bound the region's name in between, whatever the robot did.
-/

set_option autoImplicit false

namespace Lockstep

open Channel Message Effect

namespace Crew

theorem act_names (crew : Crew) (s : Space Message) (move : Move) :
    (crew.act s move).2.regionNames = s.regionNames ∧
      (crew.act s move).2.semaphoreNames = s.semaphoreNames := by
  cases move with
  | join names program => exact ⟨rfl, rfl⟩
  | leave seat =>
    simp only [act]
    split <;> exact ⟨rfl, rfl⟩
  | take seat =>
    simp only [act]
    split
    next mate _ =>
      unfold take
      split
      · exact ⟨rfl, rfl⟩
      by_cases waiting : mate.bridge.endpoint.phase = .waiting
      · rw [Endpoint.run_awaitForever_of_waiting _ _ waiting, World.await_alone]
        cases taken : s.take? mate.bridge.endpoint.other.id with
        | none => simp [worldOf, taken]
        | some t =>
          obtain ⟨-, rfl⟩ := Space.take?_eq_some taken
          simp [worldOf, taken, World.setSpace]
      · rw [Endpoint.run_awaitForever_of_active _ _ waiting]
        exact ⟨rfl, rfl⟩
    next => exact ⟨rfl, rfl⟩
  | serve seat =>
    simp only [act]
    split
    next mate _ =>
      unfold serve
      split
      · exact ⟨rfl, rfl⟩
      cases read : mate.bridge.endpoint.snapshot s with
      | error cause => exact ⟨rfl, rfl⟩
      | ok m =>
        have found : (worldOf s).space.content? mate.bridge.endpoint.region.id = some m :=
          mate.bridge.endpoint.of_snapshot_ok _ read
        obtain ⟨confined, -⟩ := Bridge.serve_confined found
        dsimp only
        generalize mate.bridge.serve m (worldOf s) = served at confined ⊢
        obtain ⟨⟨e | mode, b⟩, w⟩ := served <;>
          exact ⟨confined.regionNames, confined.semaphoreNames⟩
    next => exact ⟨rfl, rfl⟩

theorem acts_names (moves : List Move) (crew : Crew) (s : Space Message) :
    (acts moves crew s).2.regionNames = s.regionNames ∧
      (acts moves crew s).2.semaphoreNames = s.semaphoreNames := by
  apply acts_keep
    (P := fun _ t => t.regionNames = s.regionNames ∧ t.semaphoreNames = s.semaphoreNames)
  · exact ⟨rfl, rfl⟩
  · rintro move - c t ⟨regions, semaphores⟩
    exact ⟨(c.act_names t move).1.trans regions, (c.act_names t move).2.trans semaphores⟩

end Crew

namespace Simulator

variable {σ : Type} [Peer Message σ] {kind : Mode → Prop} {names : Names} {s t : Session σ}

/-- A peer that binds none of a channel's names, now or later. -/
def Abstains (names : Names) (peer : σ) : Prop :=
  ∃ quiet : σ → Prop, quiet peer ∧ ∀ p (s : Space Message), quiet p →
    quiet (Peer.move p s).1 ∧ names.Spared s (Peer.move p s).2

theorem Abstains.move {peer : σ} (abstains : Abstains names peer) (s : Space Message) :
    Abstains names (Peer.move peer s).1 ∧ names.Spared s (Peer.move peer s).2 := by
  obtain ⟨quiet, now, moves⟩ := abstains
  exact ⟨⟨quiet, (moves peer s now).1, moves⟩, (moves peer s now).2⟩

/-- A session whose simulator made its channel and nobody took the region's name from it. -/
structure Undisputed (names : Names) (s : Session σ) : Prop where
  role : s.connection.endpoint.role = .simulator
  called : s.connection.endpoint.names = names
  owned : s.connection.endpoint.region.owned = true
  named : s.connection.endpoint.region.name = names.region
  own : ∀ id, s.world.space.regionNames names.region = some id →
    id = s.connection.endpoint.region.id
  abstains : Abstains names s.world.peer

/-- No step of a session has anything to do with names, and a move of the peer binds none. -/
theorem Undisputed.step (mine : Undisputed names s) (step : s.Step kind t) :
    Undisputed names t := by
  obtain ⟨role, called, owned, named, own, abstains⟩ := mine
  cases step with
  | noted r => exact ⟨role, called, owned, named, own, abstains⟩
  | numbered requests => exact ⟨role, called, owned, named, own, abstains⟩
  | wrote active found half => exact ⟨role, called, owned, named, own, abstains⟩
  | passed active found asked room => exact ⟨role, called, owned, named, own, abstains⟩
  | regained waiting taken =>
    obtain ⟨-, rfl⟩ := Space.take?_eq_some taken
    exact ⟨role, called, owned, named, own, abstains⟩
  | elapsed =>
    obtain ⟨later, spared⟩ := abstains.move s.world.space
    refine ⟨role, called, owned, named, fun id bound => ?_, later⟩
    obtain same | free := spared.region
    · exact own id (same ▸ bound)
    · cases free.symm.trans bound

theorem Undisputed.steps (mine : Undisputed names s) (steps : Session.Steps kind s t) :
    Undisputed names t := by
  induction steps with
  | refl => exact mine
  | tail _ step ih => exact ih.step step

theorem undisputed_create {robot : Robot} {options : Options} {exclusive : Bool}
    {w w' : World Message σ} {c : Connection} (abstains : Abstains names w.peer)
    (created : (Connection.create names robot options exclusive).run w = (.ok c, w')) :
    Undisputed names ⟨c, w'⟩ := by
  obtain ⟨rfl, space, peer⟩ := Connection.create_ok created
  refine ⟨rfl, rfl, rfl, rfl, fun id bound => ?_, ?_⟩
  · change w'.space.regionNames names.region = some id at bound
    rw [space] at bound
    exact (Option.some.inj ((Bindings.bind_self _ _ _).symm.trans bound)).symm
  · change Abstains names w'.peer
    rw [peer]
    exact abstains

omit [Peer Message σ] in
theorem Connection.valid_of_created {robot : Robot} {options : Options} {exclusive : Bool}
    {w w' : World Message σ} {c : Connection}
    (created : (Connection.create names robot options exclusive).run w = (.ok c, w')) :
    ValidName names.robotSemaphore ∧ ValidName names.simulatorSemaphore := by
  unfold Connection.create at created
  rw [run_bind] at created
  split at created
  next made => exact create_valid made
  next => cases created

namespace Talk

theorem unbound_close (mine : Undisputed names s)
    (valid : ValidName names.robotSemaphore ∧ ValidName names.simulatorSemaphore) :
    names.Unbound (close.run s).2.world.space := by
  obtain ⟨role, rfl, owned, named, own, -⟩ := mine
  obtain ⟨journal, ran⟩ := Endpoint.run_close role valid.1 valid.2 s.world
  have unbound := Endpoint.unbound_closed owned named own
  unfold close
  rw [run_bind, run_connection]
  dsimp only
  rw [run_act, ran]
  exact unbound

theorem unbound_leaves (mine : Undisputed names s)
    (valid : ValidName names.robotSemaphore ∧ ValidName names.simulatorSemaphore)
    (leaves : Leaves kind s t) : names.Unbound t.world.space := by
  obtain ⟨u, steps, rfl⟩ := leaves
  exact unbound_close (mine.steps steps) valid

end Talk

theorem abstains_crew (names : Names) (crew : Crew) : Abstains names crew := by
  refine ⟨fun _ => True, trivial, fun crew s _ => ⟨trivial, ?_⟩⟩
  obtain ⟨regions, semaphores⟩ :=
    Crew.acts_names (crew.plan.headD []) { crew with plan := crew.plan.tail } s
  exact ⟨.inl (congrFun regions _), .inl (congrFun semaphores _), .inl (congrFun semaphores _)⟩

end Simulator

end Lockstep
