import Lockstep.Proofs.Channel.Party

/-! A simulator and a robot that need not hold the same objects.

They were meant to share a channel, but some of the robot's objects may be older
than the simulator's. Nobody else is there to post the older semaphores.
-/

set_option autoImplicit false

namespace Lockstep.Channel

structure Duel (α : Type) where
  space : Space α
  simulator : Endpoint
  robot : Endpoint

namespace Duel

variable {α : Type}

def step (d : Duel α) : Role × Call α → Duel α
  | (.simulator, c) =>
    { d with
      simulator := (c.perform d.simulator d.space).2.1
      space := (c.perform d.simulator d.space).2.2 }
  | (.robot, c) =>
    { d with
      robot := (c.perform d.robot d.space).2.1
      space := (c.perform d.robot d.space).2.2 }

def run (d : Duel α) (calls : List (Role × Call α)) : Duel α := calls.foldl step d

/-- Both have the turn on one region. -/
def Clash (d : Duel α) : Prop :=
  d.simulator.phase = .active ∧ d.robot.phase = .active ∧
    d.robot.region.id = d.simulator.region.id

/-- A robot that has just attached to something, and a simulator that has just
created a channel. -/
structure Opening (d : Duel α) : Prop where
  simulatorRole : d.simulator.role = .simulator
  robotRole : d.robot.role = .robot
  active : d.simulator.phase = .active
  waiting : d.robot.phase = .waiting
  apart : d.simulator.turns.robot.id ≠ d.simulator.turns.simulator.id
  foreign : d.robot.turns.robot.id ≠ d.simulator.turns.simulator.id
  robotExists : d.simulator.turns.robot.id < d.space.counts.size
  simulatorExists : d.simulator.turns.simulator.id < d.space.counts.size
  robotFresh : d.space.count d.simulator.turns.robot.id = 0
  simulatorFresh : d.space.count d.simulator.turns.simulator.id = 0

structure Same (d d' : Duel α) : Prop where
  simulatorRole : d'.simulator.role = d.simulator.role
  robotRole : d'.robot.role = d.robot.role
  simulatorObjects : d'.simulator.objects = d.simulator.objects
  robotObjects : d'.robot.objects = d.robot.objects
  size : d'.space.counts.size = d.space.counts.size

theorem Same.trans {d e f : Duel α} (first : d.Same e) (second : e.Same f) : d.Same f :=
  ⟨second.simulatorRole.trans first.simulatorRole, second.robotRole.trans first.robotRole,
    second.simulatorObjects.trans first.simulatorObjects,
    second.robotObjects.trans first.robotObjects, second.size.trans first.size⟩

theorem step_same (d : Duel α) (call : Role × Call α) : d.Same (d.step call) := by
  obtain ⟨role, c⟩ := call
  cases role with
  | simulator =>
    obtain ⟨role, objects, size⟩ := (c.perform_moves d.simulator d.space).keeps_identity
    exact ⟨role, rfl, objects, rfl, size⟩
  | robot =>
    obtain ⟨role, objects, size⟩ := (c.perform_moves d.robot d.space).keeps_identity
    exact ⟨rfl, role, rfl, objects, size⟩

/-- The robot waits for the simulator's own semaphore, so the two of them never
have more than one turn. What the robot gives away may be lost. -/
structure Shared (d : Duel α) : Prop where
  simulatorRole : d.simulator.role = .simulator
  robotRole : d.robot.role = .robot
  shared : d.robot.objects.simulator = d.simulator.objects.simulator
  apart : d.simulator.objects.robot ≠ d.simulator.objects.simulator
  foreign : d.robot.objects.robot ≠ d.simulator.objects.simulator
  robotExists : d.simulator.objects.robot < d.space.counts.size
  simulatorExists : d.simulator.objects.simulator < d.space.counts.size
  turns : d.simulator.held + d.robot.held + d.space.count d.simulator.objects.simulator +
    d.space.count d.simulator.objects.robot ≤ 1

theorem Shared.step {d : Duel α} (shared : d.Shared) (call : Role × Call α) :
    (d.step call).Shared := by
  have same := d.step_same call
  constructor
  case simulatorRole => exact same.simulatorRole.trans shared.simulatorRole
  case robotRole => exact same.robotRole.trans shared.robotRole
  case shared => rw [same.robotObjects, same.simulatorObjects, shared.shared]
  case apart => rw [same.simulatorObjects]; exact shared.apart
  case foreign => rw [same.robotObjects, same.simulatorObjects]; exact shared.foreign
  case robotExists => rw [same.simulatorObjects, same.size]; exact shared.robotExists
  case simulatorExists => rw [same.simulatorObjects, same.size]; exact shared.simulatorExists
  case turns =>
    rw [same.simulatorObjects]
    have turns := shared.turns
    obtain ⟨role, c⟩ := call
    cases role with
    | simulator =>
      have balance := ((c.perform_moves d.simulator d.space).balance shared.apart
        shared.robotExists shared.simulatorExists).1
      simp only [Duel.step]
      omega
    | robot =>
      have moves := c.perform_moves d.robot d.space
      simp only [Duel.step]
      generalize (c.perform d.robot d.space).2.1 = e' at moves ⊢
      generalize (c.perform d.robot d.space).2.2 = s' at moves ⊢
      cases moves with
      | keeps counts =>
        simp only [Space.count, counts] at turns ⊢
        exact turns
      | takes waiting taken =>
        rw [Endpoint.other, shared.robotRole] at taken
        have simulator := Space.count_take_self taken
        have robot := Space.count_take_le taken d.simulator.objects.robot
        have same : d.robot.turns.simulator.id = d.simulator.objects.simulator := shared.shared
        rw [same] at simulator
        simp only [Endpoint.held, Endpoint.tookTurn, waiting] at turns ⊢
        simp at turns ⊢
        omega
      | gives active =>
        rw [Endpoint.own, shared.robotRole]
        have simulator := d.space.count_post_other shared.foreign.symm
        have robot := d.space.count_post_le d.robot.turns.robot.id d.simulator.objects.robot
        simp only [Endpoint.objects] at simulator robot turns ⊢
        simp only [Endpoint.held, Endpoint.gaveTurn, active] at turns ⊢
        simp at turns ⊢
        omega

/-- The robot waits for a semaphore that is not the simulator's and counts 0. -/
structure Asleep (d : Duel α) : Prop where
  simulatorRole : d.simulator.role = .simulator
  robotRole : d.robot.role = .robot
  waiting : d.robot.phase = .waiting
  stale : d.robot.objects.simulator ≠ d.simulator.objects.simulator
  empty : d.space.count d.robot.objects.simulator = 0

theorem Asleep.step {d : Duel α} (asleep : d.Asleep) (call : Role × Call α) :
    (d.step call).Asleep := by
  have same := d.step_same call
  have empty := asleep.empty
  obtain ⟨role, c⟩ := call
  cases role with
  | simulator =>
    refine ⟨same.simulatorRole.trans asleep.simulatorRole, asleep.robotRole, asleep.waiting, ?_, ?_⟩
    · rw [same.simulatorObjects]
      exact asleep.stale
    · have moves := c.perform_moves d.simulator d.space
      simp only [Duel.step]
      generalize (c.perform d.simulator d.space).2.1 = e' at moves
      generalize (c.perform d.simulator d.space).2.2 = s' at moves ⊢
      cases moves with
      | keeps counts =>
        simp only [Space.count, counts] at empty ⊢
        exact empty
      | takes _ taken =>
        have lowered := Space.count_take_le taken d.robot.objects.simulator
        omega
      | gives _ =>
        rw [Endpoint.own, asleep.simulatorRole]
        exact (d.space.count_post_other asleep.stale).trans empty
  | robot =>
    have moves := c.perform_moves d.robot d.space
    have objects := same.robotObjects
    have role := same.robotRole
    simp only [Duel.step] at objects role ⊢
    generalize (c.perform d.robot d.space).2.1 = e' at moves objects role ⊢
    generalize (c.perform d.robot d.space).2.2 = s' at moves ⊢
    cases moves with
    | keeps counts =>
      refine ⟨asleep.simulatorRole, asleep.robotRole, asleep.waiting, asleep.stale, ?_⟩
      simp only [Space.count, counts] at empty ⊢
      exact empty
    | takes _ taken =>
      rw [Endpoint.other, asleep.robotRole] at taken
      have positive : 0 < d.space.count d.robot.objects.simulator := (Space.take?_eq_some taken).1
      omega
    | gives active =>
      rw [asleep.waiting] at active
      contradiction

/-- What every call keeps holds however often and in whatever order they are made. -/
theorem run_keeps {P : Duel α → Prop} (keeps : ∀ d call, P d → P (d.step call)) {d : Duel α}
    (start : P d) (calls : List (Role × Call α)) : P (d.run calls) := by
  induction calls generalizing d with
  | nil => exact start
  | cons call rest ih => exact ih (keeps d call start)

theorem run_same (d : Duel α) (calls : List (Role × Call α)) : d.Same (d.run calls) := by
  apply run_keeps
  · intro e call same
    exact same.trans (e.step_same call)
  · exact ⟨rfl, rfl, rfl, rfl, rfl⟩

/-- The two of them can get at one region at once just if it is the same region
and the robot finds a turn in a semaphore that is not the simulator's. -/
theorem Opening.clash_iff {d : Duel α} (opening : d.Opening) :
    (∃ calls, (d.run calls).Clash) ↔ d.robot.region.id = d.simulator.region.id ∧
      d.robot.turns.simulator.id ≠ d.simulator.turns.simulator.id ∧
      0 < d.space.count d.robot.turns.simulator.id := by
  constructor
  · rintro ⟨calls, simulatorActive, robotActive, sameRegion⟩
    have same := d.run_same calls
    have region : d.robot.region.id = d.simulator.region.id := by
      have moved := congrArg Objects.region same.robotObjects
      have stayed := congrArg Objects.region same.simulatorObjects
      exact moved.symm.trans (sameRegion.trans stayed)
    have stale : d.robot.turns.simulator.id ≠ d.simulator.turns.simulator.id := by
      intro same
      have shared : d.Shared := by
        refine ⟨opening.simulatorRole, opening.robotRole, same, opening.apart, opening.foreign,
          opening.robotExists, opening.simulatorExists, ?_⟩
        have robotFresh := opening.robotFresh
        have simulatorFresh := opening.simulatorFresh
        simp [Endpoint.held, Endpoint.objects, opening.active, opening.waiting, robotFresh,
          simulatorFresh]
      have turns := (run_keeps (fun _ call shared => shared.step call) shared calls).turns
      simp [Endpoint.held, simulatorActive, robotActive] at turns
      omega
    refine ⟨region, stale, Nat.pos_of_ne_zero fun empty => ?_⟩
    have asleep : d.Asleep :=
      ⟨opening.simulatorRole, opening.robotRole, opening.waiting, stale, empty⟩
    have waiting := (run_keeps (fun _ call asleep => asleep.step call) asleep calls).waiting
    rw [robotActive] at waiting
    contradiction
  · rintro ⟨region, -, positive⟩
    have other : d.robot.other.id = d.robot.turns.simulator.id := by
      rw [Endpoint.other, opening.robotRole]
    rw [← other] at positive
    refine ⟨[(.robot, .tryTake)], ?_⟩
    simp only [run, List.foldl_cons, List.foldl_nil, step, Call.perform,
      d.robot.tryTake_of_waiting d.space opening.waiting, Space.take?_of_pos _ positive]
    exact ⟨opening.active, rfl, region⟩

end Duel

end Lockstep.Channel
