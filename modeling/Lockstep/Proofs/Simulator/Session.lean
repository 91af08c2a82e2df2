import Lockstep.Proofs.Simulator.Talk
import Lockstep.Proofs.Simulator.Wait

/-! A simulator's session with a crew: what holds between any two of its steps.

The number that the connection counts is the one of the request in the region,
and the crew's tally stands with the turn that the endpoint has.
-/

set_option autoImplicit false

namespace Lockstep.Simulator

open Channel Message Effect

/-- Errors that blame the other side for a message that cannot be read or does not fit. -/
def Error.Foul : Error → Prop
  | .protocolViolation _ | .parameter _ => True
  | _ => False

end Lockstep.Simulator

namespace Lockstep.Crew

/-- Nobody failed, left or was late. -/
structure Healthy (crew : Crew) : Prop where
  loyal : crew.Loyal
  late : crew.late = false

instance (crew : Crew) : Decidable crew.Healthy :=
  decidable_of_iff ((crew.raised = [] ∧ crew.deserted = false) ∧ crew.late = false)
    ⟨fun ⟨⟨raised, deserted⟩, late⟩ => ⟨⟨raised, deserted⟩, late⟩,
      fun ⟨⟨raised, deserted⟩, late⟩ => ⟨⟨raised, deserted⟩, late⟩⟩

end Lockstep.Crew

namespace Lockstep.Simulator

open Channel Message Effect

structure Synced (s : Session Crew) (m : Message) : Prop where
  role : s.connection.endpoint.role = .simulator
  objects : s.connection.endpoint.objects = s.world.peer.objects
  tally : Crew.Tally s.connection.endpoint.held s.world.peer s.world.space m
  numbered : s.connection.requests = m.toRobot.request.number

/-- What some steps of a session leave, with `asks` requests at most, all in modes of a kind. -/
structure Later (asks : Nat) (kind : Mode → Prop) (s t : Session Crew) : Prop where
  requests : t.connection.requests.toNat ≤ s.connection.requests.toNat + asks
  names : t.connection.endpoint.names = s.connection.endpoint.names
  region : t.connection.endpoint.region = s.connection.endpoint.region
  regionNames : t.world.space.regionNames = s.world.space.regionNames
  semaphoreNames : t.world.space.semaphoreNames = s.world.space.semaphoreNames
  loyal : t.world.peer.Loyal → s.world.peer.Loyal
  late : t.world.peer.late = false → s.world.peer.late = false
  versed : t.world.peer.Loyal → s.world.peer.versed = true → t.world.peer.versed = true
  served : t.world.peer.Loyal → ∀ mode, ¬ kind mode →
    t.world.peer.served mode = s.world.peer.served mode

namespace Later

variable {asks more : Nat} {kind : Mode → Prop} {s t u : Session Crew}

theorem healthy (later : Later asks kind s t) (healthy : t.world.peer.Healthy) :
    s.world.peer.Healthy := ⟨later.loyal healthy.loyal, later.late healthy.late⟩

theorem trans (first : Later asks kind s t) (second : Later more kind t u) :
    Later (asks + more) kind s u := by
  refine ⟨?_, second.names.trans first.names, second.region.trans first.region,
    second.regionNames.trans first.regionNames, second.semaphoreNames.trans first.semaphoreNames,
    fun loyal => first.loyal (second.loyal loyal), fun late => first.late (second.late late),
    ?_, ?_⟩
  · have before := first.requests
    have after := second.requests
    omega
  · exact fun loyal versed => second.versed loyal (first.versed (second.loyal loyal) versed)
  · intro loyal mode other
    rw [second.served loyal mode other, first.served (second.loyal loyal) mode other]

theorem mono (later : Later asks kind s t) (fewer : asks ≤ more) : Later more kind s t :=
  { later with requests := Nat.le_trans later.requests (Nat.add_le_add_left fewer _) }

theorem still (crew : t.world.peer = s.world.peer)
    (requests : t.connection.requests.toNat ≤ s.connection.requests.toNat + asks)
    (names : t.connection.endpoint.names = s.connection.endpoint.names)
    (region : t.connection.endpoint.region = s.connection.endpoint.region)
    (regionNames : t.world.space.regionNames = s.world.space.regionNames)
    (semaphoreNames : t.world.space.semaphoreNames = s.world.space.semaphoreNames) :
    Later asks kind s t := by
  refine ⟨requests, names, region, regionNames, semaphoreNames, ?_, ?_, ?_, ?_⟩ <;> rw [crew]
  · exact id
  · exact id
  · exact fun _ versed => versed
  · exact fun _ _ _ => rfl

theorem handed (kind : Mode → Prop) (s : Session Crew) (m : Message) {requests : UInt64}
    (few : requests.toNat ≤ s.connection.requests.toNat + asks) :
    Later asks kind s (s.handed m requests) :=
  .still rfl few rfl rfl rfl rfl

theorem noted (kind : Mode → Prop) (s : Session Crew) (r : Record) : Later 0 kind s (s.noted r) :=
  .still rfl (Nat.le_refl _) rfl rfl rfl rfl

theorem counted (kind : Mode → Prop) (s : Session Crew) : Later 0 kind s s.counted :=
  .still rfl (Nat.le_refl _) rfl rfl rfl rfl

theorem refl (kind : Mode → Prop) (s : Session Crew) : Later 0 kind s s :=
  .still rfl (Nat.le_refl _) rfl rfl rfl rfl

end Later

namespace Synced

variable {s : Session Crew} {m : Message}

theorem ids (synced : Synced s m) :
    s.connection.endpoint.region.id = s.world.peer.objects.region ∧
      s.connection.endpoint.own.id = s.world.peer.objects.simulator ∧
      s.connection.endpoint.other.id = s.world.peer.objects.robot :=
  Endpoint.ids_simulator synced.role synced.objects

theorem content (synced : Synced s m) :
    s.world.space.content? s.connection.endpoint.region.id = some m := by
  rw [synced.ids.1]
  exact synced.tally.afloat.content

theorem active (synced : Synced s m) (active : s.connection.endpoint.phase = .active) :
    Crew.Tally 1 s.world.peer s.world.space m := by
  have tally := synced.tally
  rw [Endpoint.held, if_pos active] at tally
  exact tally

theorem waiting (synced : Synced s m) (waiting : s.connection.endpoint.phase = .waiting) :
    Crew.Tally 0 s.world.peer s.world.space m := by
  have tally := synced.tally
  rw [Endpoint.held, if_neg (by simp [waiting])] at tally
  exact tally

theorem room (synced : Synced s m) :
    s.world.space.count s.connection.endpoint.own.id < Space.maxCount := by
  have few := synced.tally.few
  rw [synced.ids.2.1]
  unfold Crew.turns at few
  unfold Space.maxCount
  omega

theorem handed (synced : Synced s m) (active : s.connection.endpoint.phase = .active)
    {half : ToRobot} (standing : Standing ⟨m.toSimulator, half⟩) :
    Synced (s.handed ⟨m.toSimulator, half⟩ half.request.number) ⟨m.toSimulator, half⟩ ∧
      (s.handed ⟨m.toSimulator, half⟩ half.request.number).world.space.count
        s.world.peer.objects.robot = 0 := by
  obtain ⟨region, own, -⟩ := synced.ids
  obtain ⟨tally, none⟩ := (synced.active active).hand standing
  unfold Session.handed
  rw [region, own]
  exact ⟨⟨synced.role, synced.objects, tally, rfl⟩, none⟩

theorem noted (synced : Synced s m) (r : Record) : Synced (s.noted r) m :=
  ⟨synced.role, synced.objects, synced.tally, synced.numbered⟩

theorem counted (synced : Synced s m) : Synced s.counted m :=
  ⟨synced.role, synced.objects, synced.tally, synced.numbered⟩

end Synced

theorem phase_cases (e : Endpoint) : e.phase = .active ∨ e.phase = .waiting := by
  cases e.phase <;> simp

end Lockstep.Simulator
