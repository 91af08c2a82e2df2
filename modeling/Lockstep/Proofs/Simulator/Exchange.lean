import Lockstep.Proofs.Simulator.Calls
import Lockstep.Proofs.Simulator.Session

/-! Exchanges: the turn is handed over once, and comes back or does not.

Each is followed from any session at all, so an exchange out of phase is one of
the cases. A crew in good order never fails to give the turn back.
-/

set_option autoImplicit false

namespace Lockstep.Simulator

open Channel Message Effect

variable {s : Session Crew} {m : Message} {kind : Mode → Prop}

namespace Talk

def Waited (s : Session Crew) (m : Message) : Except Error Bool → Session Crew → Prop
  | .ok true, t => t.connection.endpoint.phase = .active ∧
      (s.world.space.count s.world.peer.objects.robot = 0 → t.world.peer.Loyal →
        ∀ mode, m.mode? = some mode →
          t.world.peer.served mode = s.world.peer.served mode + 1)
  | .ok false, t => t.connection.endpoint.phase = .waiting ∧
      t.world.space.count t.world.peer.objects.robot = 0 ∧
      (s.world.peer.versed = true → ¬ t.world.peer.Healthy)
  | .error e, _ => ¬ e.Foul ∧ s.connection.endpoint.phase = .active

theorem awaitTurn_ends (synced : Synced s m)
    (asked : ∀ mode, m.mode? = some mode → kind mode) :
    Ends awaitTurn s fun r t => ∃ m', Synced t m' ∧ m'.toRobot = m.toRobot ∧
      Later 0 kind s t ∧ Waited s m r t := by
  obtain active | waiting := phase_cases s.connection.endpoint
  · exact .of_run (run_awaitTurn_active active) ⟨m, synced, rfl, .refl _ _, id, active⟩
  refine .of_run (run_awaitTurn waiting) ?_
  obtain ⟨m', tally, onward, late⟩ := (synced.waiting waiting).await
  rw [synced.ids.2.2]
  generalize s.world.await s.world.peer.objects.robot = waited at tally onward late ⊢
  obtain ⟨taken, w⟩ := waited
  dsimp only at tally onward late ⊢
  have numbered : s.connection.requests = m'.toRobot.request.number := by
    rw [onward.half]
    exact synced.numbered
  have objects : s.connection.endpoint.objects = w.peer.objects :=
    synced.objects.trans onward.objects.symm
  have other : w.peer.Loyal → ∀ mode, ¬ kind mode →
      w.peer.served mode = s.world.peer.served mode := fun loyal mode wrong =>
    onward.other loyal mode fun right => wrong (asked mode right)
  cases taken with
  | true =>
    refine ⟨m', ⟨synced.role, objects, tally, numbered⟩, onward.half, ?_, rfl, ?_⟩
    · exact ⟨Nat.le_refl _, rfl, rfl, onward.regionNames, onward.semaphoreNames, onward.loyal,
        onward.late, onward.versed, other⟩
    · intro fresh loyal mode right
      have served := onward.asked loyal mode right
      have few := tally.few
      unfold Crew.turns at few
      change w.peer.served mode = _
      simp only [Bool.toNat_true] at served few
      omega
  | false =>
    have held : s.connection.endpoint.held = 0 := by simp [Endpoint.held, waiting]
    obtain ⟨away, late⟩ := late rfl
    refine ⟨m', ⟨synced.role, objects, held ▸ tally, numbered⟩, onward.half, ?_, waiting, ?_, ?_⟩
    · exact ⟨Nat.le_refl _, rfl, rfl, onward.regionNames, onward.semaphoreNames, onward.loyal,
        onward.late, onward.versed, other⟩
    · rw [← onward.objects] at away
      exact away
    · intro versed healthy
      have delayed := late versed
      rw [healthy.late] at delayed
      contradiction

def Written (s : Session Crew) : Except Error Unit → Session Crew → Prop
  | .ok (), t => t.connection.endpoint.phase = .active
  | .error e, _ => ¬ e.Foul ∧ s.connection.endpoint.phase = .waiting

theorem sense_ends (synced : Synced s m) {write : ToRobot → ToRobot}
    (same : ∀ half, (write half).request = half.request) :
    Ends (update fun m => { m with toRobot := write m.toRobot }) s fun r t => ∃ m', Synced t m' ∧
      (∀ kind, Later 0 kind s t) ∧ Written s r t := by
  obtain active | waiting := phase_cases s.connection.endpoint
  case inr =>
    exact .of_run (run_update_waiting waiting _) ⟨m, synced, fun kind => .refl kind s, id, waiting⟩
  have held : s.connection.endpoint.held = 1 := by simp [Endpoint.held, active]
  have wrote := (synced.active active).sense (same m.toRobot)
  rw [← synced.ids.1] at wrote
  refine .of_run (run_update active synced.content _) ⟨⟨m.toSimulator, write m.toRobot⟩, ?_,
    fun kind => .still rfl (Nat.le_refl _) rfl rfl rfl rfl, active⟩
  refine ⟨synced.role, synced.objects, held ▸ wrote, ?_⟩
  change s.connection.requests = _
  rw [same]
  exact synced.numbered

def Exchanged (s : Session Crew) (mode : Mode) : Except Error Unit → Session Crew → Prop
  | .ok (), t => t.connection.endpoint.phase = .active ∧
      (t.world.peer.Loyal → t.world.peer.served mode = s.world.peer.served mode + 1)
  | .error e, t => ¬ e.Foul ∧ (s.connection.endpoint.phase = .active →
      s.world.peer.versed = true → ¬ t.world.peer.Healthy)

theorem mode?_setMode (m : Message) (mode : Mode) : (m.setMode mode).mode? = some mode :=
  Mode.ofCode?_code mode

theorem handed_mode (synced : Synced s m) (active : s.connection.endpoint.phase = .active)
    (mode : Mode) :
    Synced (s.handed (m.setMode mode) s.connection.requests) (m.setMode mode) ∧
      (s.handed (m.setMode mode) s.connection.requests).world.space.count
        s.world.peer.objects.robot = 0 := by
  have settled := (synced.active active).settled
  have standing : Standing ⟨m.toSimulator, (m.setMode mode).toRobot⟩ :=
    .inl (settled.with_request rfl)
  have handed := synced.handed active standing
  have number : (m.setMode mode).toRobot.request.number = s.connection.requests :=
    synced.numbered.symm
  rw [number] at handed
  exact handed

theorem exchange_ends (synced : Synced s m) (mode : Mode) (right : kind mode) :
    Ends (exchange mode) s fun r t => ∃ m', Synced t m' ∧
      m'.toRobot.request = m.toRobot.request ∧ Later 0 kind s t ∧ Exchanged s mode r t := by
  obtain active | waiting := phase_cases s.connection.endpoint
  case inr =>
    unfold exchange
    refine .halt (run_update_waiting waiting _) ⟨m, synced, rfl, .refl _ _, id, ?_⟩
    simp [waiting]
  obtain ⟨handed, none⟩ := handed_mode synced active mode
  have before : Later 0 kind s (s.handed (m.setMode mode) s.connection.requests) :=
    .handed kind s _ (Nat.le_refl _)
  have asked : ∀ mode', (m.setMode mode).mode? = some mode' → kind mode' := by
    intro mode' same
    rw [mode?_setMode] at same
    exact Option.some.inj same ▸ right
  apply exchange_of_awaitTurn active synced.content synced.room (awaitTurn_ends handed asked)
  · intro t ⟨m', later, half, after, phase, rest⟩
    refine ⟨m', later.counted, by rw [half]; rfl, (before.trans after).trans (.counted kind t),
      phase, ?_⟩
    exact fun loyal => rest none loyal mode (mode?_setMode m mode)
  · rintro t ⟨m', later, half, after, phase, -, rest⟩
    exact ⟨m', later.content, m', later, by rw [half]; rfl, before.trans after, id, fun _ => rest⟩

def Awaited (begun : Prop) : Except Error (Option Bool) → Session Crew → Prop
  | .ok (some true), t => t.connection.endpoint.phase = .active ∧
      (t.world.peer.Loyal → t.world.peer.versed = true)
  | .ok _, _ => True
  | .error e, t => ¬ e.Foul ∧ (begun → ¬ t.world.peer.Healthy)

theorem awaitRobot_ends (keepWaiting : Nat → Crew → Bool) {mode : Mode} (right : kind mode)
    (fuel waited : Nat) (synced : Synced s m) (asked : m.mode? = some mode)
    (waiting : s.connection.endpoint.phase = .waiting)
    (none : s.world.space.count s.world.peer.objects.robot = 0) :
    Ends (awaitRobot keepWaiting fuel waited) s fun r t => ∃ m', Synced t m' ∧
      Later 0 kind s t ∧ Awaited True r t := by
  refine awaitRobot_of_awaitTurn
    (fun t => ∃ m', Synced t m' ∧ m'.mode? = some mode ∧ Later 0 kind s t ∧
      t.connection.endpoint.phase = .waiting ∧ t.world.space.count t.world.peer.objects.robot = 0)
    ?_ ?_ ?_ ?_ keepWaiting fuel waited ⟨m, synced, asked, .refl _ _, waiting, none⟩
  · exact fun t ⟨_, _, _, _, waiting, _⟩ => waiting
  · intro t ⟨m, synced, asked, before, waiting, none⟩
    have kinds : ∀ mode', m.mode? = some mode' → kind mode' := by
      intro mode' same
      rw [asked] at same
      exact Option.some.inj same ▸ right
    refine (awaitTurn_ends synced kinds).mono ?_
    rintro r u ⟨m', later, half, after, rest⟩
    have further := before.trans after
    constructor
    · rintro rfl record
      obtain ⟨phase, rest⟩ := rest
      refine ⟨m', later.counted.noted record,
        (further.trans (.counted kind u)).trans (.noted kind _ record), phase, fun loyal => ?_⟩
      have served := rest none loyal mode asked
      exact later.tally.afloat.manned.versed mode (by omega)
    · rintro rfl
      obtain ⟨phase, away, -⟩ := rest
      refine ⟨m', later.content, fun text said => ⟨m', later, further, id, fun _ healthy => ?_⟩,
        fun _ => ⟨m', later, ?_, further, phase, away⟩⟩
      · rw [later.tally.silent healthy.loyal.raised] at said
        cases said
      · unfold mode? at asked ⊢
        rw [half]
        exact asked
  · exact fun t record ⟨m', later, asked, after, rest⟩ =>
      ⟨m', later.noted record, asked, after.trans (.noted kind t record), rest⟩
  · exact fun t ⟨m', later, _, after, _⟩ => ⟨⟨m', later, after, trivial⟩, ⟨m', later, after, trivial⟩⟩

/-- The first exchange, at the beginning or wherever else it is tried. -/
theorem handshake_ends (keepWaiting : Nat → Crew → Bool) (fuel : Nat) (synced : Synced s m)
    (right : kind .idle) :
    Ends (handshake fuel keepWaiting) s fun r t => ∃ m', Synced t m' ∧
      Later 0 kind s t ∧ Awaited (s.connection.endpoint.phase = .active) r t := by
  obtain active | waiting := phase_cases s.connection.endpoint
  case inr =>
    unfold handshake
    refine .halt (run_update_waiting waiting _) ⟨m, synced, .refl _ _, id, ?_⟩
    simp [waiting]
  apply handshake_of_awaitRobot active synced.content synced.room
  obtain ⟨handed, none⟩ := handed_mode synced active .idle
  refine (awaitRobot_ends keepWaiting right fuel 0 handed (mode?_setMode m .idle) rfl none).mono ?_
  intro r t ⟨m', later, after, ends⟩
  refine ⟨m', later, (Later.handed kind s _ (Nat.le_refl _)).trans after, ?_⟩
  rcases r with e | _ | _ | _
  · exact ⟨ends.1, fun _ => ends.2 trivial⟩
  · exact ends
  · exact ends
  · exact ends

end Talk

end Lockstep.Simulator
