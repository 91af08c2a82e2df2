import Lockstep.Proofs.Simulator.Loading
import Lockstep.Proofs.Simulator.Opening
import Lockstep.Proofs.Simulator.Wiring
import Lockstep.Simulator.Headless

/-! What a run comes to with a crew in good order, before it takes its channel down.

Once a robot has answered, only a parameter file that does not load can end the
run in an error.
-/

set_option autoImplicit false

namespace Lockstep.Simulator

open Channel Message Parameter Effect

theorem Plant.request_feedback (p : Plant) (half : ToRobot) :
    (p.feedback half).request = half.request := (p.feedback_keeps half).2.2.2

theorem Plant.robotCode_feedback (p : Plant) (half : ToRobot) :
    (p.feedback half).robotCode = half.robotCode := (p.feedback_keeps half).1

structure Ready (s : Session Crew) : Prop where
  active : s.connection.endpoint.phase = .active
  versed : s.world.peer.Loyal → s.world.peer.versed = true

theorem Ready.later {asks : Nat} {kind : Mode → Prop} {s t : Session Crew} (ready : Ready s)
    (later : Later asks kind s t) (active : t.connection.endpoint.phase = .active) : Ready t :=
  ⟨active, fun loyal => later.versed loyal (ready.versed (later.loyal loyal))⟩

theorem Ready.lost {asks : Nat} {kind : Mode → Prop} {s t : Session Crew} (ready : Ready s)
    (later : Later asks kind s t) (lost : s.world.peer.versed = true → ¬ t.world.peer.Healthy) :
    ¬ t.world.peer.Healthy := fun healthy =>
  lost (ready.versed (later.loyal healthy.loyal)) healthy

/-- Any mode but the one that tells the robot to go. -/
def Working (mode : Mode) : Prop := mode ≠ .exit

def Loads (files : Config.Files) (path : Option String) : Prop :=
  ∀ p, path = some p → ∃ values, loadValues (files p) = .ok values

def sendCost (files : Config.Files) (path : Option String) : Nat :=
  match path with
  | some p => fileCost (files p)
  | none => 0

namespace Running

variable {σ β : Type} {d : Drill Crew} {m : Message}

theorem talk_ends {t : Talk σ β} {d : Drill σ} {post : Except Error β → Session σ → Prop}
    (ends : Ends t d.session post) : Ends (talk t) d fun r e => post r e.session := ends

theorem talk_keeps {t : Talk σ β} {d : Drill σ} {post : Except Error β → Session σ → Prop}
    (ends : Ends t d.session post) : Ends (talk t) d fun r e =>
      post r e.session ∧ e.plant = d.plant ∧ e.cycles = d.cycles := ⟨ends, rfl, rfl⟩

theorem run_message (active : d.session.connection.endpoint.phase = .active)
    (found : d.session.world.space.content? d.session.connection.endpoint.region.id = some m) :
    (talk Talk.message).run d = (.ok m, d) := by
  unfold talk
  rw [run_mk, Talk.run_message active found]

def Steady : Except Error β → Drill Crew → Prop
  | .ok _, e => Ready e.session
  | .error _, e => ¬ e.session.world.peer.Healthy

theorem cycle_ends (synced : Synced d.session m) (ready : Ready d.session) (period : Duration) :
    Ends (cycle period) d fun r e => ∃ m', Synced e.session m' ∧
      Later 0 Working d.session e.session ∧ Steady r e := by
  unfold cycle
  refine .step (run_get d) ?_
  apply (talk_ends (Talk.sense_ends synced d.plant.request_feedback)).bind
  · intro e t ⟨m', _, _, _, waiting⟩
    rw [ready.active] at waiting
    cases waiting
  intro _ t ⟨m₁, shown, first, active⟩
  have showing := ready.later (first Working) active
  have working : Working .runController := by simp [Working]
  apply (talk_ends (Talk.exchange_ends shown .runController working)).bind
  · intro e u ⟨m₂, synced, _, second, _, lost⟩
    exact ⟨m₂, synced, (first Working).trans second, showing.lost second (lost active)⟩
  intro _ u ⟨m₂, synced, _, second, active, _⟩
  have later := (first Working).trans second
  apply Ends.step (run_message active synced.content)
  exact .of_run rfl ⟨m₂, synced.noted _, later.trans (.noted Working _ _),
    (showing.later second active).later (.noted Working _ _) active⟩

theorem cycles_ends (running : Crew → Bool) (budget : Option Nat) (period : Duration) (fuel : Nat)
    (synced : Synced d.session m) (ready : Ready d.session) :
    Ends (cycles running budget period fuel) d fun r e => ∃ m', Synced e.session m' ∧
      Later 0 Working d.session e.session ∧ Steady r e := by
  induction fuel generalizing d m with
  | zero => exact .of_run (run_pure _ _) ⟨m, synced, .refl _ _, ready⟩
  | succ fuel ih =>
    unfold cycles
    refine .step (run_get d) ?_
    cases stopped : running d.session.world.peer with
    | false =>
      refine .step (rfl : noteStop.run d = (.ok (), _)) (.of_run (run_pure _ _) ?_)
      have noted := Later.noted Working d.session ⟨.info, "Received shutdown signal", []⟩
      exact ⟨m, synced.noted _, noted, ready.later noted ready.active⟩
    | true =>
      simp only [Bool.not_true, Bool.false_eq_true, if_false]
      split
      · refine (cycle_ends synced ready period).bind (fun _ _ ends => ends) ?_
        intro _ e ⟨m₁, between, first, steady⟩
        apply (ih between steady).mono
        intro r u ⟨m₂, last, second, ends⟩
        exact ⟨m₂, last, first.trans second, ends⟩
      · exact .of_run (run_pure _ _) ⟨m, synced, .refl _ _, ready⟩

def FileSent (files : Config.Files) (path : Option String) :
    Except Error Nat → Drill Crew → Prop
  | .ok _, e => Loads files path ∧ Ready e.session
  | .error _, e => e.session.world.peer.Healthy → ¬ Loads files path

theorem sendFile_ends (files : Config.Files) (path : Option String) (user : Bool)
    (synced : Synced d.session m) (ready : Ready d.session)
    (room : d.session.connection.requests.toNat + sendCost files path < UInt64.size) :
    Ends (sendFile files path user) d fun r e => ∃ m', Synced e.session m' ∧
      Later (sendCost files path) Working d.session e.session ∧ FileSent files path r e := by
  cases path with
  | none =>
    refine .of_run (run_pure _ _) ⟨m, synced, .refl _ _, ?_, ready⟩
    intro p wanted
    cases wanted
  | some path =>
    have working : Working .applyParameters := by simp [Working]
    have loads : Loads files (some path) ↔ ∃ values, loadValues (files path) = .ok values :=
      ⟨fun loads => loads path rfl, fun loads p same => Option.some.inj same ▸ loads⟩
    apply (talk_ends (Talk.loadFile_ends path (files path) user synced working room)).mono
    rintro (e | count) t ⟨m', later, after, ends⟩
    · refine ⟨m', later, after, fun healthy wanted => ?_⟩
      exact ready.lost after (fun versed => ends.2 ready.active versed (loads.mp wanted)) healthy
    · exact ⟨m', later, after, loads.mpr ends.1, ready.later after (ends.2 ready.active)⟩

/-- How far a run comes with a crew in good order. -/
def Gone (settings : Config.SimulatorSettings) (files : Config.Files) :
    Except Error (Option Progress) → Drill Crew → Prop
  | .ok (some (.finished _)), e => Loads files settings.robotParameters ∧
      Loads files settings.userParameters ∧ Ready e.session
  | .ok _, _ => True
  | .error _, e => e.session.world.peer.Healthy →
      ¬ (Loads files settings.robotParameters ∧ Loads files settings.userParameters)

def askCost (settings : Config.SimulatorSettings) (files : Config.Files) : Nat :=
  sendCost files settings.robotParameters + sendCost files settings.userParameters

theorem body_ends (settings : Config.SimulatorSettings) (files : Config.Files)
    (running : Crew → Bool) (fuel : Nat) (synced : Synced d.session m)
    (active : d.session.connection.endpoint.phase = .active)
    (room : d.session.connection.requests.toNat + askCost settings files < UInt64.size) :
    Ends (body settings files running fuel) d fun r e => ∃ m', Synced e.session m' ∧
      Later (askCost settings files) Working d.session e.session ∧ Gone settings files r e := by
  unfold askCost at room ⊢
  unfold body
  refine .step (run_get d) ?_
  apply (talk_ends (Talk.sense_ends synced d.plant.request_feedback)).bind
  · intro e t ⟨m', _, _, _, waiting⟩
    rw [active] at waiting
    cases waiting
  intro _ t ⟨m₁, shown, first, active⟩
  have working : Working .idle := by simp [Working]
  refine (talk_ends (Talk.handshake_ends (fun _ peer => running peer) fuel shown working)).bind
    ?_ ?_
  · intro e u ⟨m₂, synced, second, _, lost⟩
    refine ⟨m₂, synced, ((first Working).trans second).mono (Nat.zero_le _), ?_⟩
    exact fun healthy => absurd healthy (lost active)
  rintro (_ | _ | _) u ⟨m₂, synced, second, ends⟩
  · exact .of_run (run_pure _ _) ⟨m₂, synced,
      ((first Working).trans second).mono (Nat.zero_le _), trivial⟩
  · refine .step (rfl : noteStop.run u = (.ok (), _)) (.of_run (run_pure _ _) ?_)
    exact ⟨m₂, synced.noted _, (((first Working).trans second).trans
      (.noted Working u.session _)).mono (Nat.zero_le _), trivial⟩
  -- From here on the robot is there, and only the files can go wrong.
  have before := (first Working).trans second
  have few := before.requests
  have ready : Ready u.session := ⟨ends.1, ends.2⟩
  apply (sendFile_ends files settings.robotParameters false synced ready (by omega)).bind
  · intro e v ⟨m₃, synced, third, lost⟩
    exact ⟨m₃, synced, (before.trans third).mono (by omega),
      fun healthy loads => lost healthy loads.1⟩
  intro robotCount v ⟨m₃, synced, third, robotLoads, ready⟩
  have asked := third.requests
  apply (sendFile_ends files settings.userParameters true synced ready (by omega)).bind
  · intro e w ⟨m₄, synced, fourth, lost⟩
    exact ⟨m₄, synced, ((before.trans third).trans fourth).mono (by omega),
      fun healthy loads => lost healthy loads.2⟩
  intro userCount w ⟨m₄, synced, fourth, userLoads, ready⟩
  apply (cycles_ends running _ _ fuel synced ready).bind
  · intro e x ⟨m₅, synced, fifth, lost⟩
    exact ⟨m₅, synced, (((before.trans third).trans fourth).trans fifth).mono (by omega),
      fun healthy => absurd healthy lost⟩
  rintro (_ | _) x ⟨m₅, synced, fifth, ready⟩
  · exact .of_run (run_pure _ _) ⟨m₅, synced,
      (((before.trans third).trans fourth).trans fifth).mono (by omega), trivial⟩
  · exact .of_run (run_pure _ _) ⟨m₅, synced,
      (((before.trans third).trans fourth).trans fifth).mono (by omega), robotLoads, userLoads,
      ready⟩

end Running

end Lockstep.Simulator
