import Lockstep.Proofs.Parameter.File
import Lockstep.Proofs.Simulator.Request

/-! Parameter files on their way to the robot, one request after the other. -/

set_option autoImplicit false

namespace Lockstep.Simulator

open Channel Message Parameter Effect

variable {s : Session Crew} {m : Message} {kind : Mode → Prop}

def fileCost (file : Config.File) : Nat :=
  match loadValues file with
  | .ok values => values.length
  | .error _ => 0

theorem fileCost_of_loaded {file : Config.File} {values : List (String × Value)}
    (loaded : loadValues file = .ok values) : fileCost file = values.length := by
  rw [fileCost, loaded]

namespace Talk

theorem setParameter_ends (synced : Synced s m) (right : kind .applyParameters)
    (room : s.connection.requests.toNat + 1 < UInt64.size) (name : String) (value : Value)
    (user : Bool) :
    Ends (setParameter name value user) s fun r t => ∃ m', Synced t m' ∧ Later 1 kind s t ∧
      Asked s name r t := by
  unfold setParameter
  refine (request_ends synced right room (.set user) name value).bind (fun _ _ ends => ends) ?_
  intro v t ⟨m', later, after, phase⟩
  refine .step (run_note _ _ _ _) (.of_run (run_pure _ _) ?_)
  exact ⟨m', later.noted _, after.trans (.noted kind t _), phase⟩

def Sent {β : Type} (s : Session Crew) : Except Error β → Session Crew → Prop
  | .ok _, t => s.connection.endpoint.phase = .active → t.connection.endpoint.phase = .active
  | .error e, t => ¬ e.Foul ∧ (s.connection.endpoint.phase = .active →
      s.world.peer.versed = true → ¬ t.world.peer.Healthy)

theorem setParameters_ends (user : Bool) (values : List (String × Value))
    (named : ∀ p ∈ values, checkName p.1 = .ok ()) (synced : Synced s m)
    (right : kind .applyParameters)
    (room : s.connection.requests.toNat + values.length < UInt64.size) :
    Ends (setParameters user values) s fun r t => ∃ m', Synced t m' ∧
      Later values.length kind s t ∧ Sent s r t := by
  induction values generalizing s m with
  | nil => exact .of_run (run_pure _ _) ⟨m, synced, .refl _ _, id⟩
  | cons p rest ih =>
    obtain ⟨name, value⟩ := p
    have proper : checkName name = .ok () := named _ List.mem_cons_self
    simp only [List.length_cons] at room ⊢
    unfold setParameters
    apply (setParameter_ends synced right (by omega) name value user).bind
    · intro e t ⟨m', later, after, own, lost⟩
      refine ⟨m', later, after.mono (by omega), ?_, fun active => lost active proper⟩
      intro foul
      obtain ⟨cause, -, refused⟩ := own foul
      rw [proper] at refused
      cases refused
    · intro v t ⟨m', later, after, phase⟩
      have few := after.requests
      refine (ih (fun p member => named p (List.mem_cons_of_mem _ member)) later (by omega)).mono ?_
      intro r u ⟨m'', last, further, sent⟩
      refine ⟨m'', last, (after.trans further).mono (by omega), ?_⟩
      cases r with
      | ok _ => exact fun _ => sent phase
      | error e =>
        refine ⟨sent.1, fun _ versed healthy => sent.2 phase ?_ healthy⟩
        exact after.versed (further.loyal healthy.loyal) versed

def Loaded (s : Session Crew) (file : Config.File) :
    Except Error Nat → Session Crew → Prop
  | .ok _, t => (∃ values, loadValues file = .ok values) ∧
      (s.connection.endpoint.phase = .active → t.connection.endpoint.phase = .active)
  | .error e, t =>
      (e.Foul → ∃ cause, e = .parameter cause ∧ loadValues file = .error cause) ∧
      (s.connection.endpoint.phase = .active → s.world.peer.versed = true →
        (∃ values, loadValues file = .ok values) → ¬ t.world.peer.Healthy)

theorem loadFile_ends (path : String) (file : Config.File) (user : Bool) (synced : Synced s m)
    (right : kind .applyParameters)
    (room : s.connection.requests.toNat + fileCost file < UInt64.size) :
    Ends (loadFile path file user) s fun r t => ∃ m', Synced t m' ∧
      Later (fileCost file) kind s t ∧ Loaded s file r t := by
  unfold loadFile
  cases loaded : loadValues file with
  | error cause =>
    refine .halt (run_ofExcept _ _) ⟨m, synced, (Later.refl kind s).mono (Nat.zero_le _), ?_, ?_⟩
    · exact fun _ => ⟨cause, rfl, loaded⟩
    · rintro - - ⟨values, sent⟩
      rw [loaded] at sent
      cases sent
  | ok values =>
    rw [fileCost_of_loaded loaded] at room ⊢
    refine .step (run_ofExcept _ _) ?_
    refine (setParameters_ends user values (fun p => loadValues_named loaded) synced right
      room).bind ?_ ?_
    · intro e t ⟨m', later, after, own, lost⟩
      exact ⟨m', later, after, fun foul => absurd foul own, fun active versed _ => lost active versed⟩
    · intro _ t ⟨m', later, after, sent⟩
      refine .step (run_note _ _ _ _) (.of_run (run_pure _ _) ?_)
      exact ⟨m', later.noted _, after.trans (.noted kind t _), ⟨values, loaded⟩, sent⟩

end Talk

end Lockstep.Simulator
