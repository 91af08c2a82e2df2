import Lockstep.Proofs.Channel.Closing

/-! What regions hold while a channel is made, whether that succeeds or not. -/

set_option autoImplicit false

namespace Lockstep.Channel

open Effect

variable {α β σ : Type} [Inhabited α] {part : α → β}

/-- What regions held they still hold, and of what came to be a part is blank.
Nobody else has moved. -/
structure World.Furnished (part : α → β) (w w' : World α σ) : Prop where
  peer : w'.peer = w.peer
  kept : ∀ id content, w.space.content? id = some content → w'.space.content? id = some content
  fresh : ∀ id content, w.space.content? id = none → w'.space.content? id = some content →
    part content = part default

theorem World.Furnished.of_same {w w' : World α σ} (peer : w'.peer = w.peer)
    (same : ∀ id, w'.space.content? id = w.space.content? id) : w.Furnished part w' := by
  refine ⟨peer, fun id content found => (same id).trans found, fun id content free found => ?_⟩
  cases ((same id).trans free).symm.trans found

theorem World.Furnished.trans {w v u : World α σ} (first : w.Furnished part v)
    (second : v.Furnished part u) : w.Furnished part u := by
  refine ⟨second.peer.trans first.peer, fun id content found =>
    second.kept id content (first.kept id content found), fun id content free found => ?_⟩
  cases between : v.space.content? id with
  | none => exact second.fresh id content between found
  | some before =>
    cases (second.kept id before between).symm.trans found
    exact first.fresh id content free between

instance : IsPreorder (World α σ) (World.Furnished part) where
  refl _ := .of_same rfl fun _ => rfl
  trans _ _ _ first second := first.trans second

theorem furnished_addRegion (w : World α σ) (name : String) (size : Nat) (journal : Journal) :
    w.Furnished part ⟨(w.space.addRegion name ⟨size, default⟩).2, w.peer, journal⟩ := by
  constructor
  case peer => rfl
  case kept =>
    intro id content found
    obtain ⟨region, here, rfl⟩ := Option.map_eq_some_iff.mp found
    obtain ⟨inside, -⟩ := Array.getElem?_eq_some_iff.mp here
    simp [Space.content?, Space.addRegion, Array.getElem?_push, Nat.ne_of_lt inside, here]
  case fresh =>
    intro id content free found
    simp only [Space.content?, Space.addRegion, Array.getElem?_push] at free found
    split at found
    next =>
      cases found
      rfl
    next => cases free.symm.trans found

theorem furnished_createRegion (part : α → β) (name : String) (valueSize : Nat) (overwrite : Bool) :
    Within (World.Furnished part)
      (createRegion name valueSize overwrite : Act α σ Error RegionHandle) := by
  intro w
  obtain ⟨-, -, journal, ran⟩ | ⟨-, e, journal, ran⟩ := createRegion_cases name valueSize overwrite w
  · exact .of_run ran (furnished_addRegion w name _ journal)
  · exact .of_run ran (.of_same rfl fun _ => rfl)

theorem furnished_createSemaphore (part : α → β) (name : String) (overwrite : Bool) :
    Within (World.Furnished part)
      (createSemaphore name overwrite : Act α σ Error SemaphoreHandle) := by
  intro w
  obtain ⟨-, -, journal, ran⟩ | ⟨-, e, ran⟩ := createSemaphore_cases name overwrite w
  · exact .of_run ran (.of_same rfl fun _ => rfl)
  · exact .of_run ran (refl w)

theorem World.Furnished.of_sameObjects {w w' : World α σ} (peer : w'.peer = w.peer)
    (same : w.space.SameObjects w'.space) : w.Furnished part w' :=
  .of_same peer fun id => by
    unfold Space.content?
    rw [same.regions]

theorem furnished_createTurns (part : α → β) (names : Names) (exclusive : Bool) :
    Within (World.Furnished part) (createTurns names exclusive : Act α σ Error TurnSemaphores) := by
  cases exclusive with
  | false =>
    exact (furnished_createSemaphore part _ _).bind fun _ =>
      (furnished_createSemaphore part _ _).bind fun _ => .pure _
  | true =>
    intro w
    have robot := furnished_createSemaphore part (σ := σ) names.robotSemaphore false w
    unfold Ends at robot ⊢
    simp only [createTurns, if_true, run_createExclusive]
    generalize (createSemaphore names.robotSemaphore false).run w = ran at robot ⊢
    obtain ⟨e | made, between⟩ := ran
    · exact robot
    have simulator :=
      furnished_createSemaphore part (σ := σ) names.simulatorSemaphore false between
    unfold Ends at simulator
    dsimp only at robot ⊢
    generalize (createSemaphore names.simulatorSemaphore false).run between = ran at simulator ⊢
    obtain ⟨e | made, after⟩ := ran
    · obtain ⟨same, peer⟩ := run_unlinkSemaphore_keeps names.robotSemaphore after
      dsimp only at simulator ⊢
      have unlinked : World.Furnished part after _ := .of_sameObjects peer same
      generalize (unlinkSemaphore names.robotSemaphore).run after = ran at unlinked ⊢
      obtain ⟨e | _, last⟩ := ran
      · exact robot.trans (simulator.trans unlinked)
      · exact robot.trans (simulator.trans unlinked)
    · exact World.Furnished.trans robot simulator

theorem furnished_create (part : α → β) (names : Names) (valueSize : Nat) (exclusive : Bool) :
    Within (World.Furnished part)
      (Endpoint.create names valueSize exclusive : Act α σ Error Endpoint) := by
  intro w
  have region := furnished_createRegion part (σ := σ) names.region valueSize (!exclusive) w
  unfold Ends at region ⊢
  rw [run_create]
  generalize (createRegion names.region valueSize !exclusive).run w = ran at region ⊢
  obtain ⟨e | handle, between⟩ := ran
  · exact region
  have turns := furnished_createTurns part (σ := σ) names exclusive between
  unfold Ends at turns
  dsimp only at region ⊢
  generalize (createTurns names exclusive).run between = ran at turns ⊢
  obtain ⟨e | made, after⟩ := ran
  · obtain ⟨unlinked, journal, ran⟩ := run_destroy handle after
    simp only [ran]
    have destroyed : after.Furnished part ⟨handle.released after.space, after.peer, journal⟩ :=
      .of_sameObjects rfl (handle.released_keeps after.space)
    exact region.trans (World.Furnished.trans turns destroyed)
  · exact region.trans (World.Furnished.trans turns (.of_same rfl fun _ => rfl))

end Lockstep.Channel
