import Lockstep.Proofs.Channel.Tenure

/-! Letting go of a channel, and once more when its owner goes out of use.

A creator holds the region of its channel until it lets go of it. Whoever takes
a channel down lets go of a hold right after, and that is to find nothing left
to do: the region is given up first, whatever becomes of the rest.
-/

set_option autoImplicit false

namespace Lockstep.Channel

open Effect

variable {α σ : Type}

def RegionHandle.relinquish (r : RegionHandle) : Act α σ Error Bool := do
  let unlinked ← r.destroy
  let _ ← { r with owned := false }.destroy
  return unlinked

/-- What a creator has of its channel: the names, and the region until it lets go of it. -/
structure Hold where
  names : Names
  region? : Option RegionHandle

namespace Hold

def take (e : Endpoint) : Hold := ⟨e.names, some e.region⟩

def spent (h : Hold) : Hold := { h with region? := none }

def teardown (h : Hold) : Act α σ Error Unit :=
  match h.region? with
  | none => return
  | some region => do
    let reclaimed := region.reclaimed (← Act.space)
    let _ ← region.relinquish
    if reclaimed then
      Act.note .warn "Channel names were reclaimed by a newer simulator, leaving them"
        [("region", .text h.names.region)]
    else
      TurnSemaphores.unlink h.names
      Act.note .info "Simulator channel destroyed" [("region", .text h.names.region)]

/-- The end of a hold that may have been torn down before; a failure is noted and forgotten. -/
def drop (h : Hold) (w : World α σ) : World α σ :=
  match h.teardown.run w with
  | (.ok (), w) => w
  | (.error e, w) =>
    w.note ⟨.warn, s!"Failed to tear down simulator channel: {e.message}", []⟩

/-- Take a channel down; the hold ends with that, and is torn down again as it ends. -/
def destroy (h : Hold) : Act α σ Error Unit := ExceptT.mk fun w =>
  let (result, w) := h.teardown.run w
  (result, h.spent.drop w)

end Hold

theorem RegionHandle.run_relinquish (r : RegionHandle) (w : World α σ) :
    r.relinquish.run w = r.destroy.run w := by
  simp [relinquish, RegionHandle.destroy]

namespace Hold

theorem drop_spent (h : Hold) (w : World α σ) : h.spent.drop w = w := rfl

theorem run_teardown {e : Endpoint} (simulator : e.role = .simulator) (w : World α σ) :
    (take e).teardown.run w = e.close.run w := by
  simp only [teardown, take, Endpoint.close, simulator, run_bind, Act.run_space,
    RegionHandle.run_relinquish]

theorem run_destroy {e : Endpoint} (simulator : e.role = .simulator) (w : World α σ) :
    (take e).destroy.run w = e.close.run w := by
  simp only [destroy, run_mk, drop_spent]
  exact run_teardown simulator w

end Hold

theorem createTurns_valid {names : Names} {exclusive : Bool} {w w' : World α σ} {t : TurnSemaphores}
    (created : (createTurns names exclusive).run w = (.ok t, w')) :
    ValidName names.robotSemaphore ∧ ValidName names.simulatorSemaphore := by
  obtain ⟨between, robot, simulator⟩ := createTurns_steps created
  constructor
  · obtain ⟨valid, -⟩ | ⟨-, e, failed⟩ := createSemaphore_cases names.robotSemaphore (!exclusive) w
    · exact valid
    · cases failed.symm.trans robot
  · obtain ⟨valid, -⟩ | ⟨-, e, failed⟩ :=
      createSemaphore_cases names.simulatorSemaphore (!exclusive) between
    · exact valid
    · cases failed.symm.trans simulator

theorem create_valid [Inhabited α] {names : Names} {valueSize : Nat} {exclusive : Bool}
    {w w' : World α σ} {e : Endpoint}
    (created : (Endpoint.create names valueSize exclusive).run w = (.ok e, w')) :
    ValidName names.robotSemaphore ∧ ValidName names.simulatorSemaphore := by
  rw [run_create] at created
  split at created
  next region between made =>
    split at created
    next turns after ran => exact createTurns_valid ran
    next => split at created <;> cases created
  next => cases created

/-- Nothing was bound to a name that it was not bound to before. -/
def Bindings.Spares (names later : Bindings) (name : String) : Prop :=
  later name = names name ∨ later name = none

structure Names.Spared (names : Names) (s t : Space α) : Prop where
  region : s.regionNames.Spares t.regionNames names.region
  robot : s.semaphoreNames.Spares t.semaphoreNames names.robotSemaphore
  simulator : s.semaphoreNames.Spares t.semaphoreNames names.simulatorSemaphore

/-- The creator of a channel that nobody took over leaves none of its names bound. -/
theorem Endpoint.unbound_closed {e : Endpoint} (owned : e.region.owned = true)
    (named : e.region.name = e.names.region) {s : Space α}
    (own : ∀ id, s.regionNames e.names.region = some id → id = e.region.id) :
    e.names.Unbound (e.closed s) := by
  have kept : e.region.reclaimed s = false := by
    unfold RegionHandle.reclaimed
    rw [owned, named]
    cases bound : s.regionNames e.names.region with
    | none => rfl
    | some id => simp [own id bound]
  have region : (e.region.released s).regionNames e.names.region = none := by
    unfold RegionHandle.released
    rw [owned, named]
    split
    next => exact Bindings.unbind_self _ _
    next other =>
      cases bound : s.regionNames e.names.region with
      | none => rfl
      | some id => exact absurd ⟨rfl, own id bound ▸ bound⟩ other
  unfold closed
  rw [kept]
  refine ⟨region, ?_, Bindings.unbind_self _ _⟩
  change ((e.region.released s).semaphoreNames.unbind _).unbind _ _ = none
  unfold Bindings.unbind
  split
  · rfl
  · exact if_pos rfl

end Lockstep.Channel
