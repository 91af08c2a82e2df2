import Lockstep.Proofs.Channel.Creation

/-! Letting go of a channel.

Names come free or stay; the objects behind them, their contents and their
counts are what they were.
-/

set_option autoImplicit false

namespace Lockstep.Channel

open Effect

variable {α σ : Type}

structure Space.SameObjects (s t : Space α) : Prop where
  regions : t.regions = s.regions
  counts : t.counts = s.counts

namespace Space.SameObjects

variable {s t u : Space α}

theorem refl (s : Space α) : SameObjects s s := ⟨rfl, rfl⟩

theorem trans (first : SameObjects s t) (second : SameObjects t u) : SameObjects s u :=
  ⟨second.regions.trans first.regions, second.counts.trans first.counts⟩

theorem count (same : SameObjects s t) (id : Nat) : t.count id = s.count id := by
  unfold Space.count
  rw [same.counts]

end Space.SameObjects

theorem run_unlinkSemaphore_valid {name : String} (valid : ValidName name) (w : World α σ) :
    (unlinkSemaphore name).run w = (.ok (), w.setSpace (w.space.unbindSemaphore name)) := by
  simp [unlinkSemaphore, requireName_valid valid]

theorem run_unlinkSemaphore_keeps (name : String) (w : World α σ) :
    w.space.SameObjects ((unlinkSemaphore name).run w).2.space ∧
      ((unlinkSemaphore name).run w).2.peer = w.peer := by
  by_cases valid : ValidName name
  · rw [run_unlinkSemaphore_valid valid]
    exact ⟨⟨rfl, rfl⟩, rfl⟩
  · obtain ⟨fault, refused⟩ := requireName_invalid valid
    simp [unlinkSemaphore, refused, Space.SameObjects.refl]

theorem run_unlink_keeps (names : Names) (w : World α σ) :
    w.space.SameObjects ((TurnSemaphores.unlink names).run w).2.space ∧
      ((TurnSemaphores.unlink names).run w).2.peer = w.peer := by
  have first := run_unlinkSemaphore_keeps names.robotSemaphore w
  simp only [TurnSemaphores.unlink, run_bind]
  generalize (unlinkSemaphore names.robotSemaphore).run w = ran at first ⊢
  rcases ran with ⟨_ | _, between⟩
  · exact first
  · have second := run_unlinkSemaphore_keeps names.simulatorSemaphore between
    exact ⟨first.1.trans second.1, second.2.trans first.2⟩

def RegionHandle.released (r : RegionHandle) (s : Space α) : Space α :=
  if r.owned = true ∧ s.regionNames r.name = some r.id then s.unbindRegion r.name else s

theorem RegionHandle.released_keeps (r : RegionHandle) (s : Space α) :
    s.SameObjects (r.released s) := by
  unfold released
  split <;> exact ⟨rfl, rfl⟩

theorem run_destroy (r : RegionHandle) (w : World α σ) :
    ∃ unlinked journal, r.destroy.run w =
      (.ok unlinked, ⟨r.released w.space, w.peer, journal⟩) := by
  unfold RegionHandle.released
  cases owned : r.owned with
  | false =>
    refine ⟨false, w.journal, ?_⟩
    simp [RegionHandle.destroy, owned]
  | true =>
    cases bound : w.space.regionNames r.name with
    | none =>
      refine ⟨false, ?_⟩
      by_cases directory : r.name ∈ directoryNames <;>
        simp [RegionHandle.destroy, unlinkObjectIf, unlinkObjectIf.foreign, owned, bound, directory,
          World.note] <;>
        exact ⟨_, rfl⟩
    | some current =>
      by_cases same : current = r.id
      · refine ⟨true, ?_⟩
        simp [RegionHandle.destroy, unlinkObjectIf, owned, bound, same, World.setSpace, World.note]
        exact ⟨_, rfl⟩
      · refine ⟨false, ?_⟩
        simp [RegionHandle.destroy, unlinkObjectIf, unlinkObjectIf.foreign, owned, bound, same,
          World.note]
        exact ⟨_, rfl⟩

namespace Endpoint

theorem close_keeps (e : Endpoint) (w : World α σ) :
    w.space.SameObjects ((e.close).run w).2.space ∧ ((e.close).run w).2.peer = w.peer := by
  cases role : e.role with
  | robot => simp [close, role, World.note, Space.SameObjects.refl]
  | simulator =>
    obtain ⟨unlinked, journal, ran⟩ := run_destroy e.region w
    have destroyed := e.region.released_keeps w.space
    simp only [close, role, run_bind, Act.run_space, ran]
    split
    · exact ⟨destroyed, rfl⟩
    · have unlinkedToo := run_unlink_keeps e.names (⟨e.region.released w.space, w.peer, journal⟩ : World α σ)
      simp only [run_bind]
      generalize (TurnSemaphores.unlink e.names).run _ = ran at unlinkedToo ⊢
      rcases ran with ⟨_ | _, after⟩ <;>
        exact ⟨destroyed.trans unlinkedToo.1, unlinkedToo.2⟩

/-- A name space after the creator of a channel let go of it: what the region's name is bound
to decides about all three names. -/
def closed (e : Endpoint) (s : Space α) : Space α :=
  if e.region.reclaimed s then s
  else ((e.region.released s).unbindSemaphore e.names.robotSemaphore).unbindSemaphore
    e.names.simulatorSemaphore

theorem run_close {e : Endpoint} (simulator : e.role = .simulator)
    (robotName : ValidName e.names.robotSemaphore)
    (simulatorName : ValidName e.names.simulatorSemaphore) (w : World α σ) :
    ∃ journal, (e.close).run w = (.ok (), ⟨e.closed w.space, w.peer, journal⟩) := by
  obtain ⟨unlinked, journal, ran⟩ := run_destroy e.region w
  cases reclaimed : e.region.reclaimed w.space with
  | true =>
    -- A region that somebody else has the name of is not unbound either.
    have kept : e.region.released w.space = w.space := by
      unfold RegionHandle.reclaimed at reclaimed
      unfold RegionHandle.released
      cases bound : w.space.regionNames e.region.name with
      | none => simp [bound] at reclaimed
      | some current =>
        simp [bound] at reclaimed
        simp [reclaimed.2]
    simp [close, closed, simulator, ran, reclaimed, kept, World.note]
    exact ⟨_, rfl⟩
  | false =>
    simp [close, closed, simulator, ran, reclaimed, TurnSemaphores.unlink, World.setSpace,
      World.note, run_unlinkSemaphore_valid robotName, run_unlinkSemaphore_valid simulatorName]
    exact ⟨_, rfl⟩

/-- A creator whose names are still its own takes all three of them down. -/
theorem run_close_simulator {e : Endpoint} (simulator : e.role = .simulator)
    (owned : e.region.owned = true) (named : e.region.name = e.names.region)
    (robotName : ValidName e.names.robotSemaphore)
    (simulatorName : ValidName e.names.simulatorSemaphore) {w : World α σ}
    (bound : w.space.regionNames e.names.region = some e.region.id) :
    ∃ journal, (e.close).run w = (.ok (),
      ⟨((w.space.unbindRegion e.names.region).unbindSemaphore
        e.names.robotSemaphore).unbindSemaphore e.names.simulatorSemaphore, w.peer, journal⟩) := by
  obtain ⟨journal, ran⟩ := run_close simulator robotName simulatorName w
  refine ⟨journal, ?_⟩
  simp [ran, closed, RegionHandle.reclaimed, RegionHandle.released, owned, named, bound]

end Endpoint

end Lockstep.Channel
