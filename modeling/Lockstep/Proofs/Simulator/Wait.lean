import Lockstep.Proofs.Simulator.Tally

/-! The simulator's own steps: it writes, hands the turn over, and waits for it.

While it has the turn nothing is pending, so it may write whatever it likes into
its half, if a robot can answer it.
-/

set_option autoImplicit false

namespace Lockstep.Crew

open Channel Message

variable {lead : Nat} {crew : Crew} {s s' : Space Message} {m : Message} {half : ToRobot}

theorem Tally.relabel (tally : Tally lead crew s m) (plan : List (List Move)) (late : Bool) :
    Tally lead { crew with plan := plan, late := late } s m := by
  obtain ⟨afloat, few, whole, standing, own, silent, once, seen⟩ := tally
  exact ⟨afloat.relabel plan late, few, fun loyal => whole ⟨loyal.raised, loyal.deserted⟩, standing,
    own, silent, once, seen⟩

theorem Onward.relabel (lead : Nat) (crew : Crew) (s : Space Message) (m : Message)
    (plan : List (List Move)) {late : Bool} (prompt : late = false → crew.late = false) :
    Onward lead crew s m lead { crew with plan := plan, late := late } s m :=
  ⟨rfl, rfl, rfl, rfl, prompt, fun loyal => ⟨loyal.raised, loyal.deserted⟩,
    fun _ versed => versed, fun _ _ _ => rfl, fun _ _ _ => rfl⟩

theorem Tally.settled (tally : Tally 1 crew s m) : m.Settled := by
  obtain settled | ⟨-, free, -⟩ := tally.standing
  · exact settled
  · contradiction

/-- With the turn in the simulator's hands all numbers so far have their response. -/
theorem Tally.answered (tally : Tally 1 crew s m) :
    ∀ n ∈ crew.processed, n ≤ m.toSimulator.response.number := by
  obtain seen | none := tally.seen
  · exact seen
  · omega

theorem Tally.sense (tally : Tally 1 crew s m) (same : half.request = m.toRobot.request) :
    Tally 1 crew (s.setContent crew.objects.region ⟨m.toSimulator, half⟩)
      ⟨m.toSimulator, half⟩ := by
  exact ⟨tally.afloat.write ⟨m.toSimulator, half⟩, tally.few, tally.whole,
    .inl (tally.settled.with_request same), tally.own, tally.silent, tally.once, tally.seen⟩

theorem Tally.hand (tally : Tally 1 crew s m) (standing : Standing ⟨m.toSimulator, half⟩) :
    Tally 0 crew
        ((s.setContent crew.objects.region ⟨m.toSimulator, half⟩).post crew.objects.simulator)
        ⟨m.toSimulator, half⟩ ∧
      ((s.setContent crew.objects.region ⟨m.toSimulator, half⟩).post
        crew.objects.simulator).count crew.objects.robot = 0 := by
  obtain ⟨afloat, moved⟩ := tally.afloat.hand ⟨m.toSimulator, half⟩
  have few := tally.few
  have none : s.count crew.objects.robot = 0 := by
    unfold turns at few
    omega
  have kept : ((s.setContent crew.objects.region ⟨m.toSimulator, half⟩).post
      crew.objects.simulator).count crew.objects.robot = s.count crew.objects.robot :=
    Space.count_post_other _ tally.afloat.apart
  refine ⟨⟨afloat, by omega, fun loyal => ?_, ?_, tally.own, tally.silent, tally.once,
    .inl tally.answered⟩, kept.trans none⟩
  · have whole := tally.whole loyal
    omega
  · exact standing.imp_right fun pending => ⟨pending, rfl, kept.trans none⟩

theorem Tally.gain (tally : Tally 0 crew s m)
    (taken : s.take? crew.objects.robot = some s') :
    Tally 1 crew s' m ∧ Onward 0 crew s m 1 crew s' m := by
  obtain ⟨afloat, moved⟩ := tally.afloat.gain taken
  have down := Space.count_take_self taken
  have few := tally.few
  have settled : m.Settled := by
    obtain settled | ⟨-, -, none⟩ := tally.standing
    · exact settled
    · omega
  constructor
  · refine ⟨afloat, by omega, fun loyal => ?_, .inl settled, tally.own, tally.silent,
      tally.once, ?_⟩
    · have whole := tally.whole loyal
      omega
    · refine tally.seen.imp_right fun none => ?_
      omega
  · obtain ⟨-, same⟩ := Space.take?_eq_some taken
    refine ⟨rfl, rfl, ?_, ?_, id, id, fun _ versed => versed, ?_, fun _ _ _ => rfl⟩
    · rw [same]
    · rw [same]
    · intro _ mode _
      omega

theorem Tally.planned (tally : Tally lead crew s m) :
    ∃ m', Tally lead (crew.await s).1 (crew.await s).2 m' ∧
      Onward lead crew s m lead (crew.await s).1 (crew.await s).2 m' ∧
      ((crew.await s).2.count crew.objects.robot = 0 → crew.versed = true →
        (crew.await s).1.late = true) := by
  obtain ⟨m', after, onward⟩ := (tally.relabel crew.plan.tail crew.late).acts (crew.plan.headD [])
  unfold Crew.await
  generalize Crew.acts _ _ _ = acted at after onward ⊢
  obtain ⟨later, t⟩ := acted
  dsimp only at after onward ⊢
  refine ⟨m', after.relabel _ _, ?_, ?_⟩
  · refine (Onward.relabel _ crew s m crew.plan.tail id).trans (onward.trans ?_)
    refine .relabel _ later t m' later.plan fun prompt => ?_
    rw [Bool.or_eq_false_iff] at prompt
    exact prompt.1
  · intro away versed
    simp [away, versed]

/-- One wait of the simulator: the crew moves as planned, unless the turn is there already. -/
theorem Tally.await {w : World Message Crew} (tally : Tally 0 w.peer w.space m) :
    ∃ m', Tally (w.await w.peer.objects.robot).1.toNat (w.await w.peer.objects.robot).2.peer
        (w.await w.peer.objects.robot).2.space m' ∧
      Onward 0 w.peer w.space m (w.await w.peer.objects.robot).1.toNat
        (w.await w.peer.objects.robot).2.peer (w.await w.peer.objects.robot).2.space m' ∧
      ((w.await w.peer.objects.robot).1 = false →
        (w.await w.peer.objects.robot).2.space.count w.peer.objects.robot = 0 ∧
        (w.peer.versed = true → (w.await w.peer.objects.robot).2.peer.late = true)) := by
  unfold World.await
  cases here : w.space.take? w.peer.objects.robot with
  | some t =>
    obtain ⟨now, onward⟩ := tally.gain here
    exact ⟨m, now, onward, fun missed => absurd missed (by simp)⟩
  | none =>
    obtain ⟨m', after, first, late⟩ := tally.planned
    have objects := first.objects
    simp only [Peer.move]
    generalize w.peer.await w.space = moved at after first late objects ⊢
    obtain ⟨crew, s⟩ := moved
    dsimp only at after first late objects ⊢
    cases there : s.take? w.peer.objects.robot with
    | some t =>
      rw [← objects] at there
      obtain ⟨now, second⟩ := after.gain there
      exact ⟨m', now, first.trans second, fun missed => absurd missed (by simp)⟩
    | none =>
      have away := (Space.take?_eq_none_iff s _).mp there
      exact ⟨m', after, first, fun _ => ⟨away, late away⟩⟩

end Lockstep.Crew
