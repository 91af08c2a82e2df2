import Lockstep.Proofs.Simulator.Dialogue

/-! What one robot alone with its simulator raises over a turn.

It raises nothing until it fails over the turn, and then what it failed with.
If it goes on trying to get a turn after that, it complains of the channel.
-/

set_option autoImplicit false

namespace Lockstep

open Channel Bridge

namespace Crew

/-- What was raised in the course of a turn, with what was raised before it. -/
def Stage.Raises (before : List Bridge.Error) : Stage → List Bridge.Error → Prop
  | .failed e _, raised => ∃ more, raised = before ++ e :: more
  | .home, raised | .lies, raised | .held, raised | .back _ _, raised => raised = before

variable {crew : Crew} {s : Space Message} {p : Program} {m : Message} {stage : Stage} {mate : Mate}
  {before : List Bridge.Error}

theorem take_raises (stands : Stands p stage mate)
    (raises : stage.Raises before crew.raised) :
    (stage.next p m (.take 0)).Raises before (crew.take 0 mate s).1.raised := by
  cases stage with
  | held =>
    rw [take_of_holding stands.holding]
    exact raises
  | failed e turn =>
    obtain ⟨cause, ran⟩ := crew.take_of_active (s := s) stands.holding stands.phase 0
    obtain ⟨more, raised⟩ := raises
    rw [ran]
    refine ⟨more ++ [.channel cause], ?_⟩
    simp only [blame, raised, List.append_assoc, List.cons_append]
  | home | lies | back =>
    rw [take_of_waiting stands.holding stands.phase]
    split
    · exact raises
    · exact raises

theorem Paired.serve_raises (paired : Paired p m stage crew s) (only : crew.mates = [mate])
    (stands : Stands p stage mate) (raises : stage.Raises before crew.raised) :
    (stage.next p m (.serve 0)).Raises before (crew.serve 0 mate s).1.raised := by
  cases stage with
  | home | lies | back | failed =>
    rw [serve_of_free stands.holding]
    exact raises
  | held =>
    change (Stage.served (p.serve m)).Raises before _
    have quiet : crew.raised = before := raises
    rw [paired.run_serve only stands]
    rcases p.serve m with ⟨e | mode, turn⟩
    · exact ⟨[], congrArg (· ++ [e]) quiet⟩
    · exact quiet

theorem Paired.act_raises (paired : Paired p m stage crew s) {move : Move} (solo : move.Solo)
    (raises : stage.Raises before crew.raised) :
    (stage.next p m move).Raises before (crew.act s move).1.raised := by
  obtain ⟨mate, only, stands⟩ := paired.mate
  have nobody (seat : Nat) : crew.mates[seat + 1]? = none := by simp [only]
  have somebody : crew.mates[0]? = some mate := by simp [only]
  cases move with
  | join => exact solo.elim
  | leave => exact solo.elim
  | take seat =>
    cases seat with
    | zero =>
      simp only [Crew.act, somebody]
      exact take_raises stands raises
    | succ seat =>
      simp only [Crew.act, nobody]
      cases stage <;> exact raises
  | serve seat =>
    cases seat with
    | zero =>
      simp only [Crew.act, somebody]
      exact paired.serve_raises only stands raises
    | succ seat =>
      simp only [Crew.act, nobody]
      cases stage <;> exact raises

theorem Paired.acts_raises (paired : Paired p m stage crew s) {moves : List Move}
    (solo : ∀ move ∈ moves, move.Solo) (raises : stage.Raises before crew.raised) :
    (moves.foldl (Stage.next p m) stage).Raises before (Crew.acts moves crew s).1.raised := by
  induction moves generalizing stage crew s with
  | nil => exact raises
  | cons move rest ih =>
    have first := solo move List.mem_cons_self
    exact ih (paired.act first) (fun move member => solo move (List.mem_cons_of_mem _ member))
      (paired.act_raises first raises)

theorem Paired.await_raises (paired : Paired p m stage crew s)
    (solo : ∀ moves ∈ crew.plan, ∀ move ∈ moves, move.Solo)
    (raises : stage.Raises before crew.raised) :
    ((crew.plan.headD []).foldl (Stage.next p m) stage).Raises before (crew.await s).1.raised := by
  have planned := Crew.planned_headD solo
  exact (paired.relabel crew.plan.tail crew.late).acts_raises planned raises

end Crew

namespace Simulator

open Effect Crew

theorem Talk.lasting_raises (p : Program) (m : Message) (before : List Bridge.Error) :
    Lasting p m fun stage crew => stage.Raises before crew.raised := by
  intro stage s dealing away raises
  have waiting : s.connection.endpoint.phase = .waiting := dealing.phase.trans away.waiting.1
  have none : s.world.space.take? s.world.peer.objects.robot = none :=
    (Space.take?_eq_none_iff _ _).mpr (dealing.paired.returned.trans away.waiting.2)
  have raised := dealing.paired.await_raises dealing.solo raises
  refine .of_run (run_awaitTurn waiting) ?_
  rw [dealing.ids.2.2]
  simp only [World.await, none, Peer.move]
  generalize s.world.peer.await s.world.space = moved at raised ⊢
  obtain ⟨crew, space⟩ := moved
  dsimp only at raised ⊢
  split
  next taken =>
    split at taken
    · cases taken
      exact raised
    · cases taken
  next taken =>
    split at taken
    · cases taken
    · cases taken
      exact raised

end Simulator

end Lockstep
