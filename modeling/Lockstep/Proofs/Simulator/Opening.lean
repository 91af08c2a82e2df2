import Lockstep.Proofs.Simulator.Session

/-! The beginning of a session: a channel of its own, and nobody else on it yet. -/

set_option autoImplicit false

namespace Lockstep.Simulator

open Channel Message Effect

variable {σ : Type}

def opening (robot : Robot) : Message :=
  { (default : Message) with
    toRobot := { (default : ToRobot) with robotCode := robot.code, modeCode := Mode.idle.code } }

def Connection.created (s : Space Message) (names : Names) (robot : Robot) (options : Options) :
    Connection :=
  ⟨.created s names (Wire.Layout.size Message), robot, options, 0, 0⟩

def opened (s : Space Message) (names : Names) (robot : Robot) : Space Message :=
  (s.withChannel names (Wire.Layout.size Message)).setContent s.regions.size (opening robot)

variable {names : Names} {robot : Robot} {options : Options} {exclusive : Bool}
  {w w' : World Message σ}

theorem Connection.run_create_of_endpoint {e : Endpoint}
    (made : (Endpoint.create names (Wire.Layout.size Message) exclusive).run w = (.ok e, w')) :
    ∃ journal, (Connection.create names robot options exclusive).run w =
      (.ok (.created w.space names robot options),
        ⟨opened w.space names robot, w.peer, journal⟩) := by
  obtain ⟨rfl, space, peer⟩ := create_ok made
  obtain ⟨t, p, journal⟩ := w'
  obtain rfl : t = _ := space
  obtain rfl : p = _ := peer
  have found := content?_withChannel w.space names (Wire.Layout.size Message)
  have wrote := Endpoint.update_of_active
    (.created w.space names (Wire.Layout.size Message)) _ rfl
    (fun m : Message => setMode { m with toRobot := { m.toRobot with robotCode := robot.code } }
      .idle) found
  unfold Connection.create
  simp only [run_bind, made, Act.run_onSpace, wrote, Act.run_note, run_pure]
  exact ⟨_, rfl⟩

theorem Connection.create_ok {c : Connection}
    (created : (Connection.create names robot options exclusive).run w = (.ok c, w')) :
    c = .created w.space names robot options ∧ w'.space = opened w.space names robot ∧
      w'.peer = w.peer := by
  have started := created
  unfold Connection.create at started
  rw [run_bind] at started
  rcases made : (Endpoint.create names (Wire.Layout.size Message) exclusive).run w with ⟨e | e, t⟩
  · rw [made] at started
    cases started
  · obtain ⟨journal, ran⟩ : ∃ journal, (Connection.create names robot options exclusive).run w =
        (.ok (.created w.space names robot options),
          ⟨opened w.space names robot, w.peer, journal⟩) := run_create_of_endpoint made
    rw [ran] at created
    cases created
    exact ⟨rfl, rfl, rfl⟩

/-- On valid names a simulator always gets its channel, if it takes it by force. -/
theorem Connection.create_forced (valid : names.Valid) (robot : Robot) (options : Options)
    (w : World Message σ) :
    ∃ journal, (Connection.create names robot options false).run w =
      (.ok (.created w.space names robot options),
        ⟨opened w.space names robot, w.peer, journal⟩) := by
  obtain ⟨journal, made⟩ :=
    Channel.create_forced valid.region valid.robot valid.simulator (Wire.Layout.size Message) w
  exact run_create_of_endpoint made

theorem Synced.opened (s : Space Message) (names : Names) (robot : Robot) (options : Options)
    (plan : List (List Crew.Move)) (journal : Journal) :
    Synced ⟨.created s names robot options, ⟨opened s names robot,
      .start (Connection.created s names robot options).endpoint.objects plan, journal⟩⟩
      (opening robot) := by
  have size : (Simulator.opened s names robot).counts.size = s.counts.size + 2 :=
    size_counts_withChannel s names _
  -- Both semaphores are fresh, so they lie beyond those that were there and count 0.
  have fresh (id : Nat) (beyond : s.counts.size ≤ id) :
      (Simulator.opened s names robot).count id = 0 := by
    rw [Simulator.opened, Space.count_setContent, count_withChannel]
    exact s.count_eq_zero_of_size_le beyond
  have turns : Crew.turns
      (.start (Connection.created s names robot options).endpoint.objects plan)
      (Simulator.opened s names robot) = 0 := by
    change 0 + (Simulator.opened s names robot).count (s.counts.size + 1) +
      (Simulator.opened s names robot).count s.counts.size = 0
    rw [fresh _ (Nat.le_refl _), fresh _ (Nat.le_succ _)]
  refine ⟨rfl, rfl, ?_, rfl⟩
  change Crew.Tally 1 _ _ _
  refine ⟨⟨?_, ?_, ?_, ?_, ?_⟩, by rw [turns], fun _ => by rw [turns], .inl ⟨rfl, ?_⟩, ?_,
    fun _ => rfl, List.nodup_nil, .inl ?_⟩
  · exact Nat.ne_of_lt (Nat.lt_succ_self _)
  · rw [size]
    exact Nat.lt_add_of_pos_right (by decide)
  · rw [size]
    exact Nat.lt_succ_self _
  · exact Space.content?_setContent (content?_withChannel s names _) _
  · exact fun mate member => absurd member List.not_mem_nil
  · exact fun none => absurd rfl none
  · exact fun e member => absurd member List.not_mem_nil
  · exact fun n member => absurd member List.not_mem_nil

end Lockstep.Simulator
