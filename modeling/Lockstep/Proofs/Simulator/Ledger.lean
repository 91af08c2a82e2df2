import Lockstep.Proofs.Bridge.Counts
import Lockstep.Proofs.Simulator.Turns

/-! The books of a crew: what its robots have counted, and what became of it.

A turn that is given back is in the books of the robot that served it before anybody
else can have it. Turns that a robot failed over or left with are in nobody's.
-/

set_option autoImplicit false

namespace Lockstep

open Channel Message

structure Mate.Booked (mate : Mate) : Prop where
  completed : mate.bridge.endpoint.completed = mate.modes.length
  stats : mate.bridge.program.stats.Of mate.modes

theorem Mate.Booked.blank {mate : Mate} (booked : mate.Booked) (idle : mate.modes = []) :
    mate.bridge.endpoint.completed = 0 ∧ mate.bridge.program.stats.redundantTurns = 0 := by
  obtain ⟨completed, stats⟩ := booked
  rw [idle] at completed stats
  refine ⟨completed, Nat.eq_zero_of_le_zero ?_⟩
  exact Nat.le_trans stats.redundant (Nat.le_of_eq stats.parameter)

namespace Crew

/-- Whoever is to come on board has not served a turn yet. -/
def Move.New : Move → Prop
  | .join _ program => program.stats = .fresh
  | .take _ | .serve _ | .leave _ => True

instance (move : Move) : Decidable move.New := by
  cases move with
  | join => exact inferInstanceAs (Decidable (_ = _))
  | take | serve | leave => exact instDecidableTrue

def given (crew : Crew) : Nat := total (·.bridge.endpoint.completed) crew.mates

def redundant (crew : Crew) : Nat := total (·.bridge.program.stats.redundantTurns) crew.mates

/-- The books of a crew, while the simulator has `lead` turns and had `exchanges` back. As long
as nobody left who had a turn, they hold every turn that was given back. -/
structure Ledger (lead exchanges : Nat) (crew : Crew) (s : Space Message) (m : Message) : Prop where
  afloat : crew.Afloat s m
  few : lead + crew.turns s ≤ 1
  planned : ∀ moves ∈ crew.plan, ∀ move ∈ moves, move.New
  booked : ∀ mate ∈ crew.mates, mate.Booked
  given : crew.deserted = false → crew.given = exchanges + s.count crew.objects.robot
  -- Every request that was answered has its number, and every other one was redundant.
  answered : crew.deserted = false →
    crew.redundant + m.toSimulator.response.number.toNat = crew.served .applyParameters

/-- Somebody may yet serve a turn of a mode. -/
def MayServe (crew : Crew) (s : Space Message) (m : Message) (mode : Mode) : Prop :=
  m.mode? = some mode ∧ 0 < crew.turns s

/-- What some moves leave of the books. -/
structure Advance (crew : Crew) (s : Space Message) (m : Message) (crew' : Crew)
    (s' : Space Message) (m' : Message) : Prop where
  half : m'.toRobot = m.toRobot
  objects : crew'.objects = crew.objects
  fewer : crew'.turns s' ≤ crew.turns s
  deserted : crew'.deserted = false → crew.deserted = false
  rises : m.toSimulator.response.number.toNat ≤ m'.toSimulator.response.number.toNat
  number : ¬ crew.MayServe s m .applyParameters →
    m'.toSimulator.response.number = m.toSimulator.response.number
  served : crew'.deserted = false → ∀ mode, ¬ crew.MayServe s m mode →
    crew'.served mode = crew.served mode

variable {lead exchanges : Nat} {crew crew' crew'' : Crew} {s s' s'' : Space Message}
  {m m' m'' : Message}

namespace Advance

theorem refl (crew : Crew) (s : Space Message) (m : Message) : Advance crew s m crew s m :=
  ⟨rfl, rfl, Nat.le_refl _, id, Nat.le_refl _, fun _ => rfl, fun _ _ _ => rfl⟩

theorem mayServe (advance : Advance crew s m crew' s' m') {mode : Mode}
    (later : crew'.MayServe s' m' mode) : crew.MayServe s m mode := by
  obtain ⟨asked, some⟩ := later
  refine ⟨?_, Nat.lt_of_lt_of_le some advance.fewer⟩
  unfold mode? at asked ⊢
  rw [← advance.half]
  exact asked

theorem trans (first : Advance crew s m crew' s' m') (second : Advance crew' s' m' crew'' s'' m'') :
    Advance crew s m crew'' s'' m'' := by
  refine ⟨second.half.trans first.half, second.objects.trans first.objects,
    Nat.le_trans second.fewer first.fewer, fun stayed => first.deserted (second.deserted stayed),
    Nat.le_trans first.rises second.rises, fun none => ?_, fun stayed mode none => ?_⟩
  · rw [second.number fun later => none (first.mayServe later), first.number none]
  · rw [second.served stayed mode fun later => none (first.mayServe later),
      first.served (second.deserted stayed) mode none]

end Advance

structure Level (crew crew' : Crew) : Prop where
  booked : ∀ mate ∈ crew'.mates, mate.Booked
  deserted : crew'.deserted = false → crew.deserted = false
  given : crew'.deserted = false → crew'.given = crew.given
  redundant : crew'.deserted = false → crew'.redundant = crew.redundant
  served : crew'.deserted = false → ∀ mode, crew'.served mode = crew.served mode

theorem Level.blame (booked : ∀ mate ∈ crew.mates, mate.Booked) (e : Bridge.Error) :
    Level crew (crew.blame e) :=
  ⟨booked, id, fun _ => rfl, fun _ => rfl, fun _ _ => rfl⟩

theorem Level.reseat {seat : Nat} {mate n : Mate} (booked : ∀ mate ∈ crew.mates, mate.Booked)
    (found : crew.mates[seat]? = some mate) (mates : crew'.mates = crew.mates.set seat n)
    (deserted : crew'.deserted = crew.deserted)
    (completed : n.bridge.endpoint.completed = mate.bridge.endpoint.completed)
    (stats : n.bridge.program.stats = mate.bridge.program.stats) (modes : n.modes = mate.modes) :
    Level crew crew' := by
  have given := total_set (·.bridge.endpoint.completed) found n
  have redundant := total_set (·.bridge.program.stats.redundantTurns) found n
  have served (mode : Mode) := total_set (·.modes.count mode) found n
  rw [← mates] at given redundant served
  refine ⟨fun other member => ?_, fun stayed => deserted ▸ stayed, fun _ => ?_, fun _ => ?_,
    fun _ mode => ?_⟩
  · rw [mates] at member
    obtain old | rfl := List.mem_or_eq_of_mem_set member
    · exact booked other old
    · obtain ⟨same, counts⟩ := booked mate (List.mem_of_getElem? found)
      refine ⟨(completed.trans same).trans (congrArg _ modes.symm), ?_⟩
      rw [stats, modes]
      exact counts
  · unfold Crew.given
    omega
  · unfold Crew.redundant
    rw [stats] at redundant
    omega
  · have same := served mode
    unfold Crew.served
    rw [modes] at same
    omega

theorem Level.leave {seat : Nat} {mate : Mate} (booked : ∀ mate ∈ crew.mates, mate.Booked)
    (manned : crew.Manned) (found : crew.mates[seat]? = some mate) :
    Level crew (crew.leave seat mate) := by
  have stays (stayed : (crew.leave seat mate).deserted = false) :
      crew.deserted = false ∧ mate.modes = [] := by
    obtain ⟨before, untried⟩ := Bool.or_eq_false_iff.mp stayed
    have fresh : mate.taken = 0 := Nat.eq_zero_of_not_pos (of_decide_eq_false untried)
    exact ⟨before, ((manned.at found).fresh fresh).2⟩
  have blank (stayed : (crew.leave seat mate).deserted = false) :=
    (booked mate (List.mem_of_getElem? found)).blank (stays stayed).2
  refine ⟨fun other member => booked other (List.mem_of_mem_eraseIdx member),
    fun stayed => (stays stayed).1, fun stayed => ?_, fun stayed => ?_, fun stayed mode => ?_⟩
  · have fewer : (crew.leave seat mate).given + mate.bridge.endpoint.completed = crew.given :=
      total_eraseIdx _ found
    rw [(blank stayed).1] at fewer
    exact fewer
  · have fewer : (crew.leave seat mate).redundant + mate.bridge.program.stats.redundantTurns =
        crew.redundant := total_eraseIdx _ found
    rw [(blank stayed).2] at fewer
    exact fewer
  · have fewer : (crew.leave seat mate).served mode + mate.modes.count mode = crew.served mode :=
      total_eraseIdx _ found
    rw [(stays stayed).2] at fewer
    exact fewer

theorem Level.join {b : Bridge} (booked : ∀ mate ∈ crew.mates, mate.Booked)
    (blank : Mate.Booked ⟨b, false, 0, []⟩) :
    Level crew { crew with mates := crew.mates ++ [⟨b, false, 0, []⟩] } := by
  obtain ⟨completed, redundant⟩ := blank.blank rfl
  refine ⟨fun mate member => ?_, id, fun _ => ?_, fun _ => ?_, fun _ mode => ?_⟩
  · obtain old | new := List.mem_append.mp member
    · exact booked mate old
    · obtain rfl := List.mem_singleton.mp new
      exact blank
  · exact (total_append _ _ _).trans (congrArg (crew.given + ·) completed)
  · exact (total_append _ _ _).trans (congrArg (crew.redundant + ·) redundant)
  · exact total_append _ _ _

theorem length_act_le (crew : Crew) (s : Space Message) {move : Move}
    (aboard : ∀ names program, move ≠ .join names program) :
    (crew.act s move).1.mates.length ≤ crew.mates.length := by
  have reseated (seat : Nat) (mate : Mate) :
      (crew.reseat seat mate).mates.length = crew.mates.length := List.length_set
  cases move with
  | join names program => exact absurd rfl (aboard names program)
  | take seat =>
    simp only [act]
    cases crew.mates[seat]? with
    | none => exact Nat.le_refl _
    | some mate =>
      change (crew.take seat mate s).1.mates.length ≤ _
      unfold take
      split
      · exact Nat.le_refl _
      · split
        · exact Nat.le_of_eq (reseated _ _)
        · exact Nat.le_refl _
        · exact Nat.le_refl _
  | serve seat =>
    simp only [act]
    cases crew.mates[seat]? with
    | none => exact Nat.le_refl _
    | some mate =>
      change (crew.serve seat mate s).1.mates.length ≤ _
      unfold serve
      split
      · exact Nat.le_refl _
      · split
        · exact Nat.le_of_eq (reseated _ _)
        · split
          · exact Nat.le_of_eq (reseated _ _)
          · exact Nat.le_of_eq (reseated _ _)
  | leave seat =>
    simp only [act]
    cases crew.mates[seat]? with
    | none => exact Nat.le_refl _
    | some mate => exact List.length_eraseIdx_le _ _

theorem act_boards (crew : Crew) (s : Space Message) {move : Move} (new : move.New) {b : Bridge}
    (boards : (crew.act s move).1.mates = crew.mates ++ [⟨b, false, 0, []⟩]) :
    Mate.Booked ⟨b, false, 0, []⟩ := by
  have more := congrArg List.length boards
  rw [List.length_append, List.length_singleton] at more
  by_cases aboard : ∀ names program, move ≠ .join names program
  · have fewer := length_act_le crew s aboard
    omega
  obtain ⟨names, program, rfl⟩ : ∃ names program, move = .join names program := by
    simpa using aboard
  simp only [act, join, Bridge.connect] at boards more
  obtain ⟨region, robot, simulator, -, -, -, journal, ran⟩ | ⟨cause, journal, ran⟩ :=
    attach_cases names (Wire.Layout.size Message) (worldOf s)
  · simp only [Effect.run_bind, Effect.run_adapt, ran, Except.mapError, Act.run_note,
      Effect.run_pure] at boards more
    split at boards
    next =>
      obtain ⟨-, same⟩ := List.append_inj' boards rfl
      cases same
      have fresh : program.stats = .fresh := new
      exact ⟨rfl, by rw [fresh]; exact .fresh⟩
    next other =>
      rw [if_neg other] at more
      omega
  · simp only [Effect.run_bind, Effect.run_adapt, ran, Except.mapError] at more
    omega

theorem Ledger.shift (ledger : Ledger lead exchanges crew s m) (outcome : crew.Outcome s m crew' s')
    (content : s'.content? crew.objects.region = some m') (half : m'.toRobot = m.toRobot)
    (number : m'.toSimulator.response.number = m.toSimulator.response.number)
    (robot : s'.count crew.objects.robot = s.count crew.objects.robot) (level : Level crew crew') :
    Ledger lead exchanges crew' s' m' ∧ Advance crew s m crew' s' m' := by
  obtain ⟨-, objects⟩ := outcome.manned ledger.afloat.manned
  have fewer := (outcome.balance ledger.afloat).1
  have few := ledger.few
  refine ⟨⟨outcome.afloat ledger.afloat content, by omega, ?_, level.booked, fun stayed => ?_,
    fun stayed => ?_⟩, half, objects, fewer, level.deserted, ?_, fun _ => number,
    fun stayed mode _ => level.served stayed mode⟩
  · rw [outcome.plan]
    exact ledger.planned
  · rw [objects, robot, level.given stayed]
    exact ledger.given (level.deserted stayed)
  · rw [number, level.redundant stayed, level.served stayed]
    exact ledger.answered (level.deserted stayed)
  · exact Nat.le_of_eq (congrArg UInt64.toNat number.symm)

/-- A turn that is given back is entered once in each book. -/
theorem Ledger.serve {seat : Nat} {mate : Mate} {mode : Mode} {turn : Bridge.Turn}
    (ledger : Ledger lead exchanges crew s m) (found : crew.mates[seat]? = some mate)
    (holding : mate.holding = true) (went : mate.bridge.program.serve m = (.ok mode, turn))
    {program : Bridge.Program} (recorded : program.stats = turn.program.stats.record mode .zero) :
    let crew' :=
      (crew.reseat seat (mate.served ⟨mate.bridge.endpoint.gaveTurn, program⟩ mode)).process m
    Ledger lead exchanges crew' (mate.bridge.answered m turn s) ⟨turn.output, m.toRobot⟩ ∧
      Advance crew s m crew' (mate.bridge.answered m turn s) ⟨turn.output, m.toRobot⟩ := by
  intro crew'
  have outcome : crew.Outcome s m crew' (mate.bridge.answered m turn s) :=
    .serves found holding went recorded
  obtain ⟨region, -, -⟩ := (ledger.afloat.manned.at found).ids
  have content := Bridge.content?_answered region ledger.afloat.content m turn
  have fewer := (outcome.balance ledger.afloat).1
  have few := ledger.few
  have accounts := Bridge.Program.serve_accounts went
  obtain ⟨completed, stats⟩ := ledger.booked mate (List.mem_of_getElem? found)
  have held : 0 < crew.turns s := by
    have some := held_pos found holding
    unfold turns
    omega
  have asked : crew.MayServe s m mode := ⟨accounts.asked, held⟩
  have given : crew'.given + mate.bridge.endpoint.completed =
      crew.given + (mate.bridge.endpoint.completed + 1) :=
    total_set (·.bridge.endpoint.completed) found _
  have redundant : crew'.redundant + mate.bridge.program.stats.redundantTurns =
      crew.redundant + program.stats.redundantTurns :=
    total_set (·.bridge.program.stats.redundantTurns) found _
  have same : program.stats.redundantTurns = turn.program.stats.redundantTurns := by
    rw [recorded]
    cases mode with
    | idle | applyParameters | runController | exit => rfl
  have served (other : Mode) : crew'.served other =
      crew.served other + if mode = other then 1 else 0 := by
    have moved := served_reseat found (mate.served ⟨mate.bridge.endpoint.gaveTurn, program⟩ mode)
      other
    simp only [Mate.served, List.count_append, List.count_singleton, beq_iff_eq] at moved
    change (crew.reseat seat _).served other = _
    simp only [Mate.served]
    omega
  refine ⟨⟨outcome.afloat ledger.afloat content, by omega, ledger.planned, ?_, fun stayed => ?_,
    fun stayed => ?_⟩, rfl, rfl, fewer, id, accounts.rises, fun none => ?_,
    fun _ other none => ?_⟩
  · intro other member
    obtain old | rfl := List.mem_or_eq_of_mem_set member
    · exact ledger.booked other old
    · constructor
      · change mate.bridge.endpoint.completed + 1 = (mate.modes ++ [mode]).length
        rw [completed, List.length_append, List.length_singleton]
      · change program.stats.Of (mate.modes ++ [mode])
        rw [recorded]
        exact stats.record accounts .zero
  · have before := ledger.given stayed
    have up := (ledger.afloat.serves found turn).2
    change crew'.given = exchanges + (mate.bridge.answered m turn s).count crew.objects.robot
    omega
  · have before := ledger.answered stayed
    have answers := accounts.answers
    rw [served .applyParameters]
    change crew'.redundant + turn.output.response.number.toNat = _
    omega
  · refine accounts.number went fun applying => none ?_
    exact applying ▸ asked
  · have differs : mode ≠ other := by
      rintro rfl
      exact none asked
    rw [served other, if_neg differs]
    rfl

theorem Ledger.move (ledger : Ledger lead exchanges crew s m) {move : Move} (new : move.New) :
    ∃ m', Ledger lead exchanges (crew.act s move).1 (crew.act s move).2 m' ∧
      Advance crew s m (crew.act s move).1 (crew.act s move).2 m' := by
  have room : s.count crew.objects.robot < Space.maxCount := by
    have few := ledger.few
    unfold turns at few
    unfold Space.maxCount
    omega
  have boards {b : Bridge} := act_boards crew s (b := b) new
  have outcome := act_outcome ledger.afloat.manned ledger.afloat.content room move
  generalize crew.act s move = next at boards outcome ⊢
  obtain ⟨crew', s'⟩ := next
  dsimp only at boards outcome ⊢
  have booked := ledger.booked
  have content := ledger.afloat.content
  cases outcome with
  | idles => exact ⟨m, ledger, .refl _ _ _⟩
  | complains cause =>
    exact ⟨m, ledger.shift (.complains cause) content rfl rfl rfl (.blame booked _)⟩
  | joins role objects =>
    exact ⟨m, ledger.shift (.joins role objects) content rfl rfl rfl (.join booked (boards rfl))⟩
  | leaves found =>
    exact ⟨m, ledger.shift (.leaves found) content rfl rfl rfl
      (.leave booked ledger.afloat.manned found)⟩
  | takes found holding waiting taken =>
    have kept := (ledger.afloat.takes found taken).2
    have content := (Space.content?_take taken _).trans content
    exact ⟨m, ledger.shift (.takes found holding waiting taken) content rfl rfl kept
      (.reseat booked found rfl rfl rfl rfl rfl)⟩
  | @fails seat mate e turn found holding failed =>
    obtain ⟨region, -, -⟩ := (ledger.afloat.manned.at found).ids
    have content := Bridge.content?_faulted region content m turn e
    have response := congrArg Report.response (Bridge.Program.serve_report failed)
    have stats := (Bridge.Program.serve_stays failed nofun).kept.stats
    exact ⟨_, ledger.shift (.fails found holding failed) content rfl
      (congrArg Response.number response) rfl (.reseat booked found rfl rfl rfl stats rfl)⟩
  | serves found holding went recorded =>
    exact ⟨_, ledger.serve found holding went recorded⟩

theorem Ledger.acts (ledger : Ledger lead exchanges crew s m) {moves : List Move}
    (new : ∀ move ∈ moves, move.New) :
    ∃ m', Ledger lead exchanges (acts moves crew s).1 (acts moves crew s).2 m' ∧
      Advance crew s m (acts moves crew s).1 (acts moves crew s).2 m' := by
  apply acts_keep (P := fun c t => ∃ m', Ledger lead exchanges c t m' ∧ Advance crew s m c t m')
  · exact ⟨m, ledger, .refl _ _ _⟩
  · rintro move member c t ⟨between, kept, first⟩
    obtain ⟨after, ended, second⟩ := kept.move (new move member)
    exact ⟨after, ended, first.trans second⟩

theorem Ledger.await (ledger : Ledger lead exchanges crew s m) :
    ∃ m', Ledger lead exchanges (crew.await s).1 (crew.await s).2 m' ∧
      Advance crew s m (crew.await s).1 (crew.await s).2 m' := by
  have rest (moves : List Move) (member : moves ∈ crew.plan.tail) := ledger.planned moves
    (List.mem_of_mem_tail member)
  have first := planned_headD ledger.planned
  have shorter : Ledger lead exchanges { crew with plan := crew.plan.tail } s m :=
    ⟨ledger.afloat.relabel _ crew.late, ledger.few, rest, ledger.booked, ledger.given,
      ledger.answered⟩
  obtain ⟨m', after, advance⟩ := shorter.acts first
  unfold Crew.await
  generalize Crew.acts _ _ _ = acted at after advance ⊢
  obtain ⟨later, t⟩ := acted
  exact ⟨m', ⟨after.afloat.relabel later.plan _, after.few, after.planned, after.booked,
    after.given, after.answered⟩, advance.half, advance.objects, advance.fewer, advance.deserted,
    advance.rises, advance.number, advance.served⟩

-- What the simulator does. Only taking a turn back is in its own book.

theorem Ledger.write (ledger : Ledger lead exchanges crew s m) (half : ToRobot) :
    Ledger lead exchanges crew (s.setContent crew.objects.region ⟨m.toSimulator, half⟩)
      ⟨m.toSimulator, half⟩ :=
  ⟨ledger.afloat.write _, ledger.few, ledger.planned, ledger.booked, ledger.given, ledger.answered⟩

theorem Ledger.pass (ledger : Ledger 1 exchanges crew s m) :
    Ledger 0 exchanges crew (s.post crew.objects.simulator) m := by
  obtain ⟨afloat, more, robot⟩ := ledger.afloat.pass
  have few := ledger.few
  refine ⟨afloat, by omega, ledger.planned, ledger.booked, fun stayed => ?_, ledger.answered⟩
  rw [robot]
  exact ledger.given stayed

theorem Ledger.gain (ledger : Ledger 0 exchanges crew s m)
    (taken : s.take? crew.objects.robot = some s') : Ledger 1 (exchanges + 1) crew s' m := by
  obtain ⟨afloat, less⟩ := ledger.afloat.gain taken
  have few := ledger.few
  refine ⟨afloat, by omega, ledger.planned, ledger.booked, fun stayed => ?_, ledger.answered⟩
  have before := ledger.given stayed
  have down := Space.count_take_self taken
  omega

/-- While the simulator has the turn nobody can serve one. -/
theorem Ledger.alone (ledger : Ledger 1 exchanges crew s m) : crew.turns s = 0 := by
  have few := ledger.few
  omega

theorem Ledger.even (ledger : Ledger 1 exchanges crew s m) (stayed : crew.deserted = false) :
    crew.given = exchanges := by
  have given := ledger.given stayed
  have none := ledger.alone
  unfold turns at none
  omega

end Crew

end Lockstep
