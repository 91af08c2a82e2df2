import Lockstep.Proofs.Simulator.Turns

/-! One robot alone on a channel, and where the turn is between it and its simulator.

What a robot makes of a turn hangs on its program and on the message that was
handed over, so moves take the turn from stage to stage in one way only.
-/

set_option autoImplicit false

namespace Lockstep.Crew

open Channel Bridge

def Move.Solo : Move → Prop
  | .take _ | .serve _ => True
  | .join _ _ | .leave _ => False

inductive Stage where
  -- The simulator has the turn.
  | home
  -- It was handed over, and nobody took it yet.
  | lies
  | held
  -- It was given back, and the simulator did not take it yet.
  | back (mode : Mode) (turn : Turn)
  | failed (e : Bridge.Error) (turn : Turn)

namespace Stage

def served : Except Bridge.Error Mode × Turn → Stage
  | (.ok mode, turn) => .back mode turn
  | (.error e, turn) => .failed e turn

/-- What a move makes of a turn, with the program that has it and the message. -/
def next (p : Program) (m : Message) : Stage → Move → Stage
  | .lies, .take 0 => .held
  | .held, .serve 0 => served (p.serve m)
  | stage, _ => stage

def program (p : Program) : Stage → Program
  | .back mode turn => { turn.program with stats := turn.program.stats.record mode .zero }
  | .failed _ turn => turn.program
  | .home | .lies | .held => p

def message (m : Message) : Stage → Message
  | .back _ turn => ⟨turn.output, m.toRobot⟩
  | .failed e turn => ⟨turn.output.publishFault e.message, m.toRobot⟩
  | .home | .lies | .held => m

def phase : Stage → Phase
  | .held | .failed _ _ => .active
  | .home | .lies | .back _ _ => .waiting

def holding : Stage → Bool
  | .held => true
  | .home | .lies | .back _ _ | .failed _ _ => false

def lying : Stage → Nat
  | .lies => 1
  | .home | .held | .back _ _ | .failed _ _ => 0

def returned : Stage → Nat
  | .back _ _ => 1
  | .home | .lies | .held | .failed _ _ => 0

def simulator : Stage → Phase
  | .home => .active
  | .lies | .held | .back _ _ | .failed _ _ => .waiting

/-- Neither with the simulator nor on its way there. -/
def Away : Stage → Prop
  | .lies | .held | .failed _ _ => True
  | .home | .back _ _ => False

/-- A turn that was served went as the program serves the message. -/
def Sound (p : Program) (m : Message) : Stage → Prop
  | .back mode turn => p.serve m = (.ok mode, turn)
  | .failed e turn => p.serve m = (.error e, turn)
  | .home | .lies | .held => True

variable {p : Program} {m : Message} {stage : Stage}

theorem lying_le : stage.lying ≤ 1 := by
  cases stage with
  | lies => exact Nat.le_refl 1
  | home | held | back | failed => exact Nat.zero_le 1

theorem returned_le : stage.returned ≤ 1 := by
  cases stage with
  | back => exact Nat.le_refl 1
  | home | lies | held | failed => exact Nat.zero_le 1

theorem Away.waiting (away : stage.Away) : stage.simulator = .waiting ∧ stage.returned = 0 := by
  cases stage with
  | home => exact away.elim
  | back => exact away.elim
  | lies | held | failed => exact ⟨rfl, rfl⟩

theorem Away.next (away : stage.Away) (move : Move) :
    (stage.next p m move).Away ∨ ∃ mode turn, stage.next p m move = .back mode turn := by
  unfold Stage.next
  split
  · exact .inl trivial
  · rcases p.serve m with ⟨e | mode, turn⟩
    · exact .inl trivial
    · exact .inr ⟨mode, turn, rfl⟩
  · exact .inl away

theorem foldl_next_back (mode : Mode) (turn : Turn) (moves : List Move) :
    moves.foldl (next p m) (.back mode turn) = .back mode turn := by
  induction moves with
  | nil => rfl
  | cons move rest ih => exact ih

theorem foldl_next_failed (e : Bridge.Error) (turn : Turn) (moves : List Move) :
    moves.foldl (next p m) (.failed e turn) = .failed e turn := by
  induction moves with
  | nil => rfl
  | cons move rest ih => exact ih

theorem foldl_next_served (ended : Except Bridge.Error Mode × Turn) (moves : List Move) :
    moves.foldl (next p m) (served ended) = served ended := by
  obtain ⟨e | mode, turn⟩ := ended
  · exact foldl_next_failed e turn moves
  · exact foldl_next_back mode turn moves

/-- A turn that lies there is served if the robot takes it and then serves it,
whatever else it tries. -/
theorem foldl_next_prompt {moves : List Move} (prompt : [.take 0, .serve 0].Sublist moves) :
    moves.foldl (next p m) .lies = served (p.serve m) := by
  have held {moves : List Move} (inside : .serve 0 ∈ moves) :
      moves.foldl (next p m) .held = served (p.serve m) := by
    induction moves with
    | nil => cases inside
    | cons move rest ih =>
      by_cases now : move = .serve 0
      · rw [now]
        exact foldl_next_served (p.serve m) rest
      · have stays : next p m .held move = .held := by
          unfold next
          split
          · contradiction
          · contradiction
          · rfl
        rw [List.foldl_cons, stays]
        exact ih (List.mem_of_ne_of_mem (Ne.symm now) inside)
  induction moves with
  | nil => cases prompt
  | cons move rest ih =>
    by_cases now : move = .take 0
    · rw [now] at prompt ⊢
      exact held (List.singleton_sublist.mp (List.cons_sublist_cons.mp prompt))
    · have stays : next p m .lies move = .lies := by
        unfold next
        split
        · contradiction
        · contradiction
        · rfl
      rw [List.foldl_cons, stays]
      exact ih (prompt.of_cons_of_ne (Ne.symm now))

theorem foldl_next_home (moves : List Move) : moves.foldl (next p m) .home = .home := by
  induction moves with
  | nil => rfl
  | cons move rest ih => exact ih

theorem Away.foldl (away : stage.Away) (moves : List Move) :
    (moves.foldl (Stage.next p m) stage).Away ∨
      ∃ mode turn, moves.foldl (Stage.next p m) stage = .back mode turn := by
  induction moves generalizing stage with
  | nil => exact .inl away
  | cons move rest ih =>
    obtain still | ⟨mode, turn, back⟩ := away.next (p := p) (m := m) move
    · exact ih still
    · right
      rw [List.foldl_cons, back]
      exact ⟨mode, turn, foldl_next_back mode turn rest⟩

end Stage

/-- The robot of a pair at some stage of a turn. -/
structure Stands (p : Program) (stage : Stage) (mate : Mate) : Prop where
  phase : mate.bridge.endpoint.phase = stage.phase
  program : mate.bridge.program = stage.program p
  holding : mate.holding = stage.holding

/-- A robot alone with a simulator, a turn on a message at some stage, and the objects then. -/
structure Paired (p : Program) (m : Message) (stage : Stage) (crew : Crew)
    (s : Space Message) : Prop where
  afloat : crew.Afloat s (stage.message m)
  mate : ∃ mate, crew.mates = [mate] ∧ Stands p stage mate
  sound : stage.Sound p m
  lying : s.count crew.objects.simulator = stage.lying
  returned : s.count crew.objects.robot = stage.returned

section

variable {crew : Crew} {s : Space Message} {p : Program} {m : Message} {stage : Stage}
  {mate : Mate}

theorem take_of_holding (holding : mate.holding = true) (seat : Nat) :
    crew.take seat mate s = (crew, s) := by
  simp [take, holding]

theorem take_of_waiting (free : mate.holding = false)
    (waiting : mate.bridge.endpoint.phase = .waiting) (seat : Nat) :
    crew.take seat mate s = match s.take? mate.bridge.endpoint.other.id with
      | some t => (crew.reseat seat (mate.after mate.bridge.endpoint.tookTurn), t)
      | none => (crew, s) := by
  unfold take
  rw [free, if_neg (by decide), Endpoint.run_awaitForever_of_waiting _ _ waiting,
    World.await_alone]
  cases taken : s.take? mate.bridge.endpoint.other.id with
  | none => simp only [worldOf, taken]
  | some t => simp only [worldOf, taken, World.setSpace]

theorem take_of_active (free : mate.holding = false)
    (active : mate.bridge.endpoint.phase = .active) (seat : Nat) :
    ∃ cause, crew.take seat mate s = (crew.blame (.channel cause), s) := by
  have busy : mate.bridge.endpoint.phase ≠ .waiting := by
    rw [active]
    decide
  unfold take
  rw [free, if_neg (by decide), Endpoint.run_awaitForever_of_active _ _ busy]
  exact ⟨_, rfl⟩

theorem Paired.take (paired : Paired p m stage crew s) (only : crew.mates = [mate])
    (stands : Stands p stage mate) :
    Paired p m (stage.next p m (.take 0)) (crew.take 0 mate s).1 (crew.take 0 mate s).2 := by
  have found : crew.mates[0]? = some mate := by simp [only]
  obtain ⟨-, -, other⟩ := (paired.afloat.manned.at found).ids
  have lying := paired.lying
  cases stage with
  | held =>
    rw [take_of_holding stands.holding]
    exact paired
  | failed e turn =>
    change Paired p m (.failed e turn) _ _
    obtain ⟨cause, ran⟩ := crew.take_of_active (s := s) stands.holding stands.phase 0
    rw [ran]
    have afloat := Outcome.afloat (.complains cause) paired.afloat paired.afloat.content
    exact ⟨afloat, ⟨mate, only, stands⟩, paired.sound, lying, paired.returned⟩
  | lies =>
    change Paired p m .held _ _
    have positive : 0 < s.count mate.bridge.endpoint.other.id := by
      rw [other, lying]
      decide
    rcases taken : s.take? mate.bridge.endpoint.other.id with _ | t
    · rw [Space.take?_of_pos s positive] at taken
      cases taken
    rw [take_of_waiting stands.holding stands.phase, taken]
    obtain ⟨down, kept⟩ := paired.afloat.takes found taken
    constructor
    case afloat =>
      exact Outcome.afloat (.takes found stands.holding stands.phase taken) paired.afloat
        ((Space.content?_take taken _).trans paired.afloat.content)
    case mate =>
      refine ⟨mate.after mate.bridge.endpoint.tookTurn, ?_, rfl, stands.program, rfl⟩
      simp [reseat, only]
    case sound => trivial
    case lying =>
      rw [lying] at down
      exact (Nat.succ.inj down).symm
    case returned => exact kept.trans paired.returned
  | home | back =>
    have none : s.take? mate.bridge.endpoint.other.id = none :=
      (Space.take?_eq_none_iff s _).mpr (other ▸ lying)
    rw [take_of_waiting stands.holding stands.phase, none]
    exact paired

theorem serve_of_free (free : mate.holding = false) (seat : Nat) :
    crew.serve seat mate s = (crew, s) := by
  simp [serve, free]

theorem Paired.fall (paired : Paired p m .held crew s) (only : crew.mates = [mate])
    (stands : Stands p .held mate) {e : Bridge.Error} {turn : Turn}
    (failed : p.serve m = (.error e, turn)) :
    Paired p m (.failed e turn)
      (((crew.reseat 0 (mate.fallen { mate.bridge with program := turn.program })).process m).blame e)
      (mate.bridge.faulted m turn e s) := by
  have found : crew.mates[0]? = some mate := by simp [only]
  obtain ⟨region, -, -⟩ := (paired.afloat.manned.at found).ids
  have program : mate.bridge.program = p := stands.program
  constructor
  case afloat =>
    exact Outcome.afloat (.fails found stands.holding (program.symm ▸ failed)) paired.afloat
      (Bridge.content?_faulted region paired.afloat.content m turn e)
  case mate =>
    refine ⟨mate.fallen { mate.bridge with program := turn.program }, ?_, stands.phase, rfl, rfl⟩
    simp [reseat, process, blame, only]
  case sound => exact failed
  case lying => exact paired.lying
  case returned => exact paired.returned

theorem Paired.answer (paired : Paired p m .held crew s) (only : crew.mates = [mate])
    (stands : Stands p .held mate) {mode : Mode} {turn : Turn}
    (served : p.serve m = (.ok mode, turn)) :
    Paired p m (.back mode turn)
      ((crew.reseat 0 (mate.served ⟨mate.bridge.endpoint.gaveTurn,
        { turn.program with stats := turn.program.stats.record mode .zero }⟩ mode)).process m)
      (mate.bridge.answered m turn s) := by
  have found : crew.mates[0]? = some mate := by simp [only]
  obtain ⟨region, -, -⟩ := (paired.afloat.manned.at found).ids
  have program : mate.bridge.program = p := stands.program
  obtain ⟨kept, up⟩ := paired.afloat.serves found turn
  constructor
  case afloat =>
    exact Outcome.afloat (.serves found stands.holding (program.symm ▸ served) rfl) paired.afloat
      (Bridge.content?_answered region paired.afloat.content m turn)
  case mate =>
    refine ⟨mate.served ⟨mate.bridge.endpoint.gaveTurn,
      { turn.program with stats := turn.program.stats.record mode .zero }⟩ mode, ?_, rfl, rfl, rfl⟩
    simp [reseat, process, only]
  case sound => exact served
  case lying => exact kept.trans paired.lying
  case returned => exact up.trans (congrArg (· + 1) paired.returned)

theorem Paired.run_serve (paired : Paired p m .held crew s) (only : crew.mates = [mate])
    (stands : Stands p .held mate) : crew.serve 0 mate s = match p.serve m with
      | (.error e, turn) =>
        (((crew.reseat 0 (mate.fallen { mate.bridge with program := turn.program })).process
            m).blame e,
          mate.bridge.faulted m turn e s)
      | (.ok mode, turn) =>
        ((crew.reseat 0 (mate.served ⟨mate.bridge.endpoint.gaveTurn,
            { turn.program with stats := turn.program.stats.record mode .zero }⟩ mode)).process m,
          mate.bridge.answered m turn s) := by
  have found : crew.mates[0]? = some mate := by simp [only]
  obtain ⟨region, own, -⟩ := (paired.afloat.manned.at found).ids
  have holding : mate.holding = true := stands.holding
  have read : mate.bridge.endpoint.snapshot s = .ok m := by
    rw [Endpoint.snapshot, region, paired.afloat.content]
    rfl
  have program : mate.bridge.program = p := stands.program
  unfold Crew.serve
  simp only [holding, Bool.not_true, Bool.false_eq_true, if_false, read]
  rcases served : p.serve m with ⟨e | mode, turn⟩
  · obtain ⟨journal, ran⟩ := Bridge.serve_of_error (program.symm ▸ served) (worldOf s)
    rw [ran]
    rfl
  · have room : (worldOf s).space.count mate.bridge.endpoint.own.id < Space.maxCount := by
      change s.count mate.bridge.endpoint.own.id < _
      rw [own, paired.returned]
      decide
    obtain ⟨journal, ran⟩ := Bridge.serve_of_ok (program.symm ▸ served) stands.phase room
    rw [ran]
    rfl

theorem Paired.serve (paired : Paired p m stage crew s) (only : crew.mates = [mate])
    (stands : Stands p stage mate) :
    Paired p m (stage.next p m (.serve 0)) (crew.serve 0 mate s).1 (crew.serve 0 mate s).2 := by
  cases stage with
  | home | lies | back | failed =>
    rw [serve_of_free stands.holding]
    exact paired
  | held =>
    change Paired p m (.served (p.serve m)) _ _
    rw [paired.run_serve only stands]
    rcases served : p.serve m with ⟨e | mode, turn⟩
    · exact paired.fall only stands served
    · exact paired.answer only stands served

theorem Paired.room (paired : Paired p m stage crew s) :
    s.count crew.objects.robot < Space.maxCount := by
  rw [paired.returned]
  exact Nat.lt_of_le_of_lt Stage.returned_le (by decide)

theorem Paired.act (paired : Paired p m stage crew s) {move : Move} (solo : move.Solo) :
    Paired p m (stage.next p m move) (crew.act s move).1 (crew.act s move).2 := by
  obtain ⟨mate, only, stands⟩ := paired.mate
  -- There is nobody on any seat but the first.
  have nobody (seat : Nat) : crew.mates[seat + 1]? = none := by simp [only]
  have somebody : crew.mates[0]? = some mate := by simp [only]
  cases move with
  | join => exact solo.elim
  | leave => exact solo.elim
  | take seat =>
    cases seat with
    | zero =>
      simp only [Crew.act, somebody]
      exact paired.take only stands
    | succ seat =>
      simp only [Crew.act, nobody]
      cases stage <;> exact paired
  | serve seat =>
    cases seat with
    | zero =>
      simp only [Crew.act, somebody]
      exact paired.serve only stands
    | succ seat =>
      simp only [Crew.act, nobody]
      cases stage <;> exact paired

theorem Paired.acts (paired : Paired p m stage crew s) {moves : List Move}
    (solo : ∀ move ∈ moves, move.Solo) :
    Paired p m (moves.foldl (Stage.next p m) stage) (acts moves crew s).1 (acts moves crew s).2 := by
  induction moves generalizing stage crew s with
  | nil => exact paired
  | cons move rest ih =>
    exact ih (paired.act (solo move List.mem_cons_self)) fun move member =>
      solo move (List.mem_cons_of_mem _ member)

theorem Paired.acts_keeps (paired : Paired p m stage crew s) {moves : List Move}
    (solo : ∀ move ∈ moves, move.Solo) :
    (Crew.acts moves crew s).1.objects = crew.objects ∧
      (Crew.acts moves crew s).1.plan = crew.plan := by
  induction moves generalizing stage crew s with
  | nil => exact ⟨rfl, rfl⟩
  | cons move rest ih =>
    have outcome := act_outcome paired.afloat.manned paired.afloat.content paired.room move
    have acted := paired.act (solo move List.mem_cons_self)
    obtain ⟨objects, plan⟩ := ih acted fun move member => solo move (List.mem_cons_of_mem _ member)
    exact ⟨objects.trans (outcome.manned paired.afloat.manned).2, plan.trans outcome.plan⟩

theorem Paired.relabel (paired : Paired p m stage crew s) (plan : List (List Move))
    (late : Bool) : Paired p m stage { crew with plan := plan, late := late } s :=
  ⟨paired.afloat.relabel plan late, paired.mate, paired.sound, paired.lying, paired.returned⟩

/-- One wait goes through what is planned for it. -/
theorem Paired.await (paired : Paired p m stage crew s)
    (solo : ∀ moves ∈ crew.plan, ∀ move ∈ moves, move.Solo) :
    Paired p m ((crew.plan.headD []).foldl (Stage.next p m) stage) (crew.await s).1
        (crew.await s).2 ∧
      (crew.await s).1.objects = crew.objects ∧ (crew.await s).1.plan = crew.plan.tail := by
  have planned := planned_headD solo
  have begun := paired.relabel crew.plan.tail crew.late
  obtain ⟨objects, plan⟩ := begun.acts_keeps planned
  exact ⟨(begun.acts planned).relabel _ _, objects, plan⟩

theorem Paired.returns {mode : Mode} {turn : Turn} {t : Space Message}
    (paired : Paired p m (.back mode turn) crew s)
    (taken : s.take? crew.objects.robot = some t) :
    Paired (Stage.back mode turn |>.program p) ⟨turn.output, m.toRobot⟩ .home crew t := by
  obtain ⟨mate, only, stands⟩ := paired.mate
  have down := Space.count_take_self taken
  constructor
  case afloat => exact (paired.afloat.gain taken).1
  case mate => exact ⟨mate, only, stands.phase, stands.program, stands.holding⟩
  case sound => trivial
  case lying => exact (Space.count_take_other taken paired.afloat.apart.symm).trans paired.lying
  case returned =>
    rw [paired.returned] at down
    exact (Nat.succ.inj down).symm

theorem Paired.write (paired : Paired p m .home crew s) (m' : Message) :
    Paired p m' .home crew (s.setContent crew.objects.region m') := by
  obtain ⟨mate, only, stands⟩ := paired.mate
  exact ⟨paired.afloat.write m', ⟨mate, only, stands.phase, stands.program, stands.holding⟩, trivial,
    paired.lying, paired.returned⟩

theorem Paired.hand (paired : Paired p m .home crew s) (m' : Message) :
    Paired p m' .lies crew ((s.setContent crew.objects.region m').post crew.objects.simulator) := by
  obtain ⟨mate, only, stands⟩ := paired.mate
  constructor
  case afloat => exact (paired.afloat.hand m').1
  case mate => exact ⟨mate, only, stands.phase, stands.program, stands.holding⟩
  case sound => trivial
  case lying =>
    exact (Space.count_post_self _ paired.afloat.simulatorExists).trans
      (congrArg (· + 1) paired.lying)
  case returned => exact (Space.count_post_other _ paired.afloat.apart).trans paired.returned

end

end Lockstep.Crew
