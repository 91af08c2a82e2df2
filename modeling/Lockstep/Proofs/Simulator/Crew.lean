import Lockstep.Proofs.Bridge.Step
import Lockstep.Proofs.Channel.Party

/-! Robot programs as the peers of one simulator.

They attach, take turns, serve them and leave in any order. What they do during
a wait of the simulator is planned in advance, so a plan is an interleaving. A
robot that attaches to other objects is not of the crew.
-/

set_option autoImplicit false

namespace Lockstep

open Channel

structure Mate where
  bridge : Bridge
  -- It has got the turn and not served it yet.
  holding : Bool
  taken : Nat
  -- Modes of the turns that it gave back.
  modes : List Mode
  deriving DecidableEq

namespace Mate

def after (mate : Mate) (e : Endpoint) : Mate :=
  ⟨{ mate.bridge with endpoint := e }, true, mate.taken + 1, mate.modes⟩

def fallen (mate : Mate) (b : Bridge) : Mate := ⟨b, false, mate.taken, mate.modes⟩

def served (mate : Mate) (b : Bridge) (mode : Mode) : Mate :=
  ⟨b, false, mate.taken, mate.modes ++ [mode]⟩

end Mate

inductive Crew.Move where
  | join (names : Names) (program : Bridge.Program)
  -- Get the turn, if it is there to be had.
  | take (seat : Nat)
  -- Serve the turn and give it back, if all goes well.
  | serve (seat : Nat)
  | leave (seat : Nat)
  deriving DecidableEq

/-- Those on a channel, what they have yet to do, and what came of it so far. -/
structure Crew where
  objects : Objects
  mates : List Mate
  -- What happens during each of the simulator's next waits.
  plan : List (List Crew.Move)
  raised : List Bridge.Error
  -- Numbers of the requests that a robot has set about.
  processed : List UInt64
  deserted : Bool
  -- The turn stayed away for a whole wait, though somebody who had had it was there.
  late : Bool

namespace Crew

def start (objects : Objects) (plan : List (List Move)) : Crew :=
  ⟨objects, [], plan, [], [], false, false⟩

def worldOf (s : Space Message) : World Message Unit := ⟨s, (), #[]⟩

def blame (crew : Crew) (e : Bridge.Error) : Crew := { crew with raised := crew.raised ++ [e] }

def reseat (crew : Crew) (seat : Nat) (mate : Mate) : Crew :=
  { crew with mates := crew.mates.set seat mate }

/-- A message that asks for an answer that was not given yet. -/
def due (m : Message) : Bool :=
  m.mode? = some .applyParameters && m.toSimulator.response.number < m.toRobot.request.number

def process (crew : Crew) (m : Message) : Crew :=
  { crew with
    processed := if due m then crew.processed ++ [m.toRobot.request.number] else crew.processed }

def take (crew : Crew) (seat : Nat) (mate : Mate) (s : Space Message) : Crew × Space Message :=
  if mate.holding then (crew, s)
  else match mate.bridge.endpoint.awaitForever.run (worldOf s) with
    | (.ok e, w) => (crew.reseat seat (mate.after e), w.space)
    | (.error (.wouldBlock _), _) => (crew, s)
    | (.error cause, _) => (crew.blame (.channel cause), s)

def serve (crew : Crew) (seat : Nat) (mate : Mate) (s : Space Message) : Crew × Space Message :=
  if !mate.holding then (crew, s)
  else match mate.bridge.endpoint.snapshot s with
    | .error cause => ((crew.reseat seat (mate.fallen mate.bridge)).blame (.channel cause), s)
    | .ok m => match mate.bridge.serve m (worldOf s) with
      | ((.ok mode, b), w) => ((crew.reseat seat (mate.served b mode)).process m, w.space)
      | ((.error e, b), w) => (((crew.reseat seat (mate.fallen b)).process m).blame e, w.space)

def join (crew : Crew) (names : Names) (program : Bridge.Program) (s : Space Message) : Crew :=
  match (Bridge.connect names program).run (worldOf s) with
  | (.ok b, _) =>
    if b.endpoint.objects = crew.objects then
      { crew with mates := crew.mates ++ [⟨b, false, 0, []⟩] }
    else crew
  | (.error _, _) => crew

/-- Leaving is no desertion for one that never had the turn. -/
def leave (crew : Crew) (seat : Nat) (mate : Mate) : Crew :=
  { crew with
    mates := crew.mates.eraseIdx seat
    deserted := crew.deserted || 0 < mate.taken }

def act (crew : Crew) (s : Space Message) : Move → Crew × Space Message
  | .join names program => (crew.join names program s, s)
  | .take seat => match crew.mates[seat]? with
    | some mate => crew.take seat mate s
    | none => (crew, s)
  | .serve seat => match crew.mates[seat]? with
    | some mate => crew.serve seat mate s
    | none => (crew, s)
  | .leave seat => match crew.mates[seat]? with
    | some mate => (crew.leave seat mate, s)
    | none => (crew, s)

def acts : List Move → Crew → Space Message → Crew × Space Message
  | [], crew, s => (crew, s)
  | move :: rest, crew, s => acts rest (crew.act s move).1 (crew.act s move).2

/-- What every move keeps holds however many are made. -/
theorem acts_keep {P : Crew → Space Message → Prop} {moves : List Move} {crew : Crew}
    {s : Space Message} (start : P crew s)
    (step : ∀ move ∈ moves, ∀ c t, P c t → P (c.act t move).1 (c.act t move).2) :
    P (acts moves crew s).1 (acts moves crew s).2 := by
  induction moves generalizing crew s with
  | nil => exact start
  | cons move rest ih =>
    exact ih (step move List.mem_cons_self _ _ start) fun later member =>
      step later (List.mem_cons_of_mem _ member)

theorem planned_headD {P : Move → Prop} {plan : List (List Move)}
    (planned : ∀ moves ∈ plan, ∀ move ∈ moves, P move) : ∀ move ∈ plan.headD [], P move := by
  cases plan with
  | nil => exact fun move none => absurd none List.not_mem_nil
  | cons moves rest => exact planned moves List.mem_cons_self

/-- Somebody has had the turn before. -/
def versed (crew : Crew) : Bool := crew.mates.any (0 < ·.taken)

def await (crew : Crew) (s : Space Message) : Crew × Space Message :=
  let (after, t) := acts (crew.plan.headD []) { crew with plan := crew.plan.tail } s
  ({ after with late := after.late || (crew.versed && t.count crew.objects.robot = 0) }, t)

instance : Peer Message Crew := ⟨await⟩

def held (crew : Crew) : Nat := total (·.holding.toNat) crew.mates

def served (crew : Crew) (mode : Mode) : Nat := total (·.modes.count mode) crew.mates

/-- A robot that takes a turn and serves it at once has gone one step of its program. -/
theorem acts_step {crew : Crew} {s : Space Message} {seat : Nat} {mate : Mate}
    (found : crew.mates[seat]? = some mate) (free : mate.holding = false) {mode : Mode}
    {b : Bridge} {w : World Message Unit}
    (went : mate.bridge.step (worldOf s) = ((.ok mode, b), w)) :
    (acts [.take seat, .serve seat] crew s).2 = w.space ∧
      (acts [.take seat, .serve seat] crew s).1.mates =
        crew.mates.set seat ⟨b, false, mate.taken + 1, mate.modes ++ [mode]⟩ := by
  unfold Bridge.step at went
  rcases took : mate.bridge.endpoint.awaitForever.run (worldOf s) with ⟨e | e, t, peer, journal⟩
  · rw [took] at went
    cases went
  rw [took] at went
  rcases read : e.snapshot t with cause | m
  · simp only [read] at went
    cases went
  simp only [read] at went
  obtain ⟨same, space⟩ := Bridge.serve_noted { mate.bridge with endpoint := e } m t peer journal #[]
  rw [went] at same space
  have taken : crew.act s (.take seat) = (crew.reseat seat (mate.after e), t) := by
    simp only [act, found, take, free, took]
    rfl
  have seated : (crew.reseat seat (mate.after e)).mates[seat]? = some (mate.after e) :=
    List.getElem?_set_self (List.getElem?_eq_some_iff.mp found).1
  rcases served : Bridge.serve { mate.bridge with endpoint := e } m (worldOf t) with ⟨⟨r, b'⟩, w'⟩
  change _ = (Bridge.serve _ m (worldOf t)).1 at same
  change _ = (Bridge.serve _ m (worldOf t)).2.space at space
  rw [served] at same space
  cases same
  have given : (crew.reseat seat (mate.after e)).act t (.serve seat) =
      (((crew.reseat seat (mate.after e)).reseat seat ((mate.after e).served b mode)).process m,
        w'.space) := by
    simp only [act, seated, serve]
    simp only [Mate.after, Bool.not_true, Bool.false_eq_true, if_false, read, served]
  simp only [acts, taken, given]
  exact ⟨space.symm, List.set_set ..⟩

/-- What a move can come to, with a message in the region. -/
inductive Outcome (crew : Crew) (s : Space Message) (m : Message) :
    Crew → Space Message → Prop where
  | idles : Outcome crew s m crew s
  | joins {b : Bridge} : b.endpoint.role = .robot → b.endpoint.objects = crew.objects →
      Outcome crew s m { crew with mates := crew.mates ++ [⟨b, false, 0, []⟩] } s
  | leaves {seat : Nat} {mate : Mate} : crew.mates[seat]? = some mate →
      Outcome crew s m (crew.leave seat mate) s
  | complains (cause : Channel.Error) : Outcome crew s m (crew.blame (.channel cause)) s
  | takes {seat : Nat} {mate : Mate} {t : Space Message} : crew.mates[seat]? = some mate →
      mate.holding = false → mate.bridge.endpoint.phase = .waiting →
      s.take? mate.bridge.endpoint.other.id = some t →
      Outcome crew s m (crew.reseat seat (mate.after mate.bridge.endpoint.tookTurn)) t
  | fails {seat : Nat} {mate : Mate} {e : Bridge.Error} {turn : Bridge.Turn} :
      crew.mates[seat]? = some mate → mate.holding = true →
      mate.bridge.program.serve m = (.error e, turn) →
      Outcome crew s m
        (((crew.reseat seat (mate.fallen { mate.bridge with program := turn.program })).process
          m).blame e)
        (mate.bridge.faulted m turn e s)
  | serves {seat : Nat} {mate : Mate} {mode : Mode} {turn : Bridge.Turn}
      {program : Bridge.Program} : crew.mates[seat]? = some mate → mate.holding = true →
      mate.bridge.program.serve m = (.ok mode, turn) →
      program.stats = turn.program.stats.record mode .zero →
      Outcome crew s m
        ((crew.reseat seat (mate.served ⟨mate.bridge.endpoint.gaveTurn, program⟩ mode)).process m)
        (mate.bridge.answered m turn s)

/-- What holds of everybody on a channel. -/
structure Aboard (objects : Objects) (mate : Mate) : Prop where
  role : mate.bridge.endpoint.role = .robot
  objects : mate.bridge.endpoint.objects = objects
  turn : mate.holding = true → mate.bridge.endpoint.phase = .active
  had : mate.holding = true ∨ mate.modes ≠ [] → 0 < mate.taken

def Manned (crew : Crew) : Prop := ∀ mate ∈ crew.mates, Aboard crew.objects mate

theorem Aboard.ids {objects : Objects} {mate : Mate} (aboard : Aboard objects mate) :
    mate.bridge.endpoint.region.id = objects.region ∧
      mate.bridge.endpoint.own.id = objects.robot ∧
      mate.bridge.endpoint.other.id = objects.simulator :=
  Endpoint.ids_robot aboard.role aboard.objects

section

variable {crew : Crew} {s : Space Message} {m : Message} {seat : Nat} {mate : Mate}

theorem join_outcome (names : Names) (program : Bridge.Program) :
    crew.Outcome s m (crew.join names program s) s := by
  unfold join Bridge.connect
  obtain ⟨region, robot, simulator, -, -, -, journal, ran⟩ | ⟨cause, journal, ran⟩ :=
    attach_cases names (Wire.Layout.size Message) (worldOf s)
  · simp only [Effect.run_bind, Effect.run_adapt, ran, Except.mapError, Act.run_note,
      Effect.run_pure]
    split
    next same => exact .joins rfl same
    next => exact .idles
  · simp only [Effect.run_bind, Effect.run_adapt, ran, Except.mapError]
    exact .idles

theorem take_outcome (found : crew.mates[seat]? = some mate) :
    crew.Outcome s m (crew.take seat mate s).1 (crew.take seat mate s).2 := by
  unfold take
  cases holding : mate.holding with
  | true => exact .idles
  | false =>
    by_cases waiting : mate.bridge.endpoint.phase = .waiting
    · rw [if_neg (by decide), Endpoint.run_awaitForever_of_waiting _ _ waiting, World.await_alone]
      cases taken : s.take? mate.bridge.endpoint.other.id with
      | none =>
        simp only [worldOf, taken]
        exact .idles
      | some t =>
        simp only [worldOf, taken, World.setSpace]
        exact .takes found holding waiting taken
    · rw [if_neg (by decide), Endpoint.run_awaitForever_of_active _ _ waiting]
      exact .complains _

theorem serve_outcome (manned : crew.Manned) (content : s.content? crew.objects.region = some m)
    (room : s.count crew.objects.robot < Space.maxCount)
    (found : crew.mates[seat]? = some mate) :
    crew.Outcome s m (crew.serve seat mate s).1 (crew.serve seat mate s).2 := by
  have aboard := manned mate (List.mem_of_getElem? found)
  obtain ⟨region, own, -⟩ := aboard.ids
  unfold serve
  cases holding : mate.holding with
  | false => exact .idles
  | true =>
    have active := aboard.turn holding
    have read : mate.bridge.endpoint.snapshot s = .ok m := by
      rw [Endpoint.snapshot, region, content]
    simp only [Bool.not_true, Bool.false_eq_true, if_false, read]
    rcases served : mate.bridge.program.serve m with ⟨e | mode, turn⟩
    · obtain ⟨journal, ran⟩ := Bridge.serve_of_error served (worldOf s)
      rw [ran]
      exact .fails found holding served
    · rw [← own] at room
      obtain ⟨journal, ran⟩ := Bridge.serve_of_ok served active (w := worldOf s) room
      rw [ran]
      exact .serves found holding served rfl

theorem act_outcome (manned : crew.Manned) (content : s.content? crew.objects.region = some m)
    (room : s.count crew.objects.robot < Space.maxCount) (move : Move) :
    crew.Outcome s m (crew.act s move).1 (crew.act s move).2 := by
  cases move with
  | join names program => exact join_outcome names program
  | take seat =>
    simp only [act]
    cases found : crew.mates[seat]? with
    | none => exact .idles
    | some mate => exact take_outcome found
  | serve seat =>
    simp only [act]
    cases found : crew.mates[seat]? with
    | none => exact .idles
    | some mate => exact serve_outcome manned content room found
  | leave seat =>
    simp only [act]
    cases found : crew.mates[seat]? with
    | none => exact .idles
    | some mate => exact .leaves found

end

end Crew

end Lockstep
