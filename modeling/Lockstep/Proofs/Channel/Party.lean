import Lockstep.Proofs.Channel.Closing
import Lockstep.Proofs.Channel.Turn
import Lockstep.Proofs.Total

/-! Everybody on one channel, in any order.

One creator and any number of robots share a region and two semaphores. They are
asked to do things one at a time, in whatever phase they happen to be, and may
come late or leave at any moment. A wait stands for the moment in which it ends.
-/

set_option autoImplicit false

namespace Lockstep.Channel

open Effect

inductive Call (α : Type) where
  | read
  | update (change : α → α)
  | finish
  | tryTake
  | await
  | awaitForever

inductive Reply (α : Type) where
  | content (a : α)
  | done
  | taken (came : Bool)
  deriving DecidableEq, Repr

namespace Call

variable {α : Type}

def phase : Call α → Phase
  | read | update _ | finish => .active
  | tryTake | await | awaitForever => .waiting

def operation (role : Role) : Call α → Operation
  | read => .read
  | update _ => .write
  | finish => role.doneOperation
  | tryTake => .tryWaitForRobot
  | await | awaitForever => role.waitOperation

def perform (c : Call α) (e : Endpoint) (s : Space α) :
    Except Error (Reply α) × Endpoint × Space α :=
  match c with
  | read => ((e.read s).map .content, e, s)
  | update change => match e.update change s with
    | .ok ((), s) => (.ok .done, e, s)
    | .error cause => (.error cause, e, s)
  | finish => match e.finish s with
    | .ok (e, s) => (.ok .done, e, s)
    | .error cause => (.error cause, e, s)
  | tryTake => match e.tryTake s with
    | .ok ((came, e), s) => (.ok (.taken came), e, s)
    | .error cause => (.error cause, e, s)
  | await => match e.await.run (⟨s, (), #[]⟩ : World α Unit) with
    | (.ok (came, e), w) => (.ok (.taken came), e, w.space)
    | (.error cause, w) => (.error cause, e, w.space)
  | awaitForever => match e.awaitForever.run (⟨s, (), #[]⟩ : World α Unit) with
    | (.ok e, w) => (.ok .done, e, w.space)
    | (.error cause, w) => (.error cause, e, w.space)

theorem perform_of_ne (c : Call α) {e : Endpoint} (wrong : e.phase ≠ c.phase) (s : Space α) :
    c.perform e s = (.error (.turnViolation (c.operation e.role) e.phase), e, s) := by
  cases c with
  | read => simp only [perform, e.read_of_waiting s wrong, operation]; rfl
  | update change => simp only [perform, e.update_of_waiting s wrong, operation]
  | finish => simp only [perform, e.finish_of_waiting s wrong, operation]
  | tryTake => simp only [perform, e.tryTake_of_active s wrong, operation]
  | await => simp only [perform, e.run_await_of_active _ wrong, operation]
  | awaitForever => simp only [perform, e.run_awaitForever_of_active _ wrong, operation]

/-- What a call does to its endpoint and to the objects: nothing to the turn, or
the turn is taken out of the other side's semaphore, or it is given away into
the own one. -/
inductive Moves (e : Endpoint) (s : Space α) : Endpoint → Space α → Prop where
  | keeps {t : Space α} : t.counts = s.counts → t.regions.size = s.regions.size → Moves e s e t
  | takes {t : Space α} : e.phase = .waiting → s.take? e.other.id = some t → Moves e s e.tookTurn t
  | gives : e.phase = .active → Moves e s e.gaveTurn (s.post e.own.id)

theorem perform_moves (c : Call α) (e : Endpoint) (s : Space α) :
    Moves e s (c.perform e s).2.1 (c.perform e s).2.2 := by
  by_cases right : e.phase = c.phase
  case neg =>
    rw [c.perform_of_ne right]
    exact .keeps rfl rfl
  cases c with
  | read => exact .keeps rfl rfl
  | update change =>
    cases found : s.content? e.region.id with
    | some content =>
      simp only [perform, e.update_of_active s right change found]
      exact .keeps rfl (by simp [Space.setContent])
    | none =>
      simp only [perform, e.update_of_missing s right change found]
      exact .keeps rfl rfl
  | finish =>
    by_cases room : s.count e.own.id < Space.maxCount
    · simp only [perform, e.finish_of_active s right room]
      exact .gives right
    · simp only [perform, e.finish_of_full s right room]
      exact .keeps rfl rfl
  | tryTake =>
    simp only [perform, e.tryTake_of_waiting s right]
    cases taken : s.take? e.other.id with
    | some t => exact .takes right taken
    | none => exact .keeps rfl rfl
  | await =>
    simp only [perform, e.run_await_of_waiting _ right, World.await_alone]
    cases taken : s.take? e.other.id with
    | some t => exact .takes right taken
    | none => exact .keeps rfl rfl
  | awaitForever =>
    simp only [perform, e.run_awaitForever_of_waiting _ right, World.await_alone]
    cases taken : s.take? e.other.id with
    | some t => exact .takes right taken
    | none => exact .keeps rfl rfl

end Call

structure Objects where
  region : Nat
  robot : Nat
  simulator : Nat
  deriving DecidableEq, Repr

def Endpoint.objects (e : Endpoint) : Objects :=
  ⟨e.region.id, e.turns.robot.id, e.turns.simulator.id⟩

theorem Endpoint.ids_robot {e : Endpoint} {objects : Objects} (role : e.role = .robot)
    (same : e.objects = objects) : e.region.id = objects.region ∧ e.own.id = objects.robot ∧
      e.other.id = objects.simulator := by
  subst same
  rw [Endpoint.own, Endpoint.other, role]
  exact ⟨rfl, rfl, rfl⟩

theorem Endpoint.ids_simulator {e : Endpoint} {objects : Objects} (role : e.role = .simulator)
    (same : e.objects = objects) : e.region.id = objects.region ∧
      e.own.id = objects.simulator ∧ e.other.id = objects.robot := by
  subst same
  rw [Endpoint.own, Endpoint.other, role]
  exact ⟨rfl, rfl, rfl⟩

def Endpoint.held (e : Endpoint) : Nat := if e.phase = .active then 1 else 0

/-- An endpoint, and whether its process has let go of it. -/
structure Member where
  endpoint : Endpoint
  gone : Bool
  deriving DecidableEq, Repr

namespace Member

/-- Turns that can still be used. -/
def holding (m : Member) : Nat := if m.gone then 0 else m.endpoint.held

/-- Turns that nobody can use any more. -/
def lost (m : Member) : Nat := if m.gone then m.endpoint.held else 0

def sent (m : Member) : Nat :=
  match m.endpoint.role with
  | .simulator => m.endpoint.completed
  | .robot => 0

def received (m : Member) : Nat :=
  match m.endpoint.role with
  | .simulator => 0
  | .robot => m.endpoint.completed + m.endpoint.held

end Member

/-- No call makes a turn or loses one, and every turn that a robot takes was given before. -/
theorem Call.Moves.balance {α : Type} {e e' : Endpoint} {s s' : Space α} (moves : Moves e s e' s')
    (apart : e.objects.robot ≠ e.objects.simulator) (robotExists : e.objects.robot < s.counts.size)
    (simulatorExists : e.objects.simulator < s.counts.size) :
    e'.held + s'.count e.objects.simulator + s'.count e.objects.robot =
        e.held + s.count e.objects.simulator + s.count e.objects.robot ∧
      Member.sent ⟨e', false⟩ + Member.received ⟨e, false⟩ + s.count e.objects.simulator =
        Member.sent ⟨e, false⟩ + Member.received ⟨e', false⟩ + s'.count e.objects.simulator := by
  cases moves with
  | keeps counts => simp [Space.count, counts]
  | takes waiting taken =>
    have self := Space.count_take_self taken
    cases role : e.role with
    | simulator =>
      rw [Endpoint.other, role] at self taken
      have other := Space.count_take_other taken apart.symm
      simp [Endpoint.held, Endpoint.objects, Endpoint.tookTurn, Member.sent, Member.received, role,
        waiting] at self other ⊢
      omega
    | robot =>
      rw [Endpoint.other, role] at self taken
      have other := Space.count_take_other taken apart
      simp [Endpoint.held, Endpoint.objects, Endpoint.tookTurn, Member.sent, Member.received, role,
        waiting] at self other ⊢
      omega
  | gives active =>
    cases role : e.role with
    | simulator =>
      rw [Endpoint.own, role]
      have self := s.count_post_self simulatorExists
      have other := s.count_post_other apart
      simp [Endpoint.held, Endpoint.objects, Endpoint.gaveTurn, Member.sent, Member.received, role,
        active] at self other ⊢
      omega
    | robot =>
      rw [Endpoint.own, role]
      have self := s.count_post_self robotExists
      have other := s.count_post_other apart.symm
      simp [Endpoint.held, Endpoint.objects, Endpoint.gaveTurn, Member.sent, Member.received, role,
        active] at self other ⊢
      omega

theorem Call.Moves.keeps_identity {α : Type} {e e' : Endpoint} {s s' : Space α}
    (moves : Moves e s e' s') :
    e'.role = e.role ∧ e'.objects = e.objects ∧ s'.counts.size = s.counts.size := by
  cases moves with
  | keeps counts => exact ⟨rfl, rfl, by rw [counts]⟩
  | takes _ taken => exact ⟨rfl, rfl, Space.size_counts_take taken⟩
  | gives _ => exact ⟨rfl, rfl, s.size_counts_post _⟩

/-- The endpoints of one channel, the creator first, and the objects they work on. -/
structure Party (α : Type) where
  space : Space α
  objects : Objects
  members : List Member

inductive Event (α : Type) where
  | call (seat : Nat) (c : Call α)
  | leave (seat : Nat)
  | attach (names : Names) (valueSize : Nat)
  -- Somebody else binds names as they like.
  | rebind (regionNames semaphoreNames : Bindings)

namespace Party

variable {α : Type}

def start (e : Endpoint) (s : Space α) : Party α := ⟨s, e.objects, [⟨e, false⟩]⟩

def present? (p : Party α) (seat : Nat) : Option Endpoint :=
  match p.members[seat]? with
  | some ⟨e, false⟩ => some e
  | _ => none

/-- One event. Whoever attaches to other objects is not of this party. -/
def step (p : Party α) : Event α → Party α
  | .call seat c => match p.present? seat with
    | some e =>
      let (e, s) := (c.perform e p.space).2
      { p with space := s, members := p.members.set seat ⟨e, false⟩ }
    | none => p
  | .leave seat => match p.present? seat with
    | some e =>
      let w := ((e.close).run (⟨p.space, (), #[]⟩ : World α Unit)).2
      { p with space := w.space, members := p.members.set seat ⟨e, true⟩ }
    | none => p
  | .attach names valueSize =>
    match (Endpoint.attach names valueSize).run (⟨p.space, (), #[]⟩ : World α Unit) with
    | (.ok e, w) =>
      if e.objects = p.objects then
        { p with space := w.space, members := p.members ++ [⟨e, false⟩] }
      else { p with space := w.space }
    | (.error _, w) => { p with space := w.space }
  | .rebind regionNames semaphoreNames =>
    { p with space :=
        { p.space with regionNames := regionNames, semaphoreNames := semaphoreNames } }

def run (p : Party α) (events : List (Event α)) : Party α := events.foldl step p

/-- What holds whatever the members have done: they share the objects, there is
one turn, and every turn that was given is kept account of. -/
structure Sound (p : Party α) : Prop where
  roles : ∃ n, p.members.map (·.endpoint.role) = .simulator :: List.replicate n .robot
  shared : ∀ m ∈ p.members, m.endpoint.objects = p.objects
  apart : p.objects.robot ≠ p.objects.simulator
  robotExists : p.objects.robot < p.space.counts.size
  simulatorExists : p.objects.simulator < p.space.counts.size
  tokens : total Member.holding p.members + total Member.lost p.members +
    p.space.count p.objects.simulator + p.space.count p.objects.robot = 1
  ledger : total Member.sent p.members =
    total Member.received p.members + p.space.count p.objects.simulator

theorem present?_eq_some {p : Party α} {seat : Nat} {e : Endpoint}
    (present : p.present? seat = some e) : p.members[seat]? = some ⟨e, false⟩ := by
  unfold present? at present
  split at present
  next found =>
    cases present
    exact found
  next => contradiction

theorem roles_set {members : List Member} {seat : Nat} {m n : Member}
    (found : members[seat]? = some m) (same : n.endpoint.role = m.endpoint.role) :
    (members.set seat n).map (·.endpoint.role) = members.map (·.endpoint.role) := by
  obtain ⟨bound, rfl⟩ := List.getElem?_eq_some_iff.mp found
  rw [List.map_set, same]
  refine List.ext_getElem (by simp) fun i _ _ => ?_
  simp [List.getElem_set]
  rintro rfl
  rfl

theorem Sound.call {p : Party α} (sound : p.Sound) (seat : Nat) (c : Call α) :
    (p.step (.call seat c)).Sound := by
  cases present : p.present? seat with
  | none =>
    simp only [step, present]
    exact sound
  | some e =>
    have found := present?_eq_some present
    have mine : e.objects = p.objects := sound.shared _ (List.mem_of_getElem? found)
    obtain ⟨e', s', ran⟩ : ∃ e' s', (c.perform e p.space).2 = (e', s') := ⟨_, _, rfl⟩
    have moves : Call.Moves e p.space e' s' := by
      have moved := c.perform_moves e p.space
      rwa [ran] at moved
    simp only [step, present, ran]
    obtain ⟨role, objects, size⟩ := moves.keeps_identity
    have balance := moves.balance (mine ▸ sound.apart) (mine ▸ sound.robotExists)
      (mine ▸ sound.simulatorExists)
    rw [mine] at balance
    have holding := total_set Member.holding found ⟨e', false⟩
    have lost := total_set Member.lost found ⟨e', false⟩
    have sent := total_set Member.sent found ⟨e', false⟩
    have received := total_set Member.received found ⟨e', false⟩
    have tokens := sound.tokens
    have ledger := sound.ledger
    refine ⟨?_, ?_, sound.apart, ?_, ?_, ?_, ?_⟩
    · obtain ⟨n, seated⟩ := sound.roles
      exact ⟨n, (roles_set found role).trans seated⟩
    · intro m member
      rcases List.mem_or_eq_of_mem_set member with old | rfl
      · exact sound.shared m old
      · exact objects.trans mine
    · exact size ▸ sound.robotExists
    · exact size ▸ sound.simulatorExists
    · simp only [Member.holding, Member.lost, Bool.false_eq_true, if_false] at holding lost ⊢
      omega
    · dsimp only
      omega

theorem Sound.leave {p : Party α} (sound : p.Sound) (seat : Nat) :
    (p.step (.leave seat)).Sound := by
  cases present : p.present? seat with
  | none =>
    simp only [step, present]
    exact sound
  | some e =>
    have found := present?_eq_some present
    have same := (e.close_keeps (⟨p.space, (), #[]⟩ : World α Unit)).1
    simp only [step, present]
    generalize ((e.close).run (⟨p.space, (), #[]⟩ : World α Unit)).2 = w at same ⊢
    dsimp only at same
    have holding := total_set Member.holding found ⟨e, true⟩
    have lost := total_set Member.lost found ⟨e, true⟩
    have sent := total_set Member.sent found ⟨e, true⟩
    have received := total_set Member.received found ⟨e, true⟩
    have tokens := sound.tokens
    have ledger := sound.ledger
    refine ⟨?_, ?_, sound.apart, ?_, ?_, ?_, ?_⟩
    · obtain ⟨n, seated⟩ := sound.roles
      exact ⟨n, (roles_set (n := ⟨e, true⟩) found rfl).trans seated⟩
    · intro m member
      rcases List.mem_or_eq_of_mem_set member with old | rfl
      · exact sound.shared m old
      · exact sound.shared ⟨e, false⟩ (List.mem_of_getElem? found)
    · exact same.counts ▸ sound.robotExists
    · exact same.counts ▸ sound.simulatorExists
    · simp only [Member.holding, Member.lost, same.count] at holding lost ⊢
      simp at holding lost
      omega
    · simp only [Member.sent, Member.received, same.count] at sent received ⊢
      omega

theorem Sound.attach {p : Party α} (sound : p.Sound) (names : Names) (valueSize : Nat) :
    (p.step (.attach names valueSize)).Sound := by
  rcases attach_cases names valueSize (⟨p.space, (), #[]⟩ : World α Unit) with
    ⟨region, robot, simulator, -, -, -, journal, ran⟩ | ⟨cause, journal, ran⟩
  · simp only [step, ran]
    split
    next joins =>
      refine ⟨?_, ?_, sound.apart, sound.robotExists, sound.simulatorExists, ?_, ?_⟩
      · obtain ⟨n, seated⟩ := sound.roles
        refine ⟨n + 1, ?_⟩
        rw [List.map_append, seated, List.replicate_succ']
        rfl
      · intro m member
        rcases List.mem_append.mp member with old | new
        · exact sound.shared m old
        · rw [List.mem_singleton.mp new]
          exact joins
      · rw [total_append, total_append]
        exact sound.tokens
      · rw [total_append, total_append]
        exact sound.ledger
    next => exact sound
  · simp only [step, ran]
    exact sound

/-- No event can break what holds. -/
theorem Sound.step {p : Party α} (sound : p.Sound) (event : Event α) : (p.step event).Sound := by
  cases event with
  | call seat c => exact sound.call seat c
  | leave seat => exact sound.leave seat
  | attach names valueSize => exact sound.attach names valueSize
  | rebind _ _ =>
    exact ⟨sound.roles, sound.shared, sound.apart, sound.robotExists, sound.simulatorExists,
      sound.tokens, sound.ledger⟩

theorem Sound.run {p : Party α} (sound : p.Sound) (events : List (Event α)) :
    (p.run events).Sound := by
  induction events generalizing p with
  | nil => exact sound
  | cons event rest ih => exact ih (sound.step event)

theorem Sound.start {σ : Type} [Inhabited α] {names : Names} {valueSize : Nat} {exclusive : Bool}
    {w w' : World α σ} {e : Endpoint}
    (created : (Endpoint.create names valueSize exclusive).run w = (.ok e, w')) :
    (Party.start e w'.space).Sound := by
  obtain ⟨rfl, space, -⟩ := create_ok created
  have size := size_counts_withChannel w.space names valueSize
  -- Both semaphores are fresh, so they lie beyond those that were there and count 0.
  have fresh (id : Nat) (beyond : w.space.counts.size ≤ id) : w'.space.count id = 0 := by
    rw [space, count_withChannel]
    exact Space.count_eq_zero_of_size_le _ beyond
  have robot := fresh w.space.counts.size (Nat.le_refl _)
  have simulator := fresh (w.space.counts.size + 1) (Nat.le_succ _)
  constructor
  case roles => exact ⟨0, rfl⟩
  case shared =>
    intro m member
    rw [List.mem_singleton.mp member]
    rfl
  case apart => exact Nat.ne_of_lt (Nat.lt_succ_self _)
  case robotExists =>
    rw [Party.start, space, size]
    exact Nat.lt_add_of_pos_right (by decide)
  case simulatorExists =>
    rw [Party.start, space, size]
    exact Nat.lt_succ_self _
  case tokens =>
    simp [Party.start, Endpoint.objects, Endpoint.created, TurnSemaphores.created, total,
      Member.holding, Member.lost, Endpoint.held, robot, simulator]
  case ledger =>
    simp [Party.start, Endpoint.objects, Endpoint.created, TurnSemaphores.created, total,
      Member.sent, Member.received, simulator]

/-- Endpoints that have the turn and can use it. -/
def holders (p : Party α) : Nat := total Member.holding p.members

def pending (p : Party α) : Nat :=
  p.space.count p.objects.simulator + p.space.count p.objects.robot

/-- Whoever left did so without the turn. -/
def Intact (p : Party α) : Prop := ∀ m ∈ p.members, m.gone = true → m.endpoint.phase = .waiting

/-- Nobody on a side has the turn, and none of them can get it by waiting. -/
def Stuck (p : Party α) (role : Role) : Prop :=
  (∀ m ∈ p.members, m.endpoint.role = role → m.gone = false → m.endpoint.phase = .waiting) ∧
    p.space.count (match role with
      | .simulator => p.objects.robot
      | .robot => p.objects.simulator) = 0

theorem Sound.holders_le {p : Party α} (sound : p.Sound) : p.holders + p.pending ≤ 1 := by
  have tokens := sound.tokens
  simp only [holders, pending]
  omega

theorem Sound.holders_eq {p : Party α} (sound : p.Sound) (intact : p.Intact) :
    p.holders + p.pending = 1 := by
  have tokens := sound.tokens
  have none : total Member.lost p.members = 0 := by
    refine total_eq_zero fun m member => ?_
    cases gone : m.gone with
    | false => simp [Member.lost, gone]
    | true => simp [Member.lost, Endpoint.held, intact m member gone]
  simp only [holders, pending]
  omega

theorem Sound.never_stuck {p : Party α} (sound : p.Sound) (intact : p.Intact) :
    ¬ (p.Stuck .simulator ∧ p.Stuck .robot) := by
  intro ⟨⟨simulators, robotCount⟩, robots, simulatorCount⟩
  have one := sound.holders_eq intact
  have none : p.holders = 0 := by
    refine total_eq_zero fun m member => ?_
    have waiting : m.gone = false → m.endpoint.phase = .waiting := by
      cases role : m.endpoint.role with
      | simulator => exact simulators m member role
      | robot => exact robots m member role
    cases gone : m.gone with
    | false => simp [Member.holding, Endpoint.held, waiting gone]
    | true => simp [Member.holding, gone]
  simp only [pending] at one
  dsimp only at robotCount simulatorCount
  omega

theorem active_of_read {e : Endpoint} {s : Space α} {content : α} (got : e.read s = .ok content) :
    e.phase = .active := by
  by_cases active : e.phase = .active
  · exact active
  · rw [e.read_of_waiting s active] at got
    contradiction

theorem Sound.alone {p : Party α} (sound : p.Sound) {seat other : Nat} {e f : Endpoint}
    {content content' : α} (present : p.present? seat = some e)
    (presentOther : p.present? other = some f) (got : e.read p.space = .ok content)
    (gotOther : f.read p.space = .ok content') : seat = other := by
  by_cases same : seat = other
  · exact same
  · have both := add_le_total Member.holding (present?_eq_some present)
      (present?_eq_some presentOther) same
    have tokens := sound.tokens
    simp [Member.holding, Endpoint.held, active_of_read got, active_of_read gotOther] at both
    omega

theorem step_of_refused {p : Party α} {seat : Nat} {e : Endpoint} {c : Call α}
    (present : p.present? seat = some e) (wrong : e.phase ≠ c.phase) :
    p.step (.call seat c) = p := by
  simp only [step, present, c.perform_of_ne wrong]
  have found := present?_eq_some present
  obtain ⟨bound, here⟩ := List.getElem?_eq_some_iff.mp found
  rw [← here, List.set_getElem_self]

theorem Sound.split {p : Party α} (sound : p.Sound) :
    ∃ simulator robots, p.members = simulator :: robots ∧ simulator.endpoint.role = .simulator ∧
      ∀ m ∈ robots, m.endpoint.role = .robot := by
  obtain ⟨n, seated⟩ := sound.roles
  cases members : p.members with
  | nil => simp [members] at seated
  | cons simulator robots =>
    rw [members, List.map_cons, List.cons.injEq] at seated
    refine ⟨simulator, robots, rfl, seated.1, fun m member => ?_⟩
    have role : m.endpoint.role ∈ robots.map (·.endpoint.role) := List.mem_map.mpr ⟨m, member, rfl⟩
    rw [seated.2] at role
    exact List.eq_of_mem_replicate role

def returned (robots : List Member) : Nat := total (·.endpoint.completed) robots

/-- The creator is at most one turn ahead of all robots together: not at all
while it has the turn itself, by one while a robot has it. -/
theorem Sound.ahead {p : Party α} (sound : p.Sound) {simulator : Member} {robots : List Member}
    (seated : p.members = simulator :: robots) (first : simulator.endpoint.role = .simulator)
    (rest : ∀ m ∈ robots, m.endpoint.role = .robot) :
    (simulator.endpoint.completed = returned robots ∨
        simulator.endpoint.completed = returned robots + 1) ∧
      (simulator.endpoint.phase = .active → simulator.endpoint.completed = returned robots) ∧
      ∀ m ∈ robots, m.endpoint.phase = .active →
        simulator.endpoint.completed = returned robots + 1 := by
  have tokens := sound.tokens
  have ledger := sound.ledger
  rw [seated] at tokens ledger
  have sent : total Member.sent robots = 0 :=
    total_eq_zero fun m member => by simp [Member.sent, rest m member]
  have received : total Member.received robots =
      returned robots + total (·.endpoint.held) robots := by
    rw [returned, total, total, total, ← List.sum_map_add]
    congr 1
    exact List.map_congr_left fun m member => by simp [Member.received, rest m member]
  -- A turn counts once among its holders, whether it is lost or not.
  have held (members : List Member) : total Member.holding members + total Member.lost members =
      total (·.endpoint.held) members := by
    rw [total, total, total, ← List.sum_map_add]
    congr 1
    refine List.map_congr_left fun m _ => ?_
    cases gone : m.gone <;> simp [Member.holding, Member.lost, gone]
  rw [held] at tokens
  have creatorSent : simulator.sent = simulator.endpoint.completed := by simp [Member.sent, first]
  have creatorReceived : simulator.received = 0 := by simp [Member.received, first]
  simp only [total, List.map_cons, List.sum_cons] at tokens ledger sent received
  refine ⟨by omega, fun active => ?_, fun m member active => ?_⟩
  · have one : simulator.endpoint.held = 1 := by simp [Endpoint.held, active]
    omega
  · obtain ⟨seat, found⟩ := List.mem_iff_getElem?.mp member
    have counted : m.endpoint.held ≤ total (·.endpoint.held) robots :=
      le_total (·.endpoint.held) found
    have one : m.endpoint.held = 1 := by simp [Endpoint.held, active]
    simp only [total] at counted
    omega

/-- Whatever the endpoints of a channel do and in whatever order, there is never
more than one turn, and exactly one until somebody leaves with it. -/
theorem run_keeps_one_turn {σ : Type} [Inhabited α] {names : Names} {valueSize : Nat}
    {exclusive : Bool} {w w' : World α σ} {e : Endpoint}
    (created : (Endpoint.create names valueSize exclusive).run w = (.ok e, w'))
    (events : List (Event α)) :
    let p := (Party.start e w'.space).run events
    p.holders + p.pending ≤ 1 ∧
    (p.Intact → p.holders + p.pending = 1 ∧ ¬ (p.Stuck .simulator ∧ p.Stuck .robot)) ∧
    (∀ seat other f g content content', p.present? seat = some f → p.present? other = some g →
      f.read p.space = .ok content → g.read p.space = .ok content' → seat = other) ∧
    (∀ seat f c, p.present? seat = some f → f.phase ≠ c.phase →
      c.perform f p.space = (.error (.turnViolation (c.operation f.role) f.phase), f, p.space) ∧
      p.step (.call seat c) = p) ∧
    ∃ simulator robots, p.members = simulator :: robots ∧ simulator.endpoint.role = .simulator ∧
      (∀ m ∈ robots, m.endpoint.role = .robot) ∧
      (simulator.endpoint.completed = returned robots ∨
        simulator.endpoint.completed = returned robots + 1) ∧
      (simulator.endpoint.phase = .active → simulator.endpoint.completed = returned robots) ∧
      ∀ m ∈ robots, m.endpoint.phase = .active →
        simulator.endpoint.completed = returned robots + 1 := by
  intro p
  have sound : p.Sound := (Sound.start created).run events
  refine ⟨sound.holders_le, ?_, ?_, ?_, ?_⟩
  · intro intact
    exact ⟨sound.holders_eq intact, sound.never_stuck intact⟩
  · intro seat other f g content content' present presentOther got gotOther
    exact sound.alone present presentOther got gotOther
  · intro seat f c present wrong
    exact ⟨c.perform_of_ne wrong p.space, step_of_refused present wrong⟩
  · obtain ⟨simulator, robots, seated, first, rest⟩ := sound.split
    exact ⟨simulator, robots, seated, first, rest, sound.ahead seated first rest⟩

/-- A robot that comes late takes the turn, and the creator is refused meanwhile. -/
theorem standard_keeps_one_turn :
    ∃ (e : Endpoint) (w : World Nat Unit),
      (Endpoint.create .standard 8 false).run ⟨.empty, (), #[]⟩ = (.ok e, w) ∧
      let p := (Party.start e w.space).run
        [.call 0 .finish, .attach .standard 8, .call 1 .awaitForever, .call 0 .read]
      p.holders + p.pending ≤ 1 := by
  obtain ⟨region, robot, simulator, -⟩ := Names.valid_standard
  obtain ⟨journal, created⟩ :=
    create_forced region robot simulator 8 (⟨.empty, (), #[]⟩ : World Nat Unit)
  exact ⟨_, _, created, (run_keeps_one_turn created _).1⟩

end Party

end Lockstep.Channel
