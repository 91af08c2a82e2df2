import Lockstep.Proofs.Simulator.Linked

/-! A robot's parameters, as its simulator sees them: two stores of values. -/

set_option autoImplicit false

namespace Lockstep.Simulator

open Channel Message Parameter Bridge Effect Crew

variable {p : Program} {m : Message} {s : Session Crew} {first : Tables} {sends : List Send}

/-- The session has one robot on board, with these tables. -/
def Carries (s : Session Crew) (tables : Tables) : Prop :=
  s.world.peer.mates.map (·.bridge.program.tables) = [tables]

theorem Linked.carries (linked : Linked p m s) : Carries s p.tables := by
  obtain ⟨mate, only, stands⟩ := linked.dealing.paired.mate
  rw [Carries, only, List.map_singleton, stands.program]
  rfl

/-- What the next call comes to, with the tables of the beginning and what was
written into them since. -/
structure Store (first : Tables) (sends : List Send) (s : Session Crew) (now : Tables) : Prop where
  carries : Carries s now
  set : ∀ user name value, (first.table? user).isSome →
    Ends (Talk.setParameter name value user) s fun r t =>
      ((∃ v, r = .ok v) ↔ first.kind? user name = some value.kind) ∧
      ∀ v, r = .ok v → v = value ∧ ∃ next, Carries t next ∧ ∀ user' name',
        next.value? user' name' =
          if user' = user ∧ name' = name then some value else now.value? user' name'
  get : ∀ user name kind, (first.table? user).isSome →
    Ends (Talk.getParameter name kind user) s fun r t =>
      ((∃ v, r = .ok v) ↔ first.kind? user name = some kind) ∧
      ∀ v, r = .ok v →
        some v = (latest sends user name).or (first.value? user name) ∧ Carries t now
  setNone : first.user? = none → ∀ name value, checkName name = .ok () →
    Ends (Talk.setParameter name value true) s fun r t => r = .ok value ∧ Carries t now
  getNone : first.user? = none → ∀ name kind, checkName name = .ok () →
    Ends (Talk.getParameter name kind true) s fun r t => r = .ok (.zero kind) ∧ Carries t now

/-- A call goes through exactly if the tables serve it, for a robot that is prompt. -/
theorem Talk.Requested.ok_iff {kind : RequestKind} {name : String} {value : Value}
    {r : Except Error Value} {t : Session Crew} (ended : Requested p s kind name value r t)
    (prompt : Prompt s) (has : (p.tables.table? kind.user).isSome)
    (named : p.tables.kind? kind.user name = some value.kind → checkName name = .ok ()) :
    (∃ v, r = .ok v) ↔ p.tables.kind? kind.user name = some value.kind := by
  rw [← Tables.isSome_request_iff has] at named ⊢
  cases ended with
  | refused invalid =>
    constructor
    · rintro ⟨v, went⟩
      cases went
    · exact fun served => absurd (named served) invalid
  | missed waiting unserved =>
    rw [unserved prompt]
    constructor
    · rintro ⟨v, went⟩
      cases went
    · nofun
  | served spec _ _ _ =>
    rw [spec]
    exact ⟨fun _ => rfl, fun _ => ⟨_, rfl⟩⟩

theorem Talk.Requested.userless {kind : RequestKind} {name : String} {value : Value}
    {r : Except Error Value} {t : Session Crew} (ended : Requested p s kind name value r t)
    (prompt : Prompt s) (none : p.tables.table? kind.user = none)
    (named : checkName name = .ok ()) : r = .ok value ∧ Carries t p.tables := by
  have serves := Tables.request_of_none none name value
  cases ended with
  | refused invalid => exact absurd named invalid
  | missed waiting unserved => cases serves.symm.trans (unserved prompt)
  | served spec tables later _ =>
    cases serves.symm.trans spec
    exact ⟨rfl, tables ▸ later.carries⟩

theorem Talk.Requested.written {user : Bool} {name : String} {value v : Value} {t : Session Crew}
    (ended : Requested p s (.set user) name value (.ok v) t) (has : (p.tables.table? user).isSome) :
    v = value ∧ ∃ next, Carries t next ∧ ∀ user' name', next.value? user' name' =
      if user' = user ∧ name' = name then some value else p.tables.value? user' name' := by
  cases ended with
  | served spec tables later _ =>
    obtain ⟨old, declared, same⟩ := Tables.declared_of_request has spec
    cases (Tables.request_of_declared declared same).symm.trans spec
    exact ⟨rfl, _, tables ▸ later.carries, Tables.value?_put declared value⟩

theorem Talk.Requested.read {user : Bool} {name : String} {value v : Value} {t : Session Crew}
    (ended : Requested p s (.get user) name value (.ok v) t)
    (has : (p.tables.table? user).isSome) :
    p.tables.value? user name = some v ∧ Carries t p.tables := by
  cases ended with
  | served spec tables later _ =>
    obtain ⟨old, declared, same⟩ := Tables.declared_of_request has spec
    cases (Tables.request_of_declared declared same).symm.trans spec
    exact ⟨declared, tables ▸ later.carries⟩

theorem Linked.store (linked : Linked p m s) (follows : first.Follows sends p.tables)
    (named : first.Named) (room : s.connection.requests.toNat + 1 < UInt64.size)
    (prompt : Prompt s) : Store first sends s p.tables := by
  have proper {user : Bool} {name : String} {kind : Kind}
      (declared : p.tables.kind? user name = some kind) : checkName name = .ok () :=
    named.of_kind? ((follows.kinds user name).symm.trans declared)
  constructor
  case carries => exact linked.carries
  case set =>
    intro user name value has
    rw [← follows.has] at has
    refine (Talk.setParameter_linked linked room name value user).mono fun r t ended => ?_
    have through := ended.ok_iff prompt has proper
    rw [← follows.kinds]
    exact ⟨through, fun v went => (went ▸ ended).written has⟩
  case get =>
    intro user name kind has
    rw [← follows.has] at has
    refine (Talk.request_linked linked room (.get user) name (.zero kind)).mono fun r t ended => ?_
    have through := ended.ok_iff prompt has proper
    rw [Value.kind_zero] at through
    rw [← follows.kinds]
    refine ⟨through, fun v went => ?_⟩
    obtain ⟨declared, carries⟩ := (went ▸ ended).read has
    exact ⟨follows.eq_latest declared, carries⟩
  case setNone =>
    intro none name value checked
    exact (Talk.setParameter_linked linked room name value true).mono fun r t ended =>
      ended.userless prompt (follows.userless none) checked
  case getNone =>
    intro none name kind checked
    exact (Talk.request_linked linked room (.get true) name (.zero kind)).mono fun r t ended =>
      ended.userless prompt (follows.userless none) checked

/-- A simulator that has the turn, and one robot on its channel, of the kind that
it declares. Nobody else is about to come. -/
structure Alone (mate : Mate) (s : Session Crew) : Prop where
  phase : s.connection.endpoint.phase = .active
  declared : (s.world.space.content? s.connection.endpoint.region.id).bind
    (fun m => Robot.ofCode? m.toRobot.robotCode) = some mate.bridge.program.robot
  mates : s.world.peer.mates = [mate]
  waiting : mate.bridge.endpoint.phase = .waiting
  solo : ∀ moves ∈ s.world.peer.plan, ∀ move ∈ moves, move.Solo

theorem Alone.linked {mate : Mate} (alone : Alone mate s) (synced : Synced s m) :
    Linked mate.bridge.program m s := by
  have dealing := synced.dealing alone.phase alone.mates alone.waiting alone.solo
  have declared := alone.declared
  rw [synced.content, Option.bind_some] at declared
  exact ⟨dealing, synced, declared⟩

/-- From any point on at which one robot is left alone with its simulator, and as
long as every turn comes back, the parameters of the robot are two stores of values. -/
theorem remote_tables {σ : Type} {names : Names} {robot : Robot} {options : Options}
    {exclusive : Bool} {w w' : World Message σ} {c : Connection}
    (created : (Connection.create names robot options exclusive).run w = (.ok c, w'))
    (plan : List (List Move)) (journal : Journal) {before after : List Command}
    {told replies : List (Except Error Unit)} {s t : Session Crew} {mate : Mate}
    (came : Command.run before ⟨c, ⟨w'.space, .start c.endpoint.objects plan, journal⟩⟩ = (told, s))
    (alone : Alone mate s) (named : mate.bridge.program.tables.Named)
    (own : ∀ c ∈ after, c.Solo) (ran : Command.run after s = (replies, t))
    (lasts : total Command.cost (before ++ after) + 1 < UInt64.size)
    (active : t.connection.endpoint.phase = .active) (prompt : Prompt t) :
    ∃ now, Store mate.bridge.program.tables (Command.history after replies) t now := by
  obtain ⟨rfl, space, -⟩ := Connection.create_ok created
  rw [space] at came
  have shared : total Command.cost (before ++ after) =
      total Command.cost before + total Command.cost after := by simp [total]
  have opened := Synced.opened w.space names robot options plan journal
  have room : (0 : UInt64).toNat + total Command.cost before < UInt64.size := by
    rw [UInt64.toNat_zero]
    omega
  obtain ⟨⟨m, synced⟩, -⟩ := Command.run_ends before opened room
  have few := Command.run_requests before opened room
  rw [came] at synced few
  have linked : Linked mate.bridge.program m s := alone.linked synced
  have few : s.connection.requests.toNat ≤ (0 : UInt64).toNat + total Command.cost before := few
  rw [UInt64.toNat_zero] at few
  have room : s.connection.requests.toNat + total Command.cost after < UInt64.size := by omega
  have fewer := Command.run_requests after synced room
  obtain ⟨p, m', last, follows⟩ := Command.run_linked after linked (.refl _) own room (by rwa [ran])
  rw [ran] at last follows fewer
  dsimp only at last fewer
  exact ⟨p.tables, last.store follows named (by omega) prompt⟩

/-- A robot that comes late, is given a value, and does a turn of another kind
before it is asked for it. -/
theorem standard_store :
    let program := Program.start .miniCheetah (.stand .fresh) .robot
    let turn := [Move.take 0, .serve 0]
    let c := Connection.created .empty .standard .miniCheetah .standard
    let met := Command.run [.handshake 1 fun _ _ => false]
      ⟨c, ⟨opened .empty .standard .miniCheetah, .start c.endpoint.objects
        [.join .standard program :: turn, turn, turn, turn], #[]⟩⟩
    let done := Command.run [.set "use_rc" (.s64 5) false, .exchange .applyParameters] met.2
    (∃ mate, Alone mate met.2) ∧ Prompt done.2 ∧
      (∃ now, Store program.tables [⟨false, "use_rc", .s64 5⟩] done.2 now) ∧
      ((Talk.getParameter "use_rc" .s64 false).run done.2).1 = .ok (.s64 5) := by
  intro program turn c met done
  obtain ⟨mate, one⟩ : ∃ mate, met.2.world.peer.mates = [mate] :=
    List.length_eq_one_iff.mp (by decide +kernel)
  have known : ∀ mate ∈ met.2.world.peer.mates, mate.bridge.endpoint.phase = .waiting ∧
      mate.bridge.program.robot = .miniCheetah ∧ mate.bridge.program.tables = program.tables := by
    decide +kernel
  obtain ⟨waiting, kind, tables⟩ := known mate (one ▸ List.mem_singleton_self mate)
  have planned : met.2.world.peer.plan = [turn, turn, turn] := by decide +kernel
  have alone : Alone mate met.2 := by
    constructor
    case phase => decide +kernel
    case declared =>
      rw [kind]
      decide +kernel
    case mates => exact one
    case waiting => exact waiting
    case solo =>
      rw [planned]
      intro moves member move inside
      simp only [List.mem_cons, List.not_mem_nil, or_false, or_self] at member
      subst member
      simp only [turn, List.mem_cons, List.not_mem_nil, or_false] at inside
      obtain rfl | rfl := inside
      · trivial
      · trivial
  have named : mate.bridge.program.tables.Named := by
    rw [tables]
    intro user t own
    unfold Table.Named
    cases user with
    | false =>
      cases own
      decide
    | true =>
      cases own
      decide
  have active : done.2.connection.endpoint.phase = .active := by decide +kernel
  have prompt : Prompt done.2 := by decide +kernel
  have valid := Names.valid_standard
  obtain ⟨journal, created⟩ :=
    Connection.create_forced valid .miniCheetah .standard (⟨.empty, (), #[]⟩ : World Message Unit)
  obtain ⟨now, store⟩ := remote_tables created _ #[] (Prod.mk.eta (p := met)).symm alone named
    (by simp [Command.Solo]) (Prod.mk.eta (p := done)).symm (by decide) active prompt
  rw [tables] at store
  have written : Command.history [.set "use_rc" (.s64 5) false, .exchange .applyParameters] done.1 =
    [⟨false, "use_rc", .s64 5⟩] := by decide +kernel
  rw [written] at store
  refine ⟨⟨mate, alone⟩, prompt, ⟨now, store⟩, ?_⟩
  obtain ⟨through, got⟩ := store.get false "use_rc" .s64 rfl
  obtain ⟨v, went⟩ := through.mpr (by decide)
  obtain ⟨same, -⟩ := got v went
  cases same
  exact went

end Lockstep.Simulator
