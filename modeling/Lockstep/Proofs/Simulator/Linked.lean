import Lockstep.Proofs.Bridge.Store
import Lockstep.Proofs.Simulator.Dialogue
import Lockstep.Proofs.Simulator.Numbering

/-! A simulator and the robot that it declares, from one command to the next.

As long as every turn comes back, a command leaves the robot's tables as a store
of values would be, and a turn that does not come back is the end of it.
-/

set_option autoImplicit false

namespace Lockstep.Simulator

open Channel Message Parameter Bridge Effect Crew

/-- A simulator that has the turn, and a robot program of the kind that it declares. -/
structure Linked (p : Program) (m : Message) (s : Session Crew) : Prop where
  dealing : Dealing p m .home s
  synced : Synced s m
  declared : Robot.ofCode? m.toRobot.robotCode = some p.robot

/-- The robot serves its next turn before the simulator stops to wait for an answer. -/
def Prompt (s : Session Crew) : Prop :=
  [Move.take 0, .serve 0].Sublist
    (s.world.peer.plan.take (s.connection.options.retries + 1)).flatten

instance (s : Session Crew) : Decidable (Prompt s) :=
  inferInstanceAs (Decidable (List.Sublist _ _))

variable {p : Program} {m : Message} {s : Session Crew} {first : Tables} {sends : List Send}

theorem Synced.dealing (synced : Synced s m) (active : s.connection.endpoint.phase = .active)
    {mate : Mate} (only : s.world.peer.mates = [mate])
    (waiting : mate.bridge.endpoint.phase = .waiting)
    (solo : ∀ moves ∈ s.world.peer.plan, ∀ move ∈ moves, move.Solo) :
    Dealing mate.bridge.program m .home s := by
  have tally := synced.active active
  have held : s.world.peer.held = mate.holding.toNat := by simp [Crew.held, only, total]
  have few := tally.few
  unfold Crew.turns at few
  refine ⟨synced.role, synced.objects, active, ?_, solo⟩
  constructor
  case afloat => exact tally.afloat
  case mate =>
    refine ⟨mate, only, waiting, rfl, ?_⟩
    exact Bool.toNat_eq_zero.mp (by omega)
  case sound => trivial
  case lying =>
    change _ = 0
    omega
  case returned =>
    change _ = 0
    omega

namespace Linked

theorem active (linked : Linked p m s) : s.connection.endpoint.phase = .active :=
  linked.dealing.phase

theorem settled (linked : Linked p m s) : m.Settled :=
  (linked.synced.active linked.active).settled

theorem of_dealing {t : Session Crew} {p' : Program} {m' : Message} (linked : Linked p m s)
    (dealing : Dealing p' m' .home t) (synced : ∃ m'', Synced t m'') (robot : p'.robot = p.robot)
    (half : m'.toRobot.robotCode = m.toRobot.robotCode) : Linked p' m' t := by
  obtain ⟨m'', synced⟩ := synced
  have same := synced.content.symm.trans dealing.content
  cases same
  refine ⟨dealing, synced, ?_⟩
  rw [half, robot]
  exact linked.declared

theorem noted (linked : Linked p m s) (r : Record) : Linked p m (s.noted r) :=
  ⟨linked.dealing.noted r, linked.synced.noted r, linked.declared⟩

theorem came {asked : Message} {stage : Stage} {t : Session Crew} (linked : Linked p m s)
    (settled : asked.Settled) (half : asked.toRobot.robotCode = m.toRobot.robotCode)
    (came : Came p asked stage t) (synced : ∃ m', Synced t m') :
    ∃ p' m', Linked p' m' t ∧ p'.tables = p.tables := by
  obtain ⟨mode, turn, rfl, served, dealing⟩ := came
  obtain ⟨robot, tables⟩ := Program.serve_idles settled served
  exact ⟨_, _, linked.of_dealing dealing synced robot half, tables⟩

end Linked

namespace Talk

theorem checkResponse_acknowledge {number : UInt64} {kind : RequestKind} {name : String}
    {value : Value} {q : Message.Request} (made : Request.make number kind name value = .ok q)
    (reported : Value) (count : Nat) :
    checkResponse (.acknowledge q reported count) number kind name = .ok reported := by
  obtain ⟨-, numbered, kinded, named⟩ := Request.make_spec made
  have echoed : decodeName q.rawName = .ok name := named
  simp [checkResponse, Response.acknowledge, Response.name, Response.value, Value.ofTagged, numbered,
    echoed, kinded, Value.ofWire_toWire, Except.mapError, bind, Except.bind]

/-- How a request can end: it is never made, its turn does not come back, or it
goes as the robot's tables say. -/
inductive Requested (p : Program) (s : Session Crew) (kind : RequestKind) (name : String)
    (value : Value) : Except Error Value → Session Crew → Prop where
  | refused {e : Error} : checkName name ≠ .ok () → Requested p s kind name value (.error e) s
  | missed {e : Error} {t : Session Crew} : t.connection.endpoint.phase = .waiting →
      (Prompt s → p.tables.request kind name value = none) →
      Requested p s kind name value (.error e) t
  | served {reported : Value} {next : Tables} {p' : Program} {m' : Message} {t : Session Crew} :
      p.tables.request kind name value = some (reported, next) → p'.tables = next →
      Linked p' m' t → t.connection.requests.toNat ≤ s.connection.requests.toNat + 1 →
      Requested p s kind name value (.ok reported) t

theorem request_linked (linked : Linked p m s)
    (room : s.connection.requests.toNat + 1 < UInt64.size) (kind : RequestKind) (name : String)
    (value : Value) : Ends (request kind name value) s (Requested p s kind name value) := by
  have last : m.toSimulator.response.number = s.connection.requests :=
    linked.settled.number.trans linked.synced.numbered.symm
  cases made : Request.make (s.connection.requests + 1) kind name value with
  | error cause =>
    refine .of_run (run_request_refused linked.active linked.dealing.content made) (.refused ?_)
    rw [Request.make_error made]
    nofun
  | ok q =>
    have dealt := request_deals linked.dealing made
    -- Modes do not matter here, so they are all of one kind.
    let any : Mode → Prop := fun _ => True
    have right : any .applyParameters := trivial
    have synced := request_ends linked.synced right room kind name value
    obtain ⟨fresh, carries⟩ : Fresh q m.toSimulator.response kind name value.kind ∧
        q.rawValue = value.toWire := by
      rw [← last] at made room
      exact fresh_of_make room made
    have asked : (requesting m q).mode? = some .applyParameters := mode?_setMode _ _
    refine (dealt.and synced).mono ?_
    rintro r t ⟨⟨came, went⟩ | ⟨missed, went⟩, m', later, after, -⟩
    · obtain ⟨mode, turn, back, served, dealing⟩ := came
      cases spec : p.tables.request kind name value with
      | none =>
        obtain ⟨e, t', failed⟩ := Program.serve_refused asked fresh spec
        cases failed.symm.trans served
      | some serving =>
        obtain ⟨reported, next⟩ := serving
        obtain ⟨t', count, serves, robot, tables, response⟩ :=
          Program.serve_served asked linked.declared fresh carries spec
        cases serves.symm.trans served
        rw [back] at went dealing
        have kept : ((Stage.back .applyParameters turn).program p).tables = next := tables
        have answered : ((Stage.back .applyParameters turn).message
            (requesting m q)).toSimulator.response = .acknowledge q reported count := response
        rw [went, answered, checkResponse_acknowledge made]
        exact .served spec kept (linked.of_dealing dealing ⟨m', later⟩ robot rfl)
          after.requests
    · rw [went]
      refine .missed missed.waiting fun prompt => ?_
      have stage := Stage.foldl_next_prompt (p := p) (m := requesting m q) prompt
      cases spec : p.tables.request kind name value with
      | none => rfl
      | some serving =>
        obtain ⟨t', count, serves, -⟩ :=
          Program.serve_served asked linked.declared fresh carries spec
        have away := missed.1
        rw [stage, serves] at away
        exact away.elim

theorem run_setParameter_waiting (waiting : s.connection.endpoint.phase = .waiting) (name : String)
    (value : Value) (user : Bool) : (setParameter name value user).run s =
      (.error (.channel (.turnViolation .write .waiting)), s) := by
  rw [setParameter, run_bind, run_request_waiting waiting]

theorem setParameter_linked (linked : Linked p m s)
    (room : s.connection.requests.toNat + 1 < UInt64.size) (name : String) (value : Value)
    (user : Bool) :
    Ends (setParameter name value user) s (Requested p s (.set user) name value) := by
  unfold setParameter
  apply (request_linked linked room (.set user) name value).bind
  · exact fun e t ended => ended
  · intro current t ended
    refine .step (run_note _ _ _ _) (.of_run (run_pure _ _) ?_)
    cases ended with
    | served spec tables linked few => exact .served spec tables (linked.noted _) few

theorem setParameters_linked (user : Bool) (values : List (String × Value))
    (named : ∀ pair ∈ values, checkName pair.1 = .ok ()) (linked : Linked p m s)
    (follows : first.Follows sends p.tables)
    (room : s.connection.requests.toNat + values.length < UInt64.size) :
    Ends (setParameters user values) s fun r t => t.connection.endpoint.phase = .active →
      r = .ok () ∧ ∃ p' m', Linked p' m' t ∧
        first.Follows (sends ++ values.map fun (name, value) => ⟨user, name, value⟩) p'.tables := by
  induction values generalizing p m s sends with
  | nil =>
    refine .of_run (run_pure _ _) fun _ => ⟨rfl, p, m, linked, ?_⟩
    rwa [List.map_nil, List.append_nil]
  | cons pair rest ih =>
    obtain ⟨name, value⟩ := pair
    have proper : checkName name = .ok () := named _ List.mem_cons_self
    rw [List.length_cons] at room
    unfold setParameters
    apply (setParameter_linked linked (by omega) name value user).bind
    · intro e t ended active
      cases ended with
      | refused invalid => exact absurd proper invalid
      | missed waiting =>
        rw [waiting] at active
        cases active
    · intro current t ended
      cases ended with
      | served spec tables linked few =>
        subst tables
        have rested := ih (fun pair member => named pair (List.mem_cons_of_mem _ member)) linked
          (follows.request spec) (by omega)
        rw [List.append_assoc] at rested
        exact rested

end Talk

namespace Command

def Solo : Command → Prop
  | robots moves => ∀ move ∈ moves, move.Solo
  | handshake _ _ | exchange _ | set _ _ _ | get _ _ _ | load _ _ _ | sense _ => True

def sent : Command → Except Error Unit → List Send
  | set name value user, .ok () => [⟨user, name, value⟩]
  | load _ file user, .ok () =>
    match loadValues file with
    | .ok values => values.map fun (name, value) => ⟨user, name, value⟩
    | .error _ => []
  | _, _ => []

theorem loadFile_waiting (path : String) (file : Config.File) (user : Bool)
    (waiting : s.connection.endpoint.phase = .waiting) :
    Ends (Talk.loadFile path file user) s fun _ t => t.connection.endpoint.phase = .waiting := by
  unfold Talk.loadFile
  cases loadValues file with
  | error cause => exact .halt (Talk.run_ofExcept _ _) waiting
  | ok values =>
    refine .step (Talk.run_ofExcept _ _) ?_
    cases values with
    | nil =>
      refine .step (run_pure _ _) (.step (Talk.run_note _ _ _ _) ?_)
      exact .of_run (run_pure _ _) waiting
    | cons pair rest =>
      have stopped : (Talk.setParameters user (pair :: rest)).run s =
          (.error (.channel (.turnViolation .write .waiting)), s) := by
        simp only [Talk.setParameters, run_bind, Talk.run_setParameter_waiting waiting]
      exact .halt stopped waiting

theorem ends_waiting (c : Command) (waiting : s.connection.endpoint.phase = .waiting) :
    Ends c.talk s fun _ t => t.connection.endpoint.phase = .waiting := by
  cases c with
  | handshake fuel keepWaiting =>
    have stays : Ends (Talk.handshake fuel keepWaiting) s fun _ t =>
        t.connection.endpoint.phase = .waiting := .halt (Talk.run_update_waiting waiting _) waiting
    exact stays.ignore.mono fun r t ⟨_, ended, _⟩ => ended
  | exchange mode => exact .halt (Talk.run_update_waiting waiting _) waiting
  | sense sensors => exact .of_run (Talk.run_update_waiting waiting _) waiting
  | robots moves => exact .of_run (run_modify _ _) waiting
  | set name value user => exact .halt (Talk.run_setParameter_waiting waiting name value user) waiting
  | get name kind user =>
    exact .halt (Talk.run_request_waiting waiting (.get user) name (.zero kind)) waiting
  | load path file user =>
    exact (loadFile_waiting path file user waiting).ignore.mono fun r t ⟨_, ended, _⟩ => ended

def Leaves (first : Tables) (sends : List Send) (t : Session Crew) : Prop :=
  t.connection.endpoint.phase = .active →
    ∃ p m, Linked p m t ∧ first.Follows sends p.tables

theorem leaves_of_linked (linked : Linked p m s) (follows : first.Follows sends p.tables) :
    Leaves first (sends ++ []) s :=
  fun _ => ⟨p, m, linked, (List.append_nil sends).symm ▸ follows⟩

theorem leaves_of_missed {asked : Message} {stage : Stage} (missed : Missed p asked stage s)
    (sends : List Send) : Leaves first sends s := by
  intro active
  rw [missed.waiting] at active
  cases active

theorem leaves_of_came {asked : Message} {stage : Stage} {t : Session Crew} (linked : Linked p m s)
    (follows : first.Follows sends p.tables) (settled : asked.Settled)
    (half : asked.toRobot.robotCode = m.toRobot.robotCode) (came : Came p asked stage t)
    (synced : ∃ m', Synced t m') : Leaves first (sends ++ []) t := by
  obtain ⟨p', m', later, same⟩ := linked.came settled half came synced
  exact leaves_of_linked later (same ▸ follows)

theorem leaves_of_requested {kind : RequestKind} {name : String} {value : Value}
    {r : Except Error Value} {t : Session Crew} (ended : Talk.Requested p s kind name value r t)
    (linked : Linked p m s) (follows : first.Follows sends p.tables) :
    Leaves first (sends ++ if r.isOk then Tables.sent kind name value else []) t := by
  cases ended with
  | refused => exact leaves_of_linked linked follows
  | missed waiting =>
    intro active
    rw [waiting] at active
    cases active
  | served spec tables later => exact fun _ => ⟨_, _, later, tables ▸ follows.request spec⟩

theorem loadFile_linked (path : String) {file : Config.File} (user : Bool) (linked : Linked p m s)
    (follows : first.Follows sends p.tables)
    (room : s.connection.requests.toNat + fileCost file < UInt64.size) :
    Ends (Talk.loadFile path file user) s fun r t =>
      Leaves first (sends ++ (load path file user).sent (r.map fun _ => ())) t := by
  unfold Talk.loadFile
  cases loaded : loadValues file with
  | error cause =>
    exact .halt (Talk.run_ofExcept _ _) (leaves_of_linked linked follows)
  | ok values =>
    rw [fileCost_of_loaded loaded] at room
    refine .step (Talk.run_ofExcept _ _) ?_
    apply (Talk.setParameters_linked user values (fun _ => loadValues_named loaded) linked
      follows room).bind
    · intro e t went active
      obtain ⟨failed, -⟩ := went active
      cases failed
    · intro _ t went
      refine .step (Talk.run_note _ _ _ _) (.of_run (run_pure _ _) fun active => ?_)
      obtain ⟨-, p', m', later, after⟩ := went active
      refine ⟨p', m', later.noted _, ?_⟩
      simp only [Except.map, sent, loaded]
      exact after

theorem ends_linked (c : Command) (linked : Linked p m s) (follows : first.Follows sends p.tables)
    (solo : c.Solo) (room : s.connection.requests.toNat + c.cost < UInt64.size) :
    Ends c.talk s fun r t => Leaves first (sends ++ c.sent r) t := by
  have after := Command.ends c linked.synced room
  have asking (mode : Mode) : (m.setMode mode).Settled := linked.settled.with_request rfl
  cases c with
  | handshake fuel keepWaiting =>
    refine ((Talk.handshake_deals linked.dealing fuel keepWaiting).ignore.and after).mono ?_
    rintro r t ⟨⟨r', ⟨stage, came | missed⟩, -⟩, m', later, -⟩
    · exact leaves_of_came linked follows (asking .idle) rfl came ⟨m', later⟩
    · exact leaves_of_missed missed _
  | exchange mode =>
    refine ((Talk.exchange_deals linked.dealing mode).and after).mono ?_
    rintro r t ⟨⟨came, -⟩ | ⟨missed, -⟩, m', later, -⟩
    · exact leaves_of_came linked follows (asking mode) rfl came ⟨m', later⟩
    · exact leaves_of_missed missed _
  | sense sensors =>
    have dealt : Ends (talk (.sense sensors)) s fun _ t =>
        Dealing p ⟨m.toSimulator, sensors.write m.toRobot⟩ .home t :=
      .of_run (Talk.run_update linked.active linked.dealing.content _) (linked.dealing.write _)
    refine (dealt.and after).mono ?_
    rintro r t ⟨dealing, m', later, -⟩
    exact leaves_of_linked (linked.of_dealing dealing ⟨m', later⟩ rfl rfl) follows
  | robots moves =>
    have dealt : Ends (talk (.robots moves)) s fun _ t => Dealing p m .home t :=
      .of_run (run_modify _ _) (linked.dealing.acts solo)
    refine (dealt.and after).mono ?_
    rintro r t ⟨dealing, m', later, -⟩
    exact leaves_of_linked (linked.of_dealing dealing ⟨m', later⟩ rfl rfl) follows
  | set name value user =>
    refine (Talk.setParameter_linked linked room name value user).ignore.mono ?_
    rintro r t ⟨r', ended, rfl⟩
    have left := leaves_of_requested ended linked follows
    cases r' with
    | error e => exact left
    | ok reported => exact left
  | get name kind user =>
    refine (Talk.request_linked linked room (.get user) name (.zero kind)).ignore.mono ?_
    rintro r t ⟨r', ended, rfl⟩
    have left := leaves_of_requested ended linked follows
    cases r' with
    | error e => exact left
    | ok reported => exact left
  | load path file user =>
    refine (loadFile_linked path user linked follows room).ignore.mono ?_
    rintro r t ⟨r', ended, rfl⟩
    exact ended

/-- The values that commands wrote, given what they came to. -/
def history (commands : List Command) (replies : List (Except Error Unit)) : List Send :=
  (commands.zip replies).flatMap fun (c, r) => c.sent r

theorem run_waiting (commands : List Command) (waiting : s.connection.endpoint.phase = .waiting) :
    (run commands s).2.connection.endpoint.phase = .waiting := by
  induction commands generalizing s with
  | nil => exact waiting
  | cons c rest ih =>
    rw [run_cons]
    exact ih (c.ends_waiting waiting)

theorem run_requests (commands : List Command) (synced : Synced s m)
    (room : s.connection.requests.toNat + total cost commands < UInt64.size) :
    (run commands s).2.connection.requests.toNat ≤
      s.connection.requests.toNat + total cost commands := by
  induction commands generalizing s m with
  | nil => exact Nat.le_refl _
  | cons c rest ih =>
    have shared : total cost (c :: rest) = c.cost + total cost rest := by simp [total]
    obtain ⟨m', later, few, -⟩ := c.ends synced (by omega)
    have fewer := ih later (by omega)
    rw [run_cons]
    dsimp only
    omega

/-- Any number of commands: if the turn is back in the end, it was back after each of them. -/
theorem run_linked (commands : List Command) (linked : Linked p m s)
    (follows : first.Follows sends p.tables) (solo : ∀ c ∈ commands, c.Solo)
    (room : s.connection.requests.toNat + total cost commands < UInt64.size)
    (active : (run commands s).2.connection.endpoint.phase = .active) :
    ∃ p' m', Linked p' m' (run commands s).2 ∧
      first.Follows (sends ++ history commands (run commands s).1) p'.tables := by
  induction commands generalizing p m s sends with
  | nil => exact ⟨p, m, linked, (List.append_nil sends).symm ▸ follows⟩
  | cons c rest ih =>
    have shared : total cost (c :: rest) = c.cost + total cost rest := by simp [total]
    obtain ⟨m', -, few, -⟩ := c.ends linked.synced (by omega)
    have leaves := c.ends_linked linked follows (solo c List.mem_cons_self) (by omega)
    rw [run_cons] at active ⊢
    obtain now | away := phase_cases (c.talk.run s).2.connection.endpoint
    · obtain ⟨p', m', linked, follows⟩ := leaves now
      obtain ⟨p'', m'', last, after⟩ := ih linked follows
        (fun c member => solo c (List.mem_cons_of_mem _ member)) (by omega) active
      rw [List.append_assoc] at after
      exact ⟨p'', m'', last, after⟩
    · rw [run_waiting rest away] at active
      cases active

end Command

end Lockstep.Simulator
