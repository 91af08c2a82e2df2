import Lockstep.Bridge.Responder
import Lockstep.Proofs.Simulator.Streamed

/-! A parameter file that a simulator sends, beside one that the robot loads itself.

The two ways have the reading of the file in common and nothing else. They leave
the same table, and what stops one of them stops the other at the same value.
-/

set_option autoImplicit false

namespace Lockstep

open Channel Message Parameter Bridge Effect Crew

namespace Bridge

variable {t t' : Table} {file : Config.File} {values : List (String × Value)}

theorem loadFile_unread {cause : Parameter.Error} (unread : loadValues file = .error cause)
    (t : Table) (path : String) : loadFile t path file = (.error (.parameter cause), t, []) := by
  rw [loadFile, unread]

theorem loadFile_read (loaded : loadValues file = .ok values) {r : Except Table.Refusal Unit}
    (applied : t.apply values = (t', r)) (path : String) :
    (loadFile t path file).1 = r.mapError .table ∧ (loadFile t path file).2.1 = t' := by
  unfold loadFile
  simp only [loaded, applied]
  cases r with
  | error refusal => exact ⟨rfl, rfl⟩
  | ok _ => exact ⟨rfl, rfl⟩

end Bridge

namespace Simulator

/-- One robot on the channel that has confirmed its simulator, which has the turn. Nobody
else is about to come. -/
structure Coupled (mate : Mate) (s : Session Crew) : Prop where
  phase : s.connection.endpoint.phase = .active
  mates : s.world.peer.mates = [mate]
  waiting : mate.bridge.endpoint.phase = .waiting
  confirmed : mate.bridge.program.confirmed = true
  solo : ∀ moves ∈ s.world.peer.plan, ∀ move ∈ moves, move.Solo

/-- What came of sending values, beside what the robot's table made of them. -/
structure Agrees (user : Bool) (t : Table) (values : List (String × Value)) (mate : Mate)
    (s : Session Crew) (loaded : Except Bridge.Error Unit × Table) (r : Except Error Nat)
    (mate' : Mate) (s' : Session Crew) : Prop where
  mates : s'.world.peer.mates = [mate']
  table : mate'.bridge.program.tables.table? user = some loaded.2
  other : mate'.bridge.program.tables.table? (!user) = mate.bridge.program.tables.table? (!user)
  -- The first error that the robot raised since, if there is one.
  raised : ∃ new, s'.world.peer.raised = s.world.peer.raised ++ new ∧
    ∀ e, loaded.1 = .error e ↔ new.head? = some e
  sent : loaded.1 = .ok () ↔ r = .ok values.length
  turns : loaded.1 = .ok () → mate'.bridge.program.stats.parameterTurns =
    mate.bridge.program.stats.parameterTurns + values.length
  -- Both stop at the same value, after the same values.
  stopped : ∀ e, loaded.1 = .error e → ∃ sent name value rest number text,
    values = sent ++ (name, value) :: rest ∧ t.apply sent = (loaded.2, .ok ()) ∧
    (loaded.2.set name value).mapError .table = .error e ∧
    r = .error (.notAcknowledged name number text) ∧
    number.toNat = s.connection.requests.toNat + sent.length + 1 ∧
    mate'.bridge.program.stats.parameterTurns =
      mate.bridge.program.stats.parameterTurns + sent.length

variable {m : Message} {s s' : Session Crew} {mate : Mate} {user : Bool} {t : Table}

theorem Coupled.abreast (coupled : Coupled mate s) (synced : Synced s m) :
    Abreast mate.bridge.program m s :=
  ⟨synced.dealing coupled.phase coupled.mates coupled.waiting coupled.solo, synced,
    coupled.confirmed⟩

/-- Sending values ends as the table's own writes do, with as many turns as values were taken. -/
theorem Talk.Streams.agrees {values : List (String × Value)} {r : Except Error Nat}
    (streams : Streams mate.bridge.program m s user t values (r.map fun _ => ()) s')
    (counts : ∀ count, r = .ok count → count = values.length) (served : AllServed s')
    (own : mate.bridge.program.tables.table? user = some t) {file : Config.File}
    (loaded : loadValues file = .ok values) (path : String) :
    ∃ mate', Agrees user t values mate s
      ((Bridge.loadFile t path file).1, (Bridge.loadFile t path file).2.1) r mate' s' := by
  generalize ended : (r.map fun _ => () : Except Error Unit) = r' at streams
  cases streams with
  | away unserved => exact absurd served unserved
  | @sent t' m' _ applied later orders quiet =>
    obtain ⟨ok, table⟩ := loadFile_read loaded applied path
    obtain ⟨mate', only, stands⟩ := later.dealing.paired.mate
    have program : mate'.bridge.program = mate.bridge.program.streamed user t' values.length :=
      stands.program
    obtain ⟨own', other⟩ := Program.table?_streamed own t' values.length
    obtain ⟨count, went, -⟩ := map_ok ended
    rw [counts count went] at went
    rw [ok, table]
    refine ⟨mate', ?_⟩
    constructor
    case mates => exact only
    case table => rwa [program]
    case other => rw [program, other]
    case raised =>
      refine ⟨[], by rw [quiet, List.append_nil], fun e => ?_⟩
      constructor
      · nofun
      · nofun
    case sent => exact ⟨fun _ => went, fun _ => rfl⟩
    case turns =>
      intro _
      rw [program]
      exact Stats.parameterTurns_answering _ _
    case stopped => nofun
  | @refused sent rest name value t' refusal number text _ split applied refused fallen counted =>
    subst split
    obtain ⟨failed, table⟩ := loadFile_read loaded (Table.apply_refused applied refused rest) path
    obtain ⟨⟨mate', only, program⟩, more, raised⟩ := fallen
    obtain ⟨own', other⟩ := Program.table?_streamed own t' sent.length
    have went := map_error ended
    rw [failed, table]
    refine ⟨mate', ?_⟩
    constructor
    case mates => exact only
    case table => rwa [program]
    case other => rw [program, other]
    case raised =>
      refine ⟨_, raised, fun e => ?_⟩
      rw [List.head?_cons]
      constructor
      · intro same
        cases same
        rfl
      · intro same
        cases same
        rfl
    case sent =>
      constructor
      · nofun
      · intro ok
        cases went.symm.trans ok
    case turns => nofun
    case stopped =>
      intro e same
      cases same
      refine ⟨sent, name, value, rest, number, text, rfl, applied, ?_, went, counted, ?_⟩
      · rw [refused]
        rfl
      · rw [program]
        exact Stats.parameterTurns_answering _ _

/-- Sending a parameter file to a robot and loading it on the robot come to the
same, whatever is in the file and in the table. -/
theorem sending_is_loading {σ : Type} {names : Names} {robot : Robot} {options : Options}
    {exclusive : Bool} {w w' : World Message σ} {c : Connection}
    (created : (Connection.create names robot options exclusive).run w = (.ok c, w'))
    (plan : List (List Move)) (journal : Journal) {before : List Command}
    {told : List (Except Error Unit)}
    (came : Command.run before ⟨c, ⟨w'.space, .start c.endpoint.objects plan, journal⟩⟩ = (told, s))
    (coupled : Coupled mate s) (own : mate.bridge.program.tables.table? user = some t)
    (path : String) (file : Config.File)
    (lasts : total Command.cost before + fileCost file < UInt64.size) :
    let (loaded, t', records) := Bridge.loadFile t path file
    let (r, s') := (Talk.loadFile path file user).run s
    match loadValues file with
    | .error cause => loaded = .error (.parameter cause) ∧ t' = t ∧ records = [] ∧
        r = .error (.parameter cause) ∧ s' = s
    | .ok values => AllServed s' → ∃ mate', Agrees user t values mate s (loaded, t') r mate' s' := by
  obtain ⟨rfl, space, -⟩ := Connection.create_ok created
  rw [space] at came
  have opened := Synced.opened w.space names robot options plan journal
  have room : (0 : UInt64).toNat + total Command.cost before < UInt64.size := by
    rw [UInt64.toNat_zero]
    omega
  obtain ⟨⟨m, synced⟩, -⟩ := Command.run_ends before opened room
  have few := Command.run_requests before opened room
  rw [came] at synced few
  have few : s.connection.requests.toNat ≤ (0 : UInt64).toNat + total Command.cost before := few
  rw [UInt64.toNat_zero] at few
  cases read : loadValues file with
  | error cause =>
    rw [loadFile_unread read]
    have refused : (Talk.loadFile path file user).run s = (.error (.parameter cause), s) := by
      simp only [Talk.loadFile, read, run_bind, Talk.run_ofExcept, Except.mapError]
    rw [refused]
    exact ⟨rfl, rfl, rfl, rfl, rfl⟩
  | ok values =>
    intro served
    have abreast := coupled.abreast synced
    obtain ⟨streams, counts⟩ := Talk.loadFile_streams path read abreast own (by omega)
    exact streams.agrees counts served own read path

/-- A value of the wrong kind comes after one that is right. -/
theorem wrong_kind_stops_both :
    let program := Program.start .miniCheetah (.stand .fresh) .robot
    let turn := [Move.take 0, .serve 0]
    let c := Connection.created .empty .standard .miniCheetah .standard
    let met := Command.run [.handshake 1 fun _ _ => false]
      ⟨c, ⟨opened .empty .standard .miniCheetah, .start c.endpoint.objects
        [.join .standard program :: turn, turn, turn], #[]⟩⟩
    let file : Config.File := .content ("[parameters.controller_dt]\nkind=\"double\"\nvalue=0.002\n" ++
      "[parameters.use_rc]\nkind=\"float\"\nvalue=1\n").toUTF8.toList
    let loaded := Bridge.loadFile .robot "robot.toml" file
    let sent := (Talk.loadFile "robot.toml" file false).run met.2
    loaded.1 = .error (.table (.mismatch "use_rc" .s64 .float)) ∧ AllServed sent.2 ∧
      ∃ mate mate' values, Coupled mate met.2 ∧
        Agrees false .robot values mate met.2 (loaded.1, loaded.2.1) sent.1 mate' sent.2 := by
  intro program turn c met file loaded sent
  obtain ⟨mate, one⟩ : ∃ mate, met.2.world.peer.mates = [mate] :=
    List.length_eq_one_iff.mp (by decide +kernel)
  have known : ∀ mate ∈ met.2.world.peer.mates, mate.bridge.endpoint.phase = .waiting ∧
      mate.bridge.program.confirmed = true ∧
      mate.bridge.program.tables.table? false = some .robot := by
    decide +kernel
  obtain ⟨waiting, confirmed, own⟩ := known mate (one ▸ List.mem_singleton_self mate)
  have planned : met.2.world.peer.plan = [turn, turn] := by decide +kernel
  have coupled : Coupled mate met.2 := by
    constructor
    case phase => decide +kernel
    case mates => exact one
    case waiting => exact waiting
    case confirmed => exact confirmed
    case solo =>
      rw [planned]
      intro moves member move inside
      simp only [List.mem_cons, List.not_mem_nil, or_false, or_self] at member
      subst member
      simp only [turn, List.mem_cons, List.not_mem_nil, or_false] at inside
      obtain rfl | rfl := inside
      · trivial
      · trivial
  let values : List (String × Value) := [("controller_dt", .double 0.002), ("use_rc", .float .one)]
  have read : loadValues file = .ok values := by decide +kernel
  have cost : fileCost file = 2 := fileCost_of_loaded read
  have applied : (Table.robot.apply values).2 = .error (.mismatch "use_rc" .s64 .float) := by
    decide +kernel
  have valid := Names.valid_standard
  obtain ⟨journal, created⟩ :=
    Connection.create_forced valid .miniCheetah .standard (⟨.empty, (), #[]⟩ : World Message Unit)
  have compared := sending_is_loading created _ #[] (Prod.mk.eta (p := met)).symm coupled own
    "robot.toml" file (by rw [cost]; decide)
  have served : AllServed sent.2 := by decide +kernel
  refine ⟨?_, served, mate, ?_⟩
  · have ended : Table.robot.apply values = (_, .error (.mismatch "use_rc" .s64 .float)) :=
      Prod.ext rfl applied
    exact (loadFile_read read ended "robot.toml").1
  · simp only [read] at compared
    obtain ⟨mate', agrees⟩ := compared served
    exact ⟨mate', values, coupled, agrees⟩

end Simulator

end Lockstep
