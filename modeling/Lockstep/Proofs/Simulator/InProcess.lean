import Lockstep.Proofs.Bridge.Outfit
import Lockstep.Proofs.Parameter.Covered
import Lockstep.Proofs.Simulator.Bench
import Lockstep.Proofs.Simulator.Meeting
import Lockstep.Proofs.Text.Utf8

/-! A whole run with a robot, beside one program that holds plant and controller.

The robot comes, both files are sent, the cycles go by, and the channel is taken
down. As long as every turn is served, nothing of that shows in the plant or in
the controller.
-/

set_option autoImplicit false

namespace Lockstep.Simulator

open Channel Message Parameter Bridge Effect Crew

variable {names : Names} {p : Program} {m : Message} {s : Session Crew}

/-- A robot that has taken all its parameters and has not run its controller. -/
def equipped (robot : Robot) (parameters user : Table) (stats : Stats) : Program :=
  ⟨robot, .stand { Controller.Stand.fresh with user := user }, parameters, true, false, stats⟩

theorem complete_equipped {parameters user : Table} (robot : Robot) (stats : Stats)
    (complete : parameters.requireComplete = .ok ()) (userComplete : user.requireComplete = .ok ()) :
    (equipped robot parameters user stats).requireComplete = .ok () := by
  unfold Program.requireComplete equipped
  dsimp only
  rw [complete]
  exact userComplete

theorem Bench.beside {robot : Robot} {parameters user : Table} {c : Controller.Stand}
    {stats : Stats} {d : Drill Crew} (fresh : c.iteration = 0)
    (prepares : ∀ input, (Plant.start robot).Shows input →
      (start robot user).controller.prepare robot input = (.ok (), c))
    (complete : parameters.requireComplete = .ok ()) (userComplete : user.requireComplete = .ok ())
    (abreast : Abreast (equipped robot parameters user stats) m d.session)
    (plant : d.plant = .start robot) (cycles : d.cycles = 0)
    (orders : m.toSimulator.orders = (default : Message).toSimulator.orders) :
    Beside parameters { (start robot user).sense with controller := c }
      (equipped robot parameters user stats) m d := by
  constructor
  case abreast => exact abreast
  case plant => exact plant
  case cycles => exact cycles
  case orders => exact orders
  case robot => rfl
  case parameters => rfl
  case drives =>
    intro input shows
    unfold Program.Drives
    rw [if_neg (by exact Bool.false_ne_true)]
    constructor
    · exact complete_equipped robot stats complete userComplete
    · exact Controller.prepare_stand (prepares input shows)
  case iterations => exact congrArg some fresh.symm

/-- Files that give each parameter of the robot and of its controller a value. -/
structure Supplied (settings : Config.SimulatorSettings) (files : Config.Files)
    (robotValues userValues : List (String × Value)) : Prop where
  robot : ∃ path, settings.robotParameters = some path ∧ loadValues (files path) = .ok robotValues
  user : ∃ path, settings.userParameters = some path ∧ loadValues (files path) = .ok userValues
  robotCovers : Table.robot.Covers robotValues
  userCovers : Controller.Stand.fresh.user.Covers userValues

theorem Supplied.askCost {settings : Config.SimulatorSettings} {files : Config.Files}
    {robotValues userValues : List (String × Value)}
    (supplied : Supplied settings files robotValues userValues) :
    Running.askCost settings files = robotValues.length + userValues.length := by
  obtain ⟨⟨robotPath, robotWanted, robotLoaded⟩, ⟨userPath, userWanted, userLoaded⟩, -, -⟩ := supplied
  rw [Running.askCost, robotWanted, userWanted, sendCost, sendCost, fileCost_of_loaded robotLoaded,
    fileCost_of_loaded userLoaded]

theorem Supplied.few {settings : Config.SimulatorSettings} {files : Config.Files}
    {robotValues userValues : List (String × Value)}
    (supplied : Supplied settings files robotValues userValues) :
    robotValues.length + userValues.length < UInt64.size := by
  obtain ⟨⟨robotPath, -, robotLoaded⟩, ⟨userPath, -, userLoaded⟩, robotCovers, userCovers⟩ := supplied
  have robotFew : robotValues.length ≤ 8 :=
    robotCovers.length_le (loadValues_distinct robotLoaded)
  have userFew : userValues.length ≤ 3 := userCovers.length_le (loadValues_distinct userLoaded)
  unfold UInt64.size
  omega

namespace Running

/-- Both files go to a robot that has come, and then the cycles go by. -/
theorem met_paces {settings : Config.SimulatorSettings} {files : Config.Files}
    {robotValues userValues : List (String × Value)} {n fuel : Nat} {d : Drill Crew} {stats : Stats}
    (supplied : Supplied settings files robotValues userValues) (enough : n < fuel)
    (abreast : Abreast
      { (Program.start settings.robot (.stand .fresh) .robot).accepted with stats := stats }
      m d.session)
    (orders : m.toSimulator.orders = (default : Message).toSimulator.orders)
    (plant : d.plant = .start settings.robot) (unrun : d.cycles = 0)
    (room : d.session.connection.requests.toNat + robotValues.length + userValues.length <
      UInt64.size) :
    Ends (do
      let robotCount ← sendFile files settings.robotParameters false
      let userCount ← sendFile files settings.userParameters true
      if ← cycles (fun _ => true) (some n) (.ofMicroseconds settings.period) fuel then
        return some (.finished (robotCount + userCount))
      return none : Running Crew (Option Progress)) d
      (Paces (Table.robot.apply robotValues).1
        (some (.finished (robotValues.length + userValues.length)))
        (Bench.run settings.robot (Table.robot.apply robotValues).1
          (Controller.Stand.fresh.user.apply userValues).1 (.ofMicroseconds settings.period) n)) := by
  obtain ⟨⟨robotPath, robotWanted, robotLoaded⟩, ⟨userPath, userWanted, userLoaded⟩, robotCovers,
    userCovers⟩ := supplied
  obtain ⟨parameters, applied, complete⟩ := robotCovers.apply Table.ordered_robot
  obtain ⟨user, userApplied, userComplete⟩ := userCovers.apply ordered_user
  rw [applied, userApplied, robotWanted, userWanted]
  dsimp only
  have space : d.session.connection.requests.toNat + robotValues.length < UInt64.size := by omega
  apply (talk_keeps (Talk.loadFile_goes robotPath robotLoaded applied abreast rfl space)).bind
  · rintro e t ⟨ended, -⟩
    cases ended with
    | away unserved => exact .away unserved
  rintro robotCount ⟨t, _, _⟩ ⟨ended, rfl, rfl⟩
  obtain ⟨⟩ | ⟨rfl, asked, m₁, abreast, same⟩ := ended
  have asked : t.connection.requests.toNat ≤
    d.session.connection.requests.toNat + robotValues.length := asked
  have space : t.connection.requests.toNat + userValues.length < UInt64.size := by omega
  apply (talk_keeps (Talk.loadFile_goes userPath userLoaded userApplied abreast rfl space)).bind
  · rintro e u ⟨ended, -⟩
    cases ended with
    | away unserved => exact .away unserved
  rintro userCount ⟨u, _, _⟩ ⟨ended, rfl, rfl⟩
  obtain ⟨⟩ | ⟨rfl, -, m₂, abreast, same'⟩ := ended
  -- The robot has its parameters now, and the simulator has not asked for a command yet.
  obtain ⟨c, fresh, prepared, prepares⟩ := Bench.prepare_ok settings.robot user
  have beside := Bench.beside fresh prepares complete userComplete abreast plant unrun
    (same'.trans (same.trans orders))
  have left : d.cycles + n = n := by rw [unrun, Nat.zero_add]
  have paced := cycles_paces beside left enough (.ofMicroseconds settings.period)
  rw [Bench.run, prepared]
  dsimp only
  generalize Bench.loop parameters _ n _ = ended at paced ⊢
  apply paced.bind
  · intro e v paces
    cases paces with
    | away unserved => exact .away unserved
    | fails plant cycles counted => exact .fails plant cycles counted
  · intro _ v paces
    cases paces with
    | goes beside => exact .of_run (run_pure _ _) (.goes beside)

theorem body_paces {settings : Config.SimulatorSettings} {files : Config.Files}
    {robotValues userValues : List (String × Value)} {n fuel : Nat} {d : Drill Crew}
    (valid : settings.channel.Valid) (supplied : Supplied settings files robotValues userValues)
    (budget : settings.iterations = some n) (enough : n < fuel)
    (unmet : Unmet settings.channel (.start settings.robot (.stand .fresh) .robot) m d.session)
    (declared : Robot.ofCode? m.toRobot.robotCode = some settings.robot)
    (orders : m.toSimulator.orders = (default : Message).toSimulator.orders)
    (plant : d.plant = .start settings.robot) (unrun : d.cycles = 0)
    (room : d.session.connection.requests.toNat + robotValues.length + userValues.length <
      UInt64.size) :
    Ends (body settings files (fun _ => true) fuel) d fun r e =>
      ¬ AllServed e.session ∧ (∀ count, r ≠ .ok (some (.finished count))) ∨
      Paces (Table.robot.apply robotValues).1
        (some (.finished (robotValues.length + userValues.length)))
        (Bench.run settings.robot (Table.robot.apply robotValues).1
          (Controller.Stand.fresh.user.apply userValues).1 (.ofMicroseconds settings.period) n)
        r e := by
  unfold body
  rw [budget]
  refine .step (run_get d) ?_
  apply (talk_keeps (Talk.sense_unmet unmet d.plant.request_feedback)).bind
  · rintro e t ⟨⟨went, -⟩, -⟩
    cases went
  rintro _ ⟨t, _, _⟩ ⟨⟨-, connection, unmet⟩, rfl, rfl⟩
  have accepts : (Program.start settings.robot (.stand .fresh) .robot).Accepts
      (Message.setMode ⟨m.toSimulator, d.plant.feedback m.toRobot⟩ .idle) := by
    right
    exact (congrArg Robot.ofCode? (d.plant.robotCode_feedback m.toRobot)).trans declared
  apply (talk_keeps (Talk.handshake_meets valid unmet accepts fuel _)).bind
  · rintro e u ⟨⟨unserved, -⟩ | ⟨went, -⟩, -⟩
    · exact .inl ⟨unserved, nofun⟩
    · cases went
  rintro answer ⟨u, _, _⟩ ⟨⟨unserved, other⟩ | ⟨went, few, m₁, stats, abreast, same⟩, rfl, rfl⟩
  · rcases answer with _ | _ | _
    · exact .of_run (run_pure _ _) (.inl ⟨unserved, nofun⟩)
    · refine .step (rfl : noteStop.run _ = (.ok (), _)) (.of_run (run_pure _ _) (.inl ⟨?_, nofun⟩))
      exact fun served => unserved ⟨served.lying, served.held⟩
    · exact absurd rfl other
  cases went
  dsimp only at connection few
  rw [connection] at few
  have space : u.connection.requests.toNat + robotValues.length + userValues.length <
    UInt64.size := by omega
  exact (met_paces supplied enough abreast (same.trans orders) plant unrun space).mono
    fun _ _ => .inr

end Running

namespace Headless

theorem conclude_unattended (valid : names.Valid) (mine : Mine names s) (synced : Synced s m)
    (cycles : Nat) :
    Ends (conclude .unattended cycles) s fun _ t => AllServed t → AllServed s := by
  unfold conclude
  refine .step (Talk.run_note _ _ _ _) ?_
  generalize (⟨.info, "Shutdown requested before the robot attached", _⟩ : Record) = record
  have mine := mine.later (synced.noted record) (.noted Talk.AnyMode s record)
  apply (Talk.close_serves valid mine).bind
  · exact fun _ _ ⟨_, _, kept⟩ served => ⟨(kept served).lying, (kept served).held⟩
  · intro _ t ⟨_, _, kept⟩
    exact .of_run (run_pure _ _) fun served => ⟨(kept served).lying, (kept served).held⟩

theorem conclude_finished (valid : names.Valid) (mine : Mine names s) (abreast : Abreast p m s)
    (parameters cycles : Nat) :
    Ends (conclude (.finished parameters) cycles) s (Goes fun summary t =>
      summary = ⟨true, parameters, cycles⟩ ∧ Runs p.controller t) := by
  unfold conclude
  refine .step (Talk.run_note _ _ _ _) ?_
  generalize (⟨.info, "Controller loop stopped", _⟩ : Record) = record
  have noted := abreast.noted record
  have mine := mine.later noted.synced (.noted Talk.AnyMode s record)
  apply (Talk.exit_serves valid mine noted).bind
  · intro e t ended
    cases ended with
    | away unserved => exact .away unserved
  · intro _ t ended
    cases ended with
    | went runs => exact .of_run (run_pure _ _) (.went ⟨rfl, runs⟩)

theorem checked_of_created {settings : Config.SimulatorSettings} {h : Headless}
    (created : create settings = .ok h) : h = start settings ∧ settings.invalid? = none := by
  unfold create at created
  split at created
  · cases created
  next checked =>
    cases created
    exact ⟨rfl, checked⟩

def aftermath (h : Headless) (result : Except Error (Option Progress)) (d : Drill Crew) :
    Option (Except Error Summary) × Headless × World Message Crew :=
  let h := { h with plant := d.plant, cycles := d.cycles }
  match result with
  | .error e => (some (.error e), h, (Talk.close.run d.session).2.world)
  | .ok none => (none, h, d.session.world)
  | .ok (some progress) =>
    let (r, s) := (conclude progress d.cycles).run d.session
    (some r, h, s.world)

/-- A run as it ends if nobody stops it and every turn is served, beside a bench: with the
same plant after as many cycles, and with what the controller says if it fails. -/
structure KeepsPace (n sent : Nat) (ended : Except Controller.Error Unit) (b : Bench)
    (r : Option (Except Error Summary)) (h : Headless) (crew : Crew) : Prop where
  plant : h.plant = b.plant
  cycles : h.cycles = b.cycles
  counted : Counted b crew
  finished : ended = .ok () → b.cycles = n ∧ r = some (.ok ⟨true, sent, n⟩)
  stalled : ∀ c, ended = .error c → b.cycles < n ∧
    r = some (.error (.robotStalled (some ("controller: " ++ c.message))))

section

variable {h : Headless} {result : Except Error (Option Progress)} {d : Drill Crew}

theorem aftermath_unserved (valid : names.Valid) (mine : Mine names d.session)
    (synced : Synced d.session m) (unserved : ¬ AllServed d.session)
    (other : ∀ count, result ≠ .ok (some (.finished count))) (c : Connection) :
    ¬ AllServed ⟨c, (h.aftermath result d).2.2⟩ := by
  intro served
  obtain e | _ | _ | count := result
  · obtain ⟨-, -, kept⟩ := Talk.close_serves valid mine
    exact unserved (kept ⟨served.lying, served.held⟩)
  · exact unserved ⟨served.lying, served.held⟩
  · have left := conclude_unattended valid mine synced d.cycles
    exact unserved (left ⟨served.lying, served.held⟩)
  · exact other count rfl

theorem aftermath_paces (valid : names.Valid) (mine : Mine names d.session) {parameters : Table}
    {n sent : Nat} {ended : Except Controller.Error Unit} {b : Bench}
    (paces : Paces parameters (some (.finished sent)) (ended, b) result d) (most : b.cycles ≤ n)
    (all : ended = .ok () ↔ b.cycles = n) (c : Connection)
    (served : AllServed ⟨c, (h.aftermath result d).2.2⟩) :
    KeepsPace n sent ended b (h.aftermath result d).1 (h.aftermath result d).2.1
      (h.aftermath result d).2.2.peer := by
  cases paces with
  | away unserved =>
    obtain ⟨-, -, kept⟩ := Talk.close_serves valid mine
    exact absurd (kept ⟨served.lying, served.held⟩) unserved
  | fails plant cycles counted =>
    obtain ⟨-, crew, -⟩ := Talk.close_serves valid mine
    constructor
    case plant => exact plant
    case cycles => exact cycles
    case counted => rwa [← crew] at counted
    case finished => nofun
    case stalled =>
      rintro _ ⟨⟩
      have short : b.cycles ≠ n := fun same => nomatch all.mpr same
      exact ⟨Nat.lt_of_le_of_ne most short, rfl⟩
  | goes beside =>
    have left := conclude_finished valid mine beside.abreast sent d.cycles
    unfold Ends at left
    unfold aftermath at served ⊢
    dsimp only at served ⊢
    generalize (conclude (.finished sent) d.cycles).run d.session = ending at left served ⊢
    obtain ⟨r, t⟩ := ending
    cases left with
    | away unserved => exact absurd ⟨served.lying, served.held⟩ unserved
    | went left =>
      obtain ⟨rfl, mate, only, program⟩ := left
      have went := all.mp rfl
      constructor
      case plant => exact beside.plant
      case cycles => exact beside.cycles
      case counted => exact ⟨mate, only, program ▸ beside.iterations⟩
      case finished =>
        intro _
        rw [beside.cycles, went]
        exact ⟨rfl, rfl⟩
      case stalled => nofun

end

/-- A run over a channel on which every turn is served comes to what the same plant and
controller come to in one program. -/
theorem run_is_in_process {settings : Config.SimulatorSettings} {h : Headless}
    (created : create settings = .ok h) (free : settings.channel.region ∉ directoryNames)
    {files : Config.Files}
    {robotValues userValues : List (String × Value)}
    (supplied : Supplied settings files robotValues userValues)
    {n fuel : Nat} (budget : settings.iterations = some n) (enough : n < fuel)
    {space : Space Message} {plan : List (List Move)}
    (expects : Expects settings.channel (.start settings.robot (.stand .fresh) .robot) plan)
    {journal : Journal} {r : Option (Except Error Summary)} {h' : Headless}
    {w : World Message Crew}
    (ran : h.run fuel files (fun _ => true)
      ⟨space, .start (h.connected space).endpoint.objects plan, journal⟩ = (r, h', w))
    (served : AllServed ⟨h.connected space, w⟩) {ended : Except Controller.Error Unit} {b : Bench}
    (bench : Bench.run settings.robot (Table.robot.apply robotValues).1
      (Controller.Stand.fresh.user.apply userValues).1 (.ofMicroseconds settings.period) n =
        (ended, b)) :
    KeepsPace n (robotValues.length + userValues.length) ended b r h' w.peer := by
  obtain ⟨rfl, checked⟩ := checked_of_created created
  have valid : settings.channel.Valid := valid_of_checked (h := start settings) checked free
  obtain ⟨noted, ⟨result, d⟩, bodied, came⟩ :=
    @run_cases (start settings) fuel files (fun _ => true) space plan journal valid
  have gone : (start settings).aftermath result d = (r, h', w) := came.symm.trans ran
  have synced : Synced ((start settings).drill space plan noted).session
    (opening settings.robot) := .opened _ _ _ _ _ _
  have unmet : Unmet settings.channel (.start settings.robot (.stand .fresh) .robot)
    (opening settings.robot) ((start settings).drill space plan noted).session :=
    ⟨synced, rfl, .opened valid _ _ _ _, expects⟩
  have declared : Robot.ofCode? (opening settings.robot).toRobot.robotCode = some settings.robot :=
    Robot.ofCode?_code _
  have room : (0 : UInt64).toNat + robotValues.length + userValues.length < UInt64.size := by
    rw [UInt64.toNat_zero, Nat.zero_add]
    exact supplied.few
  have cost : (0 : UInt64).toNat + Running.askCost settings files < UInt64.size := by
    rw [supplied.askCost, ← Nat.add_assoc]
    exact room
  have paces := Running.body_paces valid supplied budget enough unmet declared rfl rfl rfl room
  have ends := Running.body_ends settings files (fun _ => true) fuel synced rfl cost
  change (Running.body settings files (fun _ => true) fuel).run _ = (result, d) at bodied
  unfold Ends at paces ends
  rw [bodied] at paces ends
  obtain ⟨m, after, later, -⟩ := ends
  have mine := (mine_drill valid noted).later after later
  obtain ⟨most, all⟩ := Bench.cycles_run bench
  rw [bench] at paces
  have same : w = ((start settings).aftermath result d).2.2 := by rw [gone]
  rw [same] at served
  obtain ⟨unserved, other⟩ | paces := paces
  · exact absurd served (aftermath_unserved valid mine after unserved other _)
  · have kept := aftermath_paces valid mine paces most all _ served
    rw [gone] at kept
    exact kept

-- A robot that takes eleven parameters and runs its controller once.

def paragraph (name kind value : String) : List Char :=
  "[parameters.".toList ++ name.toList ++ "]\nkind=\"".toList ++ kind.toList ++
    "\"\nvalue=".toList ++ value.toList ++ ['\n']

def robotText : List Char :=
  paragraph "controller_dt" "double" "0.002" ++ paragraph "control_mode" "s64" "0" ++
    paragraph "cheater_mode" "s64" "0" ++ paragraph "stand_kp_joint" "vec3_double" "[5,5,5]" ++
    paragraph "stand_kd_joint" "vec3_double" "[1,1,1]" ++
    paragraph "imu_process_noise_position" "double" "0.02" ++
    paragraph "foot_sensor_noise_position" "double" "0.001" ++ paragraph "use_rc" "s64" "0"

def userText : List Char :=
  paragraph "home_pose" "vec3_double" "[0,-1,2]" ++ paragraph "max_torque" "float" "20" ++
    paragraph "blend_iterations" "s64" "3"

def robotValues : List (String × Value) :=
  [("cheater_mode", .s64 0), ("control_mode", .s64 0), ("controller_dt", .double 0.002),
    ("foot_sensor_noise_position", .double 0.001), ("imu_process_noise_position", .double 0.02),
    ("stand_kd_joint", .vec3Double #v[1.0, 1.0, 1.0]),
    ("stand_kp_joint", .vec3Double #v[5.0, 5.0, 5.0]), ("use_rc", .s64 0)]

def userValues : List (String × Value) :=
  [("blend_iterations", .s64 3), ("home_pose", .vec3Double #v[0.0, .ofInt (-1), 2.0]),
    ("max_torque", .float 20.0)]

def twoFiles : Config.Files := fun path =>
  .content (Text.Utf8.encode (.ofList (if path = "robot.toml" then robotText else userText)))

def lone : Config.SimulatorSettings :=
  { Config.SimulatorSettings.standard .miniCheetah with
    robotParameters := some "robot.toml", userParameters := some "user.toml", iterations := some 1 }

/-- The robot comes with the first turn; eleven turns later it runs its controller, and then goes. -/
def fourteenTurns : List (List Move) :=
  let turn := [.take 0, .serve 0]
  (.join .standard (.start .miniCheetah (.stand .fresh) .robot) :: turn) :: .replicate 13 turn

theorem document_ofList (cs : List Char) :
    (Config.File.content (Text.Utf8.encode (.ofList cs))).document =
      match Toml.parse? (.ofList cs) with
      | some document => .ok document
      | none => .error .unparsable := by
  have decoded := Text.Utf8.decode_encode (.ofList cs)
  unfold Config.File.document
  dsimp only
  generalize Text.Utf8.decode _ = text at decoded ⊢
  subst decoded
  rfl

theorem parse_ofList (cs : List Char) : Toml.parse? (.ofList cs) =
    let cs := Toml.dropMark cs
    if Toml.isLegal cs then
      (Toml.statements? (cs.length + 1) [] (.table false false []) cs).map Toml.Node.toValue
    else none := by
  unfold Toml.parse?
  rw [String.toList_ofList]

theorem twoFiles_loaded : loadValues (twoFiles "robot.toml") = .ok robotValues ∧
    loadValues (twoFiles "user.toml") = .ok userValues := by
  unfold twoFiles
  rw [if_pos rfl, if_neg (by decide)]
  constructor
  · rw [loadValues, Config.File.load, document_ofList, parse_ofList]
    decide +kernel
  · rw [loadValues, Config.File.load, document_ofList, parse_ofList]
    decide +kernel

theorem lone_ends {files : Config.Files} (robot : loadValues (files "robot.toml") = .ok robotValues)
    (user : loadValues (files "user.toml") = .ok userValues) :
    let ended := trial lone files (fun _ => true) fourteenTurns
    ended.1 = some (.ok ⟨true, 11, 1⟩) ∧ AllServed ⟨(start lone).connected .empty, ended.2.2⟩ ∧
      ended.2.2.peer.mates.length = 1 ∧ ended.2.2.peer.deserted = false := by
  simp only [trial, run, Running.body, Running.sendFile, lone, start,
    Config.SimulatorSettings.standard, Talk.loadFile, robot, user]
  decide +kernel

/-- Plant and controller go through one cycle, in one program and over a channel. -/
theorem lone_robot_keeps_pace : ∃ r h w b,
    trial lone twoFiles (fun _ => true) fourteenTurns = (r, h, w) ∧
      Bench.run .miniCheetah (Table.robot.apply robotValues).1
        (Controller.Stand.fresh.user.apply userValues).1 (.ofMicroseconds lone.period) 1 =
          (.ok (), b) ∧
      r = some (.ok ⟨true, 11, 1⟩) ∧ h.plant = b.plant ∧ Counted b w.peer := by
  obtain ⟨robotLoaded, userLoaded⟩ := twoFiles_loaded
  have supplied : Supplied lone twoFiles robotValues userValues := by
    constructor
    case robot => exact ⟨_, rfl, robotLoaded⟩
    case user => exact ⟨_, rfl, userLoaded⟩
    case robotCovers => decide +kernel
    case userCovers => decide +kernel
  have expects : Expects lone.channel (.start lone.robot (.stand .fresh) .robot) fourteenTurns := by
    have solo : ∀ move ∈ [Move.take 0, .serve 0], move.Solo :=
      List.forall_mem_cons.mpr ⟨trivial, List.forall_mem_singleton.mpr trivial⟩
    apply Expects.now solo
    intro moves member
    rw [List.eq_of_mem_replicate member]
    exact solo
  have created : create lone = .ok (start lone) := by decide +kernel
  have served := (lone_ends robotLoaded userLoaded).2.1
  rcases ran : trial lone twoFiles (fun _ => true) fourteenTurns with ⟨r, h, w⟩
  rw [ran] at served
  have went : (Bench.run .miniCheetah (Table.robot.apply robotValues).1
      (Controller.Stand.fresh.user.apply userValues).1 (.ofMicroseconds lone.period) 1).1 =
        .ok () := by
    decide +kernel
  rcases bench : Bench.run .miniCheetah (Table.robot.apply robotValues).1
    (Controller.Stand.fresh.user.apply userValues).1 (.ofMicroseconds lone.period) 1 with ⟨ended, b⟩
  rw [bench] at went
  obtain rfl : ended = .ok () := went
  unfold trial at ran
  dsimp only at ran
  have paced := run_is_in_process created (by decide) supplied rfl (by decide : 1 < 8) expects ran
    served bench
  exact ⟨r, h, w, b, rfl, rfl, (paced.finished rfl).2, paced.plant, paced.counted⟩

end Headless

end Lockstep.Simulator
