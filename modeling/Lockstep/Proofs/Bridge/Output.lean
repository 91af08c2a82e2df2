import Lockstep.Proofs.Bridge.Applied
import Lockstep.Proofs.Bridge.Failure

/-! What a turn writes into the robot's half of the message, mode by mode.

A turn that runs the controller commands the legs and draws; one that answers a
request writes the response; the fault text belongs to turns that failed. All of
them sign with the robot that the program was launched as.
-/

set_option autoImplicit false

namespace Lockstep

open Channel Message Parameter Effect

namespace Message

structure Scene where
  spi : SpiCommand
  boards : PerLeg BoardCommand
  drawing : Drawing
  pose : BodyPose

def ToSimulator.scene (output : ToSimulator) : Scene :=
  ⟨output.spi, output.boards, output.drawing, output.pose⟩

end Message

namespace Bridge

namespace Turn

structure Silent (t t' : Turn) : Prop where
  robot : t'.program.robot = t.program.robot
  output : t'.output = t.output

instance : IsPreorder Turn Silent where
  refl _ := ⟨rfl, rfl⟩
  trans _ _ _ first second :=
    ⟨second.robot.trans first.robot, second.output.trans first.output⟩

theorem silent_note (level : Level) (message : String) (fields : List (String × FieldValue)) :
    Within Silent (note level message fields) := Within.modify fun _ => ⟨rfl, rfl⟩

theorem silent_ofExcept {β : Type} (r : Except Error β) : Within Silent (ofExcept r) :=
  Within.of_same fun _ => rfl

theorem silent_confirm (declared : UInt32) : Within Silent (confirm declared) := by
  intro t
  obtain ⟨records, ran⟩ | ran := run_confirm declared t
  · exact .of_run ran ⟨rfl, rfl⟩
  · exact .of_run ran ⟨rfl, rfl⟩

theorem silent_prepare (input : ToRobot) : Within Silent (prepare input) := by
  have finished : Within Silent (modify fun t =>
      { t with program := { t.program with ready := true } } : Serving Unit) :=
    Within.modify fun _ => ⟨rfl, rfl⟩
  unfold prepare
  refine Within.get.bind fun t => (silent_ofExcept _).bind fun _ => ?_
  generalize t.program.controller.prepare t.program.robot input = prepared
  obtain ⟨result, controller⟩ := prepared
  dsimp only
  split
  case' h_1 => refine (Within.pure _).bind fun _ => ?_
  case' h_2 => refine (silent_ofExcept _).bind fun _ => (Within.pure _).bind fun _ => ?_
  -- The rest is the same with parameters of the controller's own and without.
  all_goals
    refine (silent_note _ _ _).bind fun _ => (Within.modify fun _ => ⟨rfl, rfl⟩).bind fun _ =>
      (silent_ofExcept _).bind fun _ => ?_
    split
    · exact (silent_note _ _ _).bind fun _ => finished
    · exact finished

structure Performs (t t' : Turn) : Prop where
  robot : t'.program.robot = t.program.robot
  robotCode : t'.output.robotCode = t.output.robotCode
  report : t'.output.report = t.output.report

instance : IsPreorder Turn Performs where
  refl _ := ⟨rfl, rfl, rfl⟩
  trans _ _ _ first second :=
    ⟨second.robot.trans first.robot, second.robotCode.trans first.robotCode,
      second.report.trans first.report⟩

theorem Silent.performs {t t' : Turn} (silent : Silent t t') : Performs t t' :=
  ⟨silent.robot, by rw [silent.output], by rw [silent.output]⟩

theorem performs_runController (input : ToRobot) : Within Performs (runController input) := by
  have performs (t : Turn) : Performs t
      { t with
        program :=
          { t.program with
            controller := (t.program.controller.run t.program.robot t.program.parameters input
              t.output).2.1 }
        output := (t.program.controller.run t.program.robot t.program.parameters input
          t.output).2.2 } :=
    ⟨rfl, Controller.robotCode_run _ _ _ _ _, Controller.report_run _ _ _ _ _⟩
  have prepares : Within Performs (prepare input) := fun t =>
    (silent_prepare input t).mono fun _ _ silent => silent.performs
  unfold runController
  refine Within.get.bind fun t => ?_
  split
  case' isTrue => refine prepares.bind fun _ => ?_
  -- The iteration is the same with preparing before it and without.
  all_goals
    refine Within.get_bind fun t => .step (run_set _ t) ?_
    exact .of_run (run_ofExcept _ _) (performs t)

theorem applyParameters_writes (input : ToRobot) (t : Turn) :
    Ends (applyParameters input) t fun _ t' => t'.program.robot = t.program.robot ∧
      t'.output = { t.output with response := t'.output.response } := by
  unfold applyParameters
  refine .step (run_get t) ?_
  cases responded : respond input.request t.output.response t.program.parameters
      t.program.controller.user? with
  | error e => exact .halt (t := t) (e := e) (by simp only [responded, run_ofExcept]) ⟨rfl, rfl⟩
  | ok answer =>
    refine .step (t := t) (a := answer) (by simp only [responded, run_ofExcept]) ?_
    exact .of_run (run_set _ t) ⟨rfl, rfl⟩

end Turn

/-- What a turn of a program has written over the half of a message, however it ended. -/
structure Program.Writes (p : Program) (m : Message) (r : Except Error Mode)
    (output : ToSimulator) : Prop where
  response : output.response ≠ m.toSimulator.response →
    m.mode? = some .applyParameters ∧
      ∃ kind name valueKind, Fresh m.toRobot.request m.toSimulator.response kind name valueKind
  scene : output.scene ≠ m.toSimulator.scene → m.mode? = some .runController
  fault : output.fault ≠ m.toSimulator.fault → ∃ e, r = .error e
  signed : output.robotCode = p.robot.code ∨
    output.robotCode = m.toSimulator.robotCode ∧ ∃ e, r = .error e

namespace Turn

structure Opened (p : Program) (m : Message) (t : Turn) : Prop where
  robot : t.program.robot = p.robot
  output : t.output = { m.toSimulator with robotCode := p.robot.code }

structure Signs (p : Program) (m : Message) (r : Except Error Mode) (t : Turn) : Prop where
  robot : t.program.robot = p.robot
  scene : t.output.scene ≠ m.toSimulator.scene → m.mode? = some .runController
  signed : t.output.robotCode = p.robot.code ∨
    t.output.robotCode = m.toSimulator.robotCode ∧ ∃ e, r = .error e

theorem Opened.signs {p : Program} {m : Message} {t t' : Turn} (opened : Opened p m t)
    (robot : t'.program.robot = t.program.robot) (code : t'.output.robotCode = t.output.robotCode)
    (scene : t'.output.scene ≠ t.output.scene → m.mode? = some .runController)
    (r : Except Error Mode) : Signs p m r t' := by
  have kept : t.output.scene = m.toSimulator.scene := by
    rw [opened.output]
    rfl
  refine ⟨robot.trans opened.robot, fun differs => scene ?_, .inl ?_⟩
  · rw [kept]
    exact differs
  · rw [code, opened.output]

theorem serve_signs (p : Program) (m : Message) :
    Ends (serve m.toRobot) ⟨p, m.toSimulator, []⟩ (Signs p m) := by
  unfold serve
  apply (silent_confirm m.toRobot.robotCode ⟨p, m.toSimulator, []⟩).bind
  · intro e t silent
    exact ⟨silent.robot, fun differs => absurd (by rw [silent.output]) differs,
      .inr ⟨by rw [silent.output], e, rfl⟩⟩
  intro _ t silent
  refine .step (run_modify _ t) ?_
  have opened : Opened p m
      { t with output := { t.output with robotCode := t.program.robot.code } } :=
    ⟨silent.robot, by rw [silent.output, silent.robot]⟩
  generalize ({ t with output := _ } : Turn) = t at opened
  have kept {t' : Turn} (r : Except Error Mode) (silent : Silent t t') : Signs p m r t' :=
    opened.signs silent.robot (by rw [silent.output])
      (fun differs => absurd (by rw [silent.output]) differs) r
  unfold decodeMode
  cases decoded : Mode.ofCode? m.toRobot.modeCode with
  | none => exact .halt (run_throw _ t) (kept _ (refl t))
  | some mode =>
    refine .step (run_pure mode t) ?_
    cases mode with
    | applyParameters =>
      have written {t' : Turn} (r : Except Error Mode) (robot : t'.program.robot = t.program.robot)
          (output : t'.output = { t.output with response := t'.output.response }) :
          Signs p m r t' := by
        refine opened.signs robot ?_ (fun differs => absurd ?_ differs) r
        · rw [output]
        · rw [output]
          rfl
      apply (applyParameters_writes m.toRobot t).bind
      · exact fun e t' ⟨robot, output⟩ => written _ robot output
      · exact fun _ t' ⟨robot, output⟩ => .of_run (run_pure _ _) (written _ robot output)
    | runController =>
      have performed {t' : Turn} (r : Except Error Mode) (performs : Performs t t') :
          Signs p m r t' := opened.signs performs.robot performs.robotCode (fun _ => decoded) r
      apply (performs_runController m.toRobot t).bind
      · exact fun e t' performs => performed _ performs
      · exact fun _ t' performs => .of_run (run_pure _ _) (performed _ performs)
    | idle => exact .step (run_note _ _ _ t) (.of_run (run_pure _ _) (kept _ ⟨rfl, rfl⟩))
    | exit => exact .step (run_note _ _ _ t) (.of_run (run_pure _ _) (kept _ ⟨rfl, rfl⟩))

end Turn

/-- Every turn writes what its mode is about, and signs before it does so. -/
theorem Program.serve_writes (p : Program) (m : Message) :
    (p.serve m).2.program.robot = p.robot ∧ p.Writes m (p.serve m).1 (p.serve m).2.output := by
  obtain ⟨robot, scene, signed⟩ := Turn.serve_signs p m
  change (p.serve m).2.program.robot = p.robot at robot
  change (p.serve m).2.output.scene ≠ _ → _ at scene
  have serves := p.serve_serves m
  refine ⟨robot, ?_, scene, ?_, signed⟩
  · intro differs
    generalize p.serve m = served at serves differs
    cases serves with
    | fails _ same => exact absurd (congrArg Report.response same) differs
    | refuses _ _ same => exact absurd (congrArg Report.response same) differs
    | keeps _ _ same => exact absurd (congrArg Report.response same) differs
    | @answers answer t asked answered said =>
      refine ⟨asked, fresh_of_respond (fun old => differs ?_) answered⟩
      cases (respond_old old _ _).symm.trans answered
      exact congrArg Report.response said
  · intro differs
    generalize p.serve m = served at serves differs
    cases serves with
    | @fails e => exact ⟨e, rfl⟩
    | @refuses e => exact ⟨e, rfl⟩
    | keeps _ _ same => exact absurd (congrArg Report.fault same) differs
    | answers _ _ said => exact absurd (congrArg Report.fault said) differs

theorem Program.Writes.failed {p : Program} {m : Message} {r : Except Error Mode}
    {output : ToSimulator} (writes : p.Writes m r output) (e : Error) :
    p.Writes m (.error e) output := by
  obtain ⟨response, scene, fault, signed⟩ := writes
  refine ⟨response, scene, fun _ => ⟨e, rfl⟩, ?_⟩
  exact signed.imp_right fun ⟨same, _⟩ => ⟨same, e, rfl⟩

theorem Program.Writes.refl (p : Program) (m : Message) (e : Error) :
    p.Writes m (.error e) m.toSimulator :=
  ⟨fun differs => absurd rfl differs, fun differs => absurd rfl differs, fun _ => ⟨e, rfl⟩,
    .inr ⟨rfl, e, rfl⟩⟩

/-- What a robot does to the shared objects when it serves a turn: it writes over its own half
of the message in its own region, and may post its semaphore. -/
structure Confined (b : Bridge) (s : Space Message) (r : Except Error Mode) (b' : Bridge)
    (t : Space Message) : Prop where
  regionNames : t.regionNames = s.regionNames
  semaphoreNames : t.semaphoreNames = s.semaphoreNames
  elsewhere : ∀ id, id ≠ b.endpoint.region.id → t.content? id = s.content? id
  half : (t.content? b.endpoint.region.id).map Message.toRobot =
    (s.content? b.endpoint.region.id).map Message.toRobot
  writes : ∀ m m', s.content? b.endpoint.region.id = some m →
    t.content? b.endpoint.region.id = some m' → b.program.Writes m r m'.toSimulator
  region : b'.endpoint.region = b.endpoint.region
  robot : b'.program.robot = b.program.robot

variable {σ : Type}

theorem Confined.refl (b : Bridge) (s : Space Message) (e : Error) :
    b.Confined s (.error e) b s := by
  refine ⟨rfl, rfl, fun _ _ => rfl, rfl, fun m m' found same => ?_, rfl, rfl⟩
  cases found.symm.trans same
  exact Program.Writes.refl _ m e

theorem serve_confined {b : Bridge} {m : Message} {w : World Message σ}
    (found : w.space.content? b.endpoint.region.id = some m) :
    b.Confined w.space (b.serve m w).1.1 (b.serve m w).1.2 (b.serve m w).2.space ∧
      (b.serve m w).2.peer = w.peer := by
  obtain ⟨robot, writes⟩ := b.program.serve_writes m
  -- Giving the turn back after the write touches no region.
  have confined {r : Except Error Mode} {b' : Bridge} {output : ToSimulator} {t : Space Message}
      (writes : b.program.Writes m r output) (region : b'.endpoint.region = b.endpoint.region)
      (robot : b'.program.robot = b.program.robot)
      (names : t.regionNames = w.space.regionNames ∧ t.semaphoreNames = w.space.semaphoreNames)
      (wrote : ∀ id, t.content? id =
        (w.space.setContent b.endpoint.region.id ⟨output, m.toRobot⟩).content? id) :
      b.Confined w.space r b' t := by
    have now := (wrote b.endpoint.region.id).trans (Space.content?_setContent found _)
    refine ⟨names.1, names.2, fun id elsewhere => ?_, ?_, fun m' written before after => ?_, region,
      robot⟩
    · exact (wrote id).trans (Space.content?_setContent_other _ elsewhere _)
    · rw [now, found]
      rfl
    · cases found.symm.trans before
      cases now.symm.trans after
      exact writes
  rcases served : b.program.serve m with ⟨e | mode, turn⟩
  · rw [served] at robot writes
    obtain ⟨journal, ran⟩ := serve_of_error served w
    rw [ran]
    have published : b.program.Writes m (.error e) (turn.output.publishFault e.message) :=
      ⟨writes.response, writes.scene, fun _ => ⟨e, rfl⟩, writes.signed⟩
    exact ⟨confined published rfl robot ⟨rfl, rfl⟩ fun _ => rfl, rfl⟩
  · rw [served] at robot writes
    unfold serve
    rw [served]
    simp only [World.setSpace]
    split
    next e _ => exact ⟨confined (writes.failed _) rfl robot ⟨rfl, rfl⟩ fun _ => rfl, rfl⟩
    next endpoint space finished =>
      obtain ⟨rfl, rfl⟩ := b.endpoint.of_finish_ok _ finished
      exact ⟨confined writes rfl robot ⟨rfl, rfl⟩ fun _ => rfl, rfl⟩

variable [Peer Message σ]

/-- Whatever its peer did while it waited, from then on a step keeps to the robot's own half. -/
theorem step_confined (b : Bridge) (w : World Message σ) :
    b.Confined (b.endpoint.awaitForever.run w).2.space (b.step w).1.1 (b.step w).1.2
        (b.step w).2.space ∧
      (b.step w).2.peer = (b.endpoint.awaitForever.run w).2.peer := by
  unfold step
  rcases taken : b.endpoint.awaitForever.run w with ⟨e | e, w'⟩
  · exact ⟨Confined.refl b w'.space _, rfl⟩
  obtain rfl := awaitForever_ok taken
  dsimp only
  rcases read : b.endpoint.tookTurn.snapshot w'.space with cause | m
  · obtain ⟨regionNames, semaphoreNames, elsewhere, half, writes, -, -⟩ :=
      Confined.refl b w'.space (.channel cause)
    exact ⟨⟨regionNames, semaphoreNames, elsewhere, half, writes, rfl, rfl⟩, rfl⟩
  · have found : w'.space.content? b.endpoint.region.id = some m :=
      Endpoint.of_snapshot_ok _ _ read
    obtain ⟨confined, peer⟩ :=
      serve_confined (b := { b with endpoint := b.endpoint.tookTurn }) (w := w') found
    exact ⟨⟨confined.regionNames, confined.semaphoreNames, confined.elsewhere, confined.half,
      confined.writes, confined.region, confined.robot⟩, peer⟩

end Bridge

end Lockstep
