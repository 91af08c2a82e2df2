import Lockstep.Proofs.Bridge.Frame
import Lockstep.Proofs.Bridge.Step

/-! A turn that fails is the last one of its robot, and nobody else suffers from it.

The robot keeps the turn, so none of its later steps gets past waiting: what
became of the message stays, and with it the reason.
-/

set_option autoImplicit false

namespace Lockstep.Bridge

open Channel Message Effect

variable {σ : Type}

theorem awaitForever_ok {α : Type} [Peer α σ] {e e' : Endpoint} {w w' : World α σ}
    (taken : e.awaitForever.run w = (.ok e', w')) : e' = e.tookTurn := by
  by_cases waiting : e.phase = .waiting
  · rw [e.run_awaitForever_of_waiting w waiting] at taken
    split at taken
    · cases taken
      rfl
    · cases taken
  · rw [e.run_awaitForever_of_active w waiting] at taken
    cases taken

variable [Peer Message σ]

/-- Whoever holds the turn already waits for it in vain. -/
theorem step_of_active {b : Bridge} (active : b.endpoint.phase = .active) (w : World Message σ) :
    b.step w = ((.error (.channel (.turnViolation b.endpoint.role.waitOperation .active)), b), w) := by
  have busy : b.endpoint.phase ≠ .waiting := by
    rw [active]
    decide
  unfold step
  rw [b.endpoint.run_awaitForever_of_active w busy, active]

def steps : List (World Message σ → World Message σ) → Bridge → World Message σ →
    List (Except Error Mode) × Bridge × World Message σ
  | [], b, w => ([], b, w)
  | others :: rest, b, w =>
    let ((result, b), w) := b.step (others w)
    let (results, b, w) := steps rest b w
    (result :: results, b, w)

theorem steps_of_active {b : Bridge} (active : b.endpoint.phase = .active)
    (interludes : List (World Message σ → World Message σ)) (w : World Message σ) :
    steps interludes b w =
      (.replicate interludes.length
        (.error (.channel (.turnViolation b.endpoint.role.waitOperation .active))), b,
        interludes.foldl (fun w others => others w) w) := by
  induction interludes generalizing w with
  | nil => rfl
  | cons others rest ih =>
    simp only [steps, step_of_active active, ih, List.length_cons, List.replicate_succ,
      List.foldl_cons]

/-- What a failed turn on a message leaves of a bridge and a world. -/
structure Failed (b : Bridge) (w : World Message σ) (m : Message) (e : Error) (b' : Bridge)
    (w' : World Message σ) : Prop where
  endpoint : b'.endpoint = { b.endpoint with phase := .active }
  program : b.program.Kept b'.program
  space : ∃ output : ToSimulator,
    w'.space = w.space.setContent b.endpoint.region.id ⟨output, m.toRobot⟩ ∧
    output.response = m.toSimulator.response ∧
    output.fault = Wire.padded faultCapacity (Text.keptBytes faultCapacity e.message)
  counts : ∀ id, w'.space.count id = w.space.count id
  peer : w'.peer = w.peer
  later : ∀ (interludes : List (World Message σ → World Message σ)) (w'' : World Message σ),
    steps interludes b' w'' =
      (.replicate interludes.length
        (.error (.channel (.turnViolation b.endpoint.role.waitOperation .active))), b',
        interludes.foldl (fun w others => others w) w'')

/-- If a step gets the turn and cannot serve it, it says why and keeps the turn for good. -/
theorem step_failed {b : Bridge} {w taken : World Message σ} {endpoint : Endpoint} {m : Message}
    {e : Error} {t : Turn} (took : b.endpoint.awaitForever.run w = (.ok endpoint, taken))
    (found : endpoint.snapshot taken.space = .ok m) (failed : b.program.serve m = (.error e, t)) :
    ∃ b' w', b.step w = ((.error e, b'), w') ∧ b.Failed taken m e b' w' := by
  obtain rfl := awaitForever_ok took
  let holding : Bridge := ⟨b.endpoint.tookTurn, b.program⟩
  obtain ⟨journal, served⟩ := holding.serve_of_error failed taken
  have report := Program.serve_report failed
  refine ⟨{ holding with program := t.program },
    ⟨holding.faulted m t e taken.space, taken.peer, journal⟩, ?_, ?_⟩
  · unfold step
    rw [took]
    dsimp only
    rw [found]
    exact served
  · constructor
    case endpoint => rfl
    case program => exact (Program.serve_stays failed nofun).kept
    case space => exact ⟨_, rfl, congrArg Report.response report, rfl⟩
    case counts => exact fun id => Space.count_setContent _ _ id _
    case peer => rfl
    case later => exact fun interludes w'' => steps_of_active rfl interludes w''

def unprepared : Bridge :=
  ⟨.attached .standard (Wire.Layout.size Message) 0 0 1,
    .start .miniCheetah (.stand .fresh) .robot⟩

def hasty : Message :=
  let input : ToRobot := default
  ⟨default, { input with
    robotCode := Robot.miniCheetah.code
    modeCode := Mode.runController.code }⟩

def hastySpace : Space Message :=
  ((Space.withChannel .empty .standard (Wire.Layout.size Message)).setContent 0 hasty).post 1

theorem unprepared_stops : ∃ taken b' w',
    let missing := Parameter.Table.robot.uninitialized
    unprepared.step ⟨hastySpace, (), #[]⟩ =
      ((.error (.table (.incomplete "robot" missing)), b'), w') ∧
    unprepared.Failed taken hasty (.table (.incomplete "robot" missing)) b' w' := by
  obtain ⟨taken, took, content⟩ : ∃ taken : World Message Unit,
      unprepared.endpoint.awaitForever.run (⟨hastySpace, (), #[]⟩ : World Message Unit) =
        (.ok unprepared.endpoint.tookTurn, taken) ∧
      unprepared.endpoint.tookTurn.snapshot taken.space = .ok hasty := ⟨_, rfl, rfl⟩
  have failed : unprepared.program.serve hasty =
      (.error (.table (.incomplete "robot" Parameter.Table.robot.uninitialized)),
        (unprepared.program.serve hasty).2) := Prod.ext rfl rfl
  exact ⟨taken, step_failed took content failed⟩

end Lockstep.Bridge
