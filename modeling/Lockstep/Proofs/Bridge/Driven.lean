import Lockstep.Proofs.Bridge.Granted
import Lockstep.Proofs.Bridge.Watched

/-! Turns that run the controller, spelled out.

A program whose tables are complete prepares its controller in the first of
them. From then on such a turn is one iteration of the controller and no more.
-/

set_option autoImplicit false

namespace Lockstep.Bridge

open Message Parameter Effect

variable {p : Program} {m : Message} {c c' : Controller} {output : ToSimulator}
  {r : Except Controller.Error Unit}

/-- The next controller turn gets as far as running this controller, which was prepared
before or is prepared first. -/
def Program.Drives (p : Program) (input : ToRobot) (c : Controller) : Prop :=
  if p.ready then p.controller = c
  else p.requireComplete = .ok () ∧ p.controller.prepare p.robot input = (.ok (), c)

namespace Turn

variable {t : Turn} {input : ToRobot}

theorem run_prepare_ok (complete : t.program.requireComplete = .ok ())
    (prepared : t.program.controller.prepare t.program.robot input = (.ok (), c)) :
    ∃ records, (prepare input).run t =
      (.ok (), ⟨{ t.program with controller := c, ready := true }, t.output, records⟩) := by
  obtain ⟨result, turn⟩ := Watch.shows_prepare input ⟨t, []⟩
  obtain ⟨refusal, refused, -⟩ | ⟨-, userCount, ran⟩ := Watch.run_prepare input ⟨t, []⟩
  · cases complete.symm.trans refused
  obtain ⟨records, went⟩ := Watch.run_preparing_ok (w := ⟨t, []⟩) prepared userCount
  rw [ran, went] at result turn
  exact ⟨records, Prod.ext result.symm turn.symm⟩

theorem run_runController (drives : t.program.Drives input c)
    (ran : c.run t.program.robot t.program.parameters input t.output = (r, c', output)) :
    ∃ records, (runController input).run t = (r.mapError .controller,
      ⟨{ t.program with controller := c', ready := true }, output, records⟩) := by
  unfold Program.Drives at drives
  unfold runController
  cases ready : t.program.ready with
  | true =>
    rw [ready] at drives
    obtain rfl : t.program.controller = c := drives
    simp only [run_bind, run_get, ready, Bool.not_true, Bool.false_eq_true, if_false, ran, run_set,
      run_ofExcept]
    exact ⟨_, rfl⟩
  | false =>
    rw [ready] at drives
    obtain ⟨complete, prepared⟩ := drives
    obtain ⟨records, went⟩ := run_prepare_ok complete prepared
    simp only [run_bind, run_get, ready, Bool.not_false, if_true, went, ran, run_set, run_ofExcept]
    exact ⟨_, rfl⟩

end Turn

theorem Program.serve_driving (accepts : p.Accepts m) (asked : m.mode? = some .runController)
    (drives : p.Drives m.toRobot c)
    (ran : c.run p.robot p.parameters m.toRobot (p.signed m) = (r, c', output)) :
    ∃ records, p.serve m = ((r.mapError .controller).map fun _ => .runController,
      ⟨{ p.accepted with controller := c', ready := true }, output, records⟩) := by
  obtain ⟨noted, confirmed⟩ := Turn.run_confirm_accepted accepts m.toSimulator
  have decoded : Mode.ofCode? m.toRobot.modeCode = some .runController := asked
  obtain ⟨records, went⟩ := Turn.run_runController
    (t := ⟨p.accepted, { m.toSimulator with robotCode := p.accepted.robot.code }, noted⟩) drives ran
  unfold Program.serve Turn.serve
  simp only [run_bind, confirmed, Turn.declareRobot, run_modify, Turn.decodeMode, decoded, run_pure,
    went]
  cases r with
  | error e => exact ⟨records, rfl⟩
  | ok _ => exact ⟨records, rfl⟩

end Lockstep.Bridge
