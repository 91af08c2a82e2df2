import Lockstep.Proofs.Bridge.Turn

/-! Where the last request stands: it was answered, or it waits for its answer.

A robot that serves a turn finds one of the two, and leaves the first of them
unless it fails. What it fails with is not the simulator's fault.
-/

set_option autoImplicit false

namespace Lockstep

namespace Message

/-- The response belongs to the request. Number 0 stands for no request at all. -/
structure Settled (m : Message) : Prop where
  number : m.toSimulator.response.number = m.toRobot.request.number
  answers : m.toRobot.request.number ≠ 0 → m.toSimulator.response.Answers m.toRobot.request

/-- The request is the one after that of the response, and a robot can read it. -/
structure Pending (m : Message) : Prop where
  mode : m.mode? = some .applyParameters
  formed : m.toRobot.request.Formed
  next : m.toRobot.request.number = m.toSimulator.response.number + 1
  more : m.toSimulator.response.number < m.toRobot.request.number

def Standing (m : Message) : Prop := m.Settled ∨ m.Pending

variable {m : Message} {output : ToSimulator}

theorem Settled.reply (settled : m.Settled)
    (same : output.response = m.toSimulator.response) : Settled ⟨output, m.toRobot⟩ := by
  constructor
  · rw [same]
    exact settled.number
  · rw [same]
    exact settled.answers

theorem Pending.reply (pending : m.Pending)
    (same : output.response = m.toSimulator.response) : Pending ⟨output, m.toRobot⟩ := by
  refine ⟨pending.mode, pending.formed, ?_, ?_⟩
  · rw [same]
    exact pending.next
  · rw [same]
    exact pending.more

theorem Settled.with_request {half : ToRobot} (settled : m.Settled)
    (same : half.request = m.toRobot.request) : Settled ⟨m.toSimulator, half⟩ := by
  constructor
  · rw [same]
    exact settled.number
  · rw [same]
    exact settled.answers

end Message

namespace Bridge

open Message

variable {p : Program} {m : Message}

theorem Program.serve_fails {e : Error} {t : Turn} (standing : m.Standing)
    (failed : p.serve m = (.error e, t)) :
    ¬ e.Breach ∧ t.output.response = m.toSimulator.response := by
  have serves := p.serve_serves m
  rw [failed] at serves
  cases serves with
  | fails own kept => exact ⟨own, congrArg Report.response kept⟩
  | refuses mode refused kept =>
    refine ⟨?_, congrArg Report.response kept⟩
    obtain settled | pending := standing
    · have old : m.toRobot.request.number ≤ m.toSimulator.response.number := by
        rw [settled.number]
        exact UInt64.le_refl _
      rw [Program.respond, respond_old old] at refused
      cases refused
    · obtain ⟨cause, said, own⟩ | ⟨answer, said, -⟩ :=
        respond_next pending.formed pending.next pending.more p.parameters p.controller.user?
      · rw [Program.respond, said] at refused
        cases refused
        exact own
      · rw [Program.respond, said] at refused
        cases refused

/-- A turn that goes well is one of the mode that was asked for, and leaves nothing pending. -/
theorem Program.serve_settles {mode : Mode} {t : Turn} (standing : m.Standing)
    (went : p.serve m = (.ok mode, t)) :
    m.mode? = some mode ∧ Settled ⟨t.output, m.toRobot⟩ ∧
      t.output.faultText? = m.toSimulator.faultText? := by
  have serves := p.serve_serves m
  rw [went] at serves
  cases serves with
  | keeps asked other kept =>
    refine ⟨asked, ?_, ToSimulator.faultText?_of_fault (congrArg Report.fault kept)⟩
    obtain settled | pending := standing
    · exact settled.reply (congrArg Report.response kept)
    · rw [pending.mode] at asked
      exact absurd (Option.some.inj asked).symm other
  | @answers answer _ asked answered said =>
    have response : t.output.response = answer.response := congrArg Report.response said
    refine ⟨asked, ?_, ToSimulator.faultText?_of_fault (congrArg Report.fault said)⟩
    obtain settled | pending := standing
    · have old : m.toRobot.request.number ≤ m.toSimulator.response.number := by
        rw [settled.number]
        exact UInt64.le_refl _
      rw [Program.respond, respond_old old] at answered
      cases answered
      exact settled.reply response
    · obtain ⟨cause, refused, -⟩ | ⟨given, answering, answers⟩ :=
        respond_next pending.formed pending.next pending.more p.parameters p.controller.user?
      · rw [Program.respond, refused] at answered
        cases answered
      · rw [Program.respond, answering] at answered
        cases answered
        rw [← response] at answers
        exact ⟨answers.number, fun _ => answers⟩

end Bridge

end Lockstep
