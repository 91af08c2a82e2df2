import Lockstep.Proofs.Bridge.Applied

/-! What a robot program counts of the turns that it gives back.

Every turn counts once in all and, but for the one that tells the robot to go, once for
its mode. A turn that was to answer a request either answers it, so that the number
of the response goes up by one, or counts as redundant as well.
-/

set_option autoImplicit false

namespace Lockstep.Bridge

open Message Parameter

section

variable {q : Request} {r : Response} {t : Table} {user? : Option Table} {answer : Answer}

theorem respond_new (new : ¬ q.number ≤ r.number) (answered : respond q r t user? = .ok answer)
    (stats : Stats) :
    stats.answered answer.outcome = stats ∧ answer.response.number = q.number := by
  obtain ⟨kind, name, valueKind, fresh⟩ := fresh_of_respond new answered
  cases own : kind.user with
  | false =>
    rw [respond_robot fresh t own] at answered
    obtain ⟨_, -, rfl⟩ := Effect.map_ok answered
    exact ⟨rfl, rfl⟩
  | true =>
    cases user? with
    | none =>
      cases (respond_userless fresh t own).symm.trans answered
      exact ⟨rfl, rfl⟩
    | some table =>
      rw [respond_user fresh t own table] at answered
      obtain ⟨_, -, rfl⟩ := Effect.map_ok answered
      exact ⟨rfl, rfl⟩

/-- Either the request was answered before, or the response moves on by one. -/
theorem respond_counts (answered : respond q r t user? = .ok answer) (stats : Stats) :
    r.number.toNat ≤ answer.response.number.toNat ∧
      (stats.answered answer.outcome).redundantTurns + answer.response.number.toNat =
        stats.redundantTurns + r.number.toNat + 1 := by
  by_cases old : q.number ≤ r.number
  · cases (respond_old old t user?).symm.trans answered
    exact ⟨Nat.le_refl _, Nat.add_right_comm _ _ _⟩
  · obtain ⟨kind, name, valueKind, fresh⟩ := fresh_of_respond old answered
    obtain ⟨same, number⟩ := respond_new old answered stats
    have less := UInt64.le_of_lt fresh.more
    have one := congrArg UInt64.toNat fresh.one
    rw [UInt64.toNat_sub_of_le _ _ less] at one
    rw [same, number]
    have least := UInt64.le_iff_toNat_le.mp less
    change q.number.toNat - r.number.toNat = 1 at one
    omega

end

theorem Stats.answered_eq (stats : Stats) (outcome : Outcome) : stats.answered outcome =
    { stats with redundantTurns := (stats.answered outcome).redundantTurns } := by
  cases outcome with
  | redundant | applied | noUserTable => rfl

/-- What a turn that goes well does to counts and to the number of the response. -/
structure Program.Accounts (p : Program) (m : Message) (mode : Mode) (t : Turn) : Prop where
  asked : m.mode? = some mode
  others : t.program.stats =
    { p.stats with redundantTurns := t.program.stats.redundantTurns }
  rises : m.toSimulator.response.number.toNat ≤ t.output.response.number.toNat
  answers : t.program.stats.redundantTurns + t.output.response.number.toNat =
    p.stats.redundantTurns + m.toSimulator.response.number.toNat +
      if mode = .applyParameters then 1 else 0

variable {p : Program} {m : Message} {mode : Mode} {t : Turn}

theorem Program.serve_accounts (served : p.serve m = (.ok mode, t)) : p.Accounts m mode t := by
  have serves := p.serve_serves m
  rw [served] at serves
  cases serves with
  | keeps asked other same =>
    have response : t.output.response = m.toSimulator.response := congrArg Report.response same
    have stats := (serve_stays served (by simpa using other)).kept.stats
    refine ⟨asked, ?_, ?_, ?_⟩
    · rw [stats]
    · exact Nat.le_of_eq (congrArg (·.number.toNat) response.symm)
    · rw [stats, response, if_neg other]
      rfl
  | @answers answer _ asked answered same =>
    obtain ⟨-, e, t', failed⟩ | ⟨e, t', -, failed⟩ | ⟨answer', t', answered', went, -, took⟩ :=
      serve_applying (p := p) asked
    · cases failed.symm.trans served
    · cases failed.symm.trans served
    · cases went.symm.trans served
      cases answered'.symm.trans answered
      have response : t.output.response = answer.response := congrArg Report.response same
      obtain ⟨rises, answers⟩ := respond_counts answered p.stats
      refine ⟨asked, ?_, ?_, ?_⟩
      · rw [took.stats]
        exact p.stats.answered_eq _
      · rw [response]
        exact rises
      · rw [took.stats, response]
        exact answers

/-- Only a turn that was to answer a request can change the number of the last response. -/
theorem Program.Accounts.number (accounts : p.Accounts m mode t)
    (served : p.serve m = (.ok mode, t)) (other : mode ≠ .applyParameters) :
    t.output.response.number = m.toSimulator.response.number := by
  have stats := (serve_stays served (by simpa using other)).kept.stats
  have answers := accounts.answers
  rw [stats, if_neg other] at answers
  exact UInt64.toNat_inj.mp (by omega)

structure Stats.Of (modes : List Mode) (stats : Stats) : Prop where
  turns : stats.turns = modes.length
  parameter : stats.parameterTurns = modes.count .applyParameters
  controller : stats.controllerTurns = modes.count .runController
  idle : stats.idleTurns = modes.count .idle
  redundant : stats.redundantTurns ≤ stats.parameterTurns

theorem Stats.Of.fresh : Stats.fresh.Of [] := ⟨rfl, rfl, rfl, rfl, Nat.le_refl 0⟩

theorem length_modes (modes : List Mode) : modes.length = modes.count .applyParameters +
    modes.count .runController + modes.count .idle + modes.count .exit := by
  induction modes with
  | nil => rfl
  | cons mode rest ih =>
    simp only [List.length_cons, List.count_cons]
    cases mode with
    | idle | applyParameters | runController | exit =>
      simp
      omega

theorem Stats.Of.record {modes : List Mode} (counts : p.stats.Of modes)
    (accounts : p.Accounts m mode t) (spent : Duration) :
    (t.program.stats.record mode spent).Of (modes ++ [mode]) := by
  obtain ⟨turns, parameter, controller, idle, redundant⟩ := counts
  obtain ⟨-, others, rises, answers⟩ := accounts
  generalize t.program.stats.redundantTurns = now at others answers
  rw [others]
  have more : now ≤ p.stats.parameterTurns + if mode = .applyParameters then 1 else 0 := by omega
  cases mode with
  | idle | applyParameters | runController | exit =>
    constructor
    case turns => simp [Stats.record, Stats.measure, Stats.count, turns]
    case parameter => simp [Stats.record, Stats.measure, Stats.count, parameter]
    case controller => simp [Stats.record, Stats.measure, Stats.count, controller]
    case idle => simp [Stats.record, Stats.measure, Stats.count, idle]
    case redundant => exact more

end Lockstep.Bridge
