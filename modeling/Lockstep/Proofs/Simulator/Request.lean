import Lockstep.Proofs.Number.Words
import Lockstep.Proofs.Simulator.Exchange

/-! Parameter requests: one number each, and an answer that fits or none at all.

A request that a text rules out as a name is never made. One that is made waits
for its answer under its own number, however often the simulator waits.
-/

set_option autoImplicit false

namespace Lockstep

open Channel Message Parameter Effect

namespace Simulator

theorem checkResponse_ok {r : Response} {q : Request} (answers : r.Answers q) {number : UInt64}
    {kind : RequestKind} {name : String} (numbered : q.number = number)
    (kinded : q.rawKind = kind.code) (named : q.name = .ok name) :
    ∃ v, Talk.checkResponse r number kind name = .ok v := by
  obtain ⟨v, read⟩ := answers.value
  have echoed : r.name = .ok name := by
    unfold Response.name
    rw [answers.name]
    exact named
  refine ⟨v, ?_⟩
  simp [Talk.checkResponse, answers.number, numbered, echoed, answers.kind, kinded, read,
    Except.mapError, bind, Except.bind]

variable {s : Session Crew} {m : Message} {kind : Mode → Prop}

namespace Talk

theorem awaitAnswer_ends (name : String) (number : UInt64) (waits attempt : Nat)
    (synced : Synced s m) (asked : ∀ mode, m.mode? = some mode → kind mode)
    (waiting : s.connection.endpoint.phase = .waiting) :
    Ends (awaitAnswer name number waits attempt) s fun r t => ∃ m', Synced t m' ∧
      m'.toRobot = m.toRobot ∧ Later 0 kind s t ∧
      ((r = .ok true ∧ t.connection.endpoint.phase = .active) ∨
        (r = .ok false ∧ (0 < waits → s.world.peer.versed = true → ¬ t.world.peer.Healthy))) := by
  refine awaitAnswer_of_awaitTurn
    (fun n t => ∃ m', Synced t m' ∧ m'.toRobot = m.toRobot ∧ Later 0 kind s t ∧
      t.connection.endpoint.phase = .waiting ∧
      (n < waits → s.world.peer.versed = true → ¬ t.world.peer.Healthy))
    ?_ ?_ ?_ name number attempt ⟨m, synced, rfl, .refl _ _, waiting, by simp⟩
  · exact fun n t ⟨_, _, _, _, waiting, _⟩ => waiting
  · intro n t ⟨m', synced, half, before, waiting, _⟩
    have kinds : ∀ mode, m'.mode? = some mode → kind mode := by
      unfold mode? at asked ⊢
      rw [half]
      exact asked
    refine (awaitTurn_ends synced kinds).mono ?_
    rintro r u ⟨m'', later, same, after, rest⟩
    have further := before.trans after
    constructor
    · rintro rfl
      exact ⟨m'', later, same.trans half, further, .inl ⟨rfl, rest.1⟩⟩
    · rintro rfl record
      obtain ⟨phase, -, lost⟩ := rest
      exact ⟨m'', later.noted record, same.trans half, further.trans (.noted kind u record), phase,
        fun _ versed healthy => lost (before.versed (after.loyal healthy.loyal) versed) healthy⟩
  · exact fun t ⟨m', later, half, after, _, lost⟩ => ⟨m', later, half, after, .inr ⟨rfl, lost⟩⟩

theorem handed_request (synced : Synced s m) (active : s.connection.endpoint.phase = .active)
    (room : s.connection.requests.toNat + 1 < UInt64.size) {wanted : RequestKind} {name : String}
    {value : Value} {q : Message.Request}
    (made : Request.make (s.connection.requests + 1) wanted name value = .ok q) :
    Synced (s.handed (requesting m q) (s.connection.requests + 1)) (requesting m q) := by
  obtain ⟨formed, number, -, -⟩ := Request.make_spec made
  have settled := (synced.active active).settled
  have last : m.toSimulator.response.number = s.connection.requests :=
    settled.number.trans synced.numbered.symm
  have pending : (requesting m q).Pending := by
    refine ⟨mode?_setMode _ _, formed, ?_, ?_⟩
    · change q.number = m.toSimulator.response.number + 1
      rw [number, last]
    · change m.toSimulator.response.number < q.number
      rw [number, last]
      exact Number.lt_next room
  have standing : Standing ⟨m.toSimulator, (requesting m q).toRobot⟩ := .inr pending
  have handed : Synced (s.handed (requesting m q) q.number) (requesting m q) :=
    (synced.handed active standing).1
  rw [number] at handed
  exact handed

/-- Once the simulator has the turn again, the response is the one to its request. -/
theorem checkResponse_answered {number : UInt64} {wanted : RequestKind} {name : String}
    {value : Value} {q : Message.Request} {m' : Message} (synced : Synced s m')
    (active : s.connection.endpoint.phase = .active)
    (half : m'.toRobot = (requesting m q).toRobot)
    (made : Request.make number wanted name value = .ok q) (first : number ≠ 0) :
    ∃ v, checkResponse m'.toSimulator.response number wanted name = .ok v := by
  obtain ⟨-, numbered, kinded, named⟩ := Request.make_spec made
  have same : m'.toRobot.request = q := by
    rw [half]
    rfl
  have answers := (synced.active active).settled.answers
  rw [same, numbered] at answers
  exact checkResponse_ok (answers first) numbered kinded named

def Asked (s : Session Crew) (name : String) : Except Error Value → Session Crew → Prop
  | .ok _, t => t.connection.endpoint.phase = .active
  | .error e, t =>
      (e.Foul → ∃ cause, e = .parameter cause ∧ checkName name = .error cause) ∧
      (s.connection.endpoint.phase = .active → checkName name = .ok () →
        s.world.peer.versed = true → ¬ t.world.peer.Healthy)

theorem request_ends (synced : Synced s m) (right : kind .applyParameters)
    (room : s.connection.requests.toNat + 1 < UInt64.size) (wanted : RequestKind) (name : String)
    (value : Value) :
    Ends (request wanted name value) s fun r t => ∃ m', Synced t m' ∧ Later 1 kind s t ∧
      Asked s name r t := by
  obtain active | waiting := phase_cases s.connection.endpoint
  case inr =>
    refine .of_run (run_request_waiting waiting wanted name value) ?_
    refine ⟨m, synced, (Later.refl kind s).mono (Nat.zero_le _), fun foul => foul.elim, ?_⟩
    simp [waiting]
  cases made : Request.make (s.connection.requests + 1) wanted name value with
  | error cause =>
    have unnamed := Request.make_error made
    refine .of_run (run_request_refused active synced.content made)
      ⟨m, synced, (Later.refl kind s).mono (Nat.zero_le _), fun _ => ⟨cause, rfl, unnamed⟩, ?_⟩
    intro _ named
    cases unnamed.symm.trans named
  | ok q =>
    have next : (s.connection.requests + 1).toNat = s.connection.requests.toNat + 1 :=
      Number.toNat_next room
    have first : s.connection.requests + 1 ≠ 0 := by
      intro none
      rw [none] at next
      cases next
    have handed := handed_request synced active room made
    have before : Later 1 kind s (s.handed (requesting m q) (s.connection.requests + 1)) := by
      exact .handed kind s _ (Nat.le_of_eq next)
    have asked : ∀ mode, (requesting m q).mode? = some mode → kind mode := by
      intro mode same
      rw [requesting, mode?_setMode] at same
      exact Option.some.inj same ▸ right
    have waited := awaitAnswer_ends name (s.connection.requests + 1)
      (s.connection.options.retries + 1) 0 handed asked rfl
    apply request_of_awaitAnswer active synced.content synced.room made waited
    · rintro e t ⟨m', later, half, after, ⟨went, -⟩ | ⟨went, -⟩⟩ <;> cases went
    · rintro t ⟨m', later, half, after, ⟨-, phase⟩ | ⟨went, -⟩⟩
      · obtain ⟨current, checked⟩ := checkResponse_answered later phase half made first
        refine ⟨phase, m', later.content, ?_⟩
        rintro r rfl
        rw [checked]
        have counted := (before.trans after).trans (.counted kind t)
        exact ⟨⟨m', later.counted, counted, phase⟩, fun record =>
          ⟨m', later.counted.noted record, counted.trans (.noted kind _ record), phase⟩⟩
      · cases went
    · rintro t ⟨m', later, half, after, ⟨went, -⟩ | ⟨-, lost⟩⟩
      · cases went
      · exact ⟨m', later.content, m', later, before.trans after, fun foul => foul.elim,
          fun _ _ => lost (Nat.succ_pos _)⟩

end Talk

end Simulator

end Lockstep
