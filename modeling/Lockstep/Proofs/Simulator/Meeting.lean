import Lockstep.Proofs.Simulator.Arrival
import Lockstep.Proofs.Simulator.Farewell

/-! What a simulator does with a robot apart from the cycles, as long as every turn is served.

The robot comes, takes the files, and is told to go. All that this changes in it
are its tables.
-/

set_option autoImplicit false

namespace Lockstep.Simulator

open Channel Message Parameter Bridge Effect Crew

/-- How a part of a run ends that only a turn that is not served can stop. -/
inductive Goes {α : Type} (post : α → Session Crew → Prop) :
    Except Error α → Session Crew → Prop where
  | away {e : Error} {s : Session Crew} : ¬ AllServed s → Goes post (.error e) s
  | went {a : α} {s : Session Crew} : post a s → Goes post (.ok a) s

def Runs (c : Controller) (s : Session Crew) : Prop :=
  ∃ mate, s.world.peer.mates = [mate] ∧ mate.bridge.program.controller = c

/-- A simulator that was not heard yet, on a channel to which one robot will come. -/
structure Unmet (names : Names) (program : Program) (m : Message) (s : Session Crew) : Prop where
  synced : Synced s m
  active : s.connection.endpoint.phase = .active
  vacant : s.world.peer.Vacant names m 0 s.world.space
  plan : Expects names program s.world.peer.plan

variable {names : Names} {program p : Program} {m : Message} {s : Session Crew}

theorem Abreast.runs (abreast : Abreast p m s) : Runs p.controller s := by
  obtain ⟨mate, only, stands⟩ := abreast.dealing.paired.mate
  exact ⟨mate, only, congrArg Program.controller stands.program⟩

namespace Talk

theorem close_serves (valid : names.Valid) (mine : Mine names s) :
    Ends close s fun r t =>
      r = .ok () ∧ t.world.peer = s.world.peer ∧ (AllServed t → AllServed s) := by
  obtain ⟨journal, ran⟩ := run_close valid mine
  exact .of_run ran ⟨rfl, rfl, fun ⟨lying, held⟩ => ⟨lying, held⟩⟩

theorem exit_serves (valid : names.Valid) (mine : Mine names s) (abreast : Abreast p m s) :
    Ends exit s (Goes fun _ => Runs p.controller) := by
  unfold exit
  refine .step (run_connection s) (.step (run_note _ _ _ _) ?_)
  dsimp only
  have active : s.connection.endpoint.phase = .active := abreast.dealing.phase
  rw [if_pos active]
  generalize (⟨.info, "Sending exit to robot", _⟩ : Record) = record
  have noted := abreast.noted record
  have mine := mine.later noted.synced (.noted AnyMode s record)
  obtain ⟨records, served⟩ :=
    Program.serve_resting (.inl abreast.confirmed) (mode?_setMode m .exit) (.inr rfl)
  have turned := exchange_turned noted .exit (by rw [served]; rfl)
  rw [served] at turned
  have told : Ends (tryCatch (exchange .exit) fun e => do close; throw e) (s.noted record)
      (Goes fun _ t => Mine names t ∧ Runs p.controller t) := by
    apply (turned.and (exchange_ends noted.synced .exit (anyMode .exit))).rescue
    · rintro _ t ⟨ended, m', synced, -, later, -⟩
      cases ended with
      | back abreast => exact .went ⟨mine.later synced later, abreast.runs⟩
    · rintro e t ⟨ended, m', synced, -, later, -⟩
      cases ended with
      | away unserved =>
        apply (close_serves valid (mine.later synced later)).bind
        · intro e' u ⟨closed, _⟩
          cases closed
        · intro _ u ⟨_, _, kept⟩
          exact .of_run (run_throw _ _) (.away fun served => unserved (kept served))
  apply told.bind
  · intro e t ended
    cases ended with
    | away unserved => exact .away unserved
  · intro _ t ended
    cases ended with
    | went left =>
      obtain ⟨mine, runs⟩ := left
      apply (close_serves valid mine).mono
      rintro r u ⟨rfl, crew, -⟩
      refine .went ?_
      unfold Runs
      rw [crew]
      exact runs

theorem sense_unmet (unmet : Unmet names program m s) {write : ToRobot → ToRobot}
    (same : ∀ half, (write half).request = half.request) :
    Ends (update fun m => { m with toRobot := write m.toRobot }) s fun r t =>
      r = .ok () ∧ t.connection = s.connection ∧
        Unmet names program ⟨m.toSimulator, write m.toRobot⟩ t := by
  have ran := run_update unmet.active unmet.synced.content fun m =>
    { m with toRobot := write m.toRobot }
  have synced := sense_ends unmet.synced same
  unfold Ends at synced ⊢
  rw [ran] at synced ⊢
  obtain ⟨m', later, -⟩ := synced
  obtain ⟨region, -⟩ := Endpoint.ids_simulator unmet.synced.role unmet.synced.objects
  have wrote := unmet.vacant.write ⟨m.toSimulator, write m.toRobot⟩
  have shown := wrote.afloat.content
  rw [← region] at wrote shown
  cases later.content.symm.trans shown
  exact ⟨rfl, rfl, later, unmet.active, wrote, unmet.plan⟩

/-- A robot that comes finds the orders of the simulator as they are, and leaves them so. -/
theorem handshake_meets (valid : names.Valid) (unmet : Unmet names program m s)
    (accepts : program.Accepts (m.setMode .idle)) (fuel : Nat) (keepWaiting : Nat → Crew → Bool) :
    Ends (handshake fuel keepWaiting) s fun r t => ¬ AllServed t ∧ r ≠ .ok (some true) ∨
      r = .ok (some true) ∧ t.connection.requests.toNat ≤ s.connection.requests.toNat ∧
        ∃ m' stats, Abreast { program.accepted with stats := stats } m' t ∧
          m'.toSimulator.orders = m.toSimulator.orders := by
  obtain ⟨synced, active, vacant, plan⟩ := unmet
  obtain ⟨records, serves⟩ := Program.serve_resting accepts (mode?_setMode m .idle) (.inl rfl)
  have heard := handshake_expecting valid synced.role synced.objects active vacant plan
    (fun e turn failed => by cases serves.symm.trans failed) fuel keepWaiting
  apply (heard.and (handshake_ends keepWaiting fuel synced (anyMode .idle))).mono
  rintro r t ⟨⟨stage, ⟨mode, turn, rfl, served, dealing⟩, went⟩ | unserved, m', later, after, -⟩
  · cases serves.symm.trans served
    exact .inr ⟨went, after.requests, _, _, .of_dealing dealing later rfl, rfl⟩
  · exact .inl unserved

theorem loadFile_goes (path : String) {file : Config.File} {values : List (String × Value)}
    {user : Bool} {t t' : Table} (loaded : loadValues file = .ok values)
    (applied : t.apply values = (t', .ok ())) (abreast : Abreast p m s)
    (own : p.tables.table? user = some t)
    (room : s.connection.requests.toNat + values.length < UInt64.size) :
    Ends (loadFile path file user) s (Goes fun count s' => count = values.length ∧
      s'.connection.requests.toNat ≤ s.connection.requests.toNat + values.length ∧
      ∃ m', Abreast (p.streamed user t' values.length) m' s' ∧
        m'.toSimulator.orders = m.toSimulator.orders) := by
  rw [← fileCost_of_loaded loaded] at room
  apply ((loadFile_streams path loaded abreast own room).and
    (loadFile_ends path file user abreast.synced (anyMode .applyParameters) room)).mono
  rintro (e | count) s' ⟨⟨streams, counts⟩, m', -, later, -⟩
  · apply Goes.away
    intro served
    obtain ⟨went, -⟩ := streams.sent_of_applied applied served
    cases went
  · cases streams with
    | sent went abreast orders =>
      cases went.symm.trans applied
      have requests := later.requests
      rw [fileCost_of_loaded loaded] at requests
      exact .went ⟨counts count rfl, requests, _, abreast, orders⟩

end Talk

end Lockstep.Simulator
