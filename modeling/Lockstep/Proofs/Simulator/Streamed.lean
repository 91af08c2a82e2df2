import Lockstep.Proofs.Bridge.Granted
import Lockstep.Proofs.Controller.Orders
import Lockstep.Proofs.Parameter.Declared
import Lockstep.Proofs.Simulator.Linked
import Lockstep.Proofs.Simulator.Raised

/-! Values that a simulator writes into a table of a robot, one turn for each.

Every turn does what the table would do by itself, so the table goes through
the same states, and is refused the same value with the same words.
-/

set_option autoImplicit false

namespace Lockstep

open Channel Message Parameter Bridge Effect Crew

namespace Bridge

def Stats.answering (stats : Stats) : Nat → Stats
  | 0 => stats
  | count + 1 => (stats.record .applyParameters .zero).answering count

theorem Stats.parameterTurns_answering (stats : Stats) (count : Nat) :
    (stats.answering count).parameterTurns = stats.parameterTurns + count := by
  induction count generalizing stats with
  | zero => rfl
  | succ count ih =>
    have one : (stats.record .applyParameters .zero).parameterTurns = stats.parameterTurns + 1 := rfl
    rw [answering, ih]
    omega

def Program.streamed (p : Program) (user : Bool) (t : Table) (count : Nat) : Program :=
  { p.withTable user t with stats := p.stats.answering count }

variable {p : Program} {user : Bool} {t : Table}

theorem Program.streamed_zero (own : p.tables.table? user = some t) : p.streamed user t 0 = p := by
  rw [streamed, withTable_own own]
  rfl

theorem Program.streamed_streamed (p : Program) (user : Bool) (t t' : Table) (count : Nat) :
    (p.streamed user t 1).streamed user t' count = p.streamed user t' (count + 1) := by
  have replaced := p.withTable_withTable user t t'
  cases user with
  | true =>
    simp only [streamed, withTable, Program.mk.injEq, true_and, and_true] at replaced ⊢
    exact ⟨replaced, rfl⟩
  | false => rfl

theorem Program.table?_streamed (own : p.tables.table? user = some t) (t' : Table) (count : Nat) :
    (p.streamed user t' count).tables.table? user = some t' ∧
      (p.streamed user t' count).tables.table? (!user) = p.tables.table? (!user) :=
  table?_withTable own t'

theorem Program.stage_streamed (p : Program) (user : Bool) (t : Table) (output : ToSimulator)
    (records : List Record) :
    (Stage.back .applyParameters ⟨p.withTable user t, output, records⟩).program p =
      p.streamed user t 1 := by
  cases user with
  | true => rfl
  | false => rfl

end Bridge

namespace Simulator

/-- Every turn that was handed over was taken and served, well or not. -/
structure AllServed (s : Session Crew) : Prop where
  lying : s.world.space.count s.world.peer.objects.simulator = 0
  held : s.world.peer.held = 0

instance (s : Session Crew) : Decidable (AllServed s) :=
  decidable_of_iff
    (s.world.space.count s.world.peer.objects.simulator = 0 ∧ s.world.peer.held = 0)
    ⟨fun ⟨lying, held⟩ => ⟨lying, held⟩, fun ⟨lying, held⟩ => ⟨lying, held⟩⟩

/-- The one robot on board is left with a program and has raised an error since. -/
structure Fallen (q : Program) (before : List Bridge.Error) (e : Bridge.Error) (s : Session Crew) :
    Prop where
  mate : ∃ mate, s.world.peer.mates = [mate] ∧ mate.bridge.program = q
  raised : ∃ more, s.world.peer.raised = before ++ e :: more

/-- A simulator that has the turn, and a robot program that has confirmed it. -/
structure Abreast (p : Program) (m : Message) (s : Session Crew) : Prop where
  dealing : Dealing p m .home s
  synced : Synced s m
  confirmed : p.confirmed = true

variable {p : Program} {m : Message} {s s' : Session Crew} {stage : Stage} {user : Bool} {t : Table}
  {name : String} {value : Value}

/-- A turn that was served and is still away is one that the robot failed over. -/
theorem Missed.failed (missed : Missed p m stage s) (served : AllServed s) :
    ∃ e turn, stage = .failed e turn := by
  obtain ⟨away, dealing⟩ := missed
  obtain ⟨mate, only, stands⟩ := dealing.paired.mate
  cases stage with
  | home => exact away.elim
  | back => exact away.elim
  | lies => cases dealing.paired.lying.symm.trans served.lying
  | held =>
    have held := served.held
    have holding : mate.holding = true := stands.holding
    simp [Crew.held, total, only, holding] at held
  | failed e turn => exact ⟨e, turn, rfl⟩

namespace Abreast

theorem noted (abreast : Abreast p m s) (r : Record) : Abreast p m (s.noted r) :=
  ⟨abreast.dealing.noted r, abreast.synced.noted r, abreast.confirmed⟩

theorem of_dealing {p' : Program} {m' : Message} (dealing : Dealing p' m' .home s)
    (synced : Synced s m) (confirmed : p'.confirmed = true) : Abreast p' m' s := by
  have same := synced.content.symm.trans dealing.content
  cases same
  exact ⟨dealing, synced, confirmed⟩

theorem last (abreast : Abreast p m s) :
    m.toSimulator.response.number = s.connection.requests := by
  have settled := (abreast.synced.active abreast.dealing.phase).settled
  exact settled.number.trans abreast.synced.numbered.symm

end Abreast

namespace Talk

inductive Turned (asked : Message) : Except Bridge.Error Mode × Turn → Except Error Unit →
    Session Crew → Prop where
  | away {ended : Except Bridge.Error Mode × Turn} {e : Error} {s' : Session Crew} :
      ¬ AllServed s' → Turned asked ended (.error e) s'
  | back {mode : Mode} {turn : Turn} {s' : Session Crew} :
      Abreast { turn.program with stats := turn.program.stats.record mode .zero }
        ⟨turn.output, asked.toRobot⟩ s' →
      Turned asked (.ok mode, turn) (.ok ()) s'
  | fell {e : Bridge.Error} {turn : Turn} {s' : Session Crew} :
      (∃ mate, s'.world.peer.mates = [mate] ∧ mate.bridge.program = turn.program) →
      Turned asked (.error e, turn)
        (.error (.robotStalled (turn.output.publishFault e.message).faultText?)) s'

theorem exchange_turned (abreast : Abreast p m s) (mode : Mode)
    (confirmed : (p.serve (m.setMode mode)).2.program.confirmed = true) :
    Ends (exchange mode) s (Turned (m.setMode mode) (p.serve (m.setMode mode))) := by
  let any : Mode → Prop := fun _ => True
  have right : any mode := trivial
  apply ((exchange_deals abreast.dealing mode).and
    (exchange_ends abreast.synced mode right)).mono
  dsimp only
  generalize (s.world.peer.plan.headD []).foldl _ Stage.lies = stage
  rintro r s' ⟨⟨⟨back, turn, rfl, served, dealing⟩, rfl⟩ | ⟨missed, rfl⟩, m', synced, -⟩
  · rw [served] at confirmed ⊢
    exact .back (.of_dealing dealing synced confirmed)
  · by_cases all : AllServed s'
    · obtain ⟨e, turn, rfl⟩ := missed.failed all
      obtain ⟨mate, only, stands⟩ := missed.2.paired.mate
      have served : p.serve (m.setMode mode) = (.error e, turn) := missed.2.paired.sound
      rw [served]
      exact .fell ⟨mate, only, stands.program⟩
    · exact .away all

theorem sense_abreast (abreast : Abreast p m s) {write : ToRobot → ToRobot}
    (same : ∀ half, (write half).request = half.request) :
    Ends (update fun m => { m with toRobot := write m.toRobot }) s fun r s' =>
      r = .ok () ∧ Abreast p ⟨m.toSimulator, write m.toRobot⟩ s' := by
  have ran := run_update abreast.dealing.phase abreast.dealing.content fun m =>
    { m with toRobot := write m.toRobot }
  have synced := sense_ends abreast.synced same
  unfold Ends at synced ⊢
  rw [ran] at synced ⊢
  obtain ⟨m', later, -⟩ := synced
  exact ⟨rfl, .of_dealing (abreast.dealing.write _) later abreast.confirmed⟩

/-- How a single write ends, beside what the robot's table would make of it. -/
inductive Put (p : Program) (m : Message) (s : Session Crew) (user : Bool) (t : Table)
    (name : String) (value : Value) : Except Error Value → Session Crew → Prop where
  | away {e : Error} {s' : Session Crew} : ¬ AllServed s' →
      Put p m s user t name value (.error e) s'
  | refused {refusal : Table.Refusal} {text : Option String} {s' : Session Crew} :
      t.set name value = .error refusal → Fallen p s.world.peer.raised (.table refusal) s' →
      Put p m s user t name value
        (.error (.notAcknowledged name (s.connection.requests + 1) text)) s'
  | wrote {t' : Table} {m' : Message} {s' : Session Crew} : t.set name value = .ok t' →
      Abreast (p.streamed user t' 1) m' s' →
      m'.toSimulator.orders = m.toSimulator.orders →
      s'.connection.requests = s.connection.requests + 1 →
      s'.world.peer.raised = s.world.peer.raised → Put p m s user t name value (.ok value) s'

theorem request_put (abreast : Abreast p m s) (own : p.tables.table? user = some t)
    (named : checkName name = .ok ()) (room : s.connection.requests.toNat + 1 < UInt64.size) :
    Ends (request (.set user) name value) s (Put p m s user t name value) := by
  obtain ⟨q, made⟩ := Request.make_of_named named (s.connection.requests + 1) (.set user) value
  let any : Mode → Prop := fun _ => True
  have right : any .applyParameters := trivial
  have synced := request_ends abreast.synced right room (.set user) name value
  obtain ⟨fresh, carries⟩ : Fresh q m.toSimulator.response (.set user) name value.kind ∧
      q.rawValue = value.toWire := by
    rw [← abreast.last] at made room
    exact fresh_of_make room made
  have asked : (requesting m q).mode? = some .applyParameters := mode?_setMode _ _
  have serves := Program.serve_set (p := p) (m := requesting m q) (.inl abreast.confirmed) asked fresh
    carries own
  have accepted : p.accepted = p := by rw [Program.accepted, ← abreast.confirmed]
  rw [accepted] at serves
  have ended := request_keeps abreast.dealing made
    (lasting_raises p (requesting m q) s.world.peer.raised) rfl
  dsimp only at ended
  generalize (s.world.peer.plan.take _).flatten.foldl _ Stage.lies = stage at ended
  refine (ended.and synced).mono ?_
  rintro r s' ⟨⟨⟨⟨mode, turn, rfl, went, dealing⟩, rfl⟩ | ⟨missed, rfl⟩, raises⟩, m'', later, -⟩
  · cases wrote : t.set name value with
    | error refusal =>
      rw [wrote] at serves
      obtain ⟨records, failed⟩ := serves
      cases failed.symm.trans went
    | ok t' =>
      rw [wrote] at serves
      obtain ⟨count, records, served⟩ := serves
      cases served.symm.trans went
      rw [Program.stage_streamed] at dealing
      have confirmed : (p.streamed user t' 1).confirmed = true := by
        cases user <;> exact abreast.confirmed
      have number := (Request.make_spec made).2.1
      have requests : s'.connection.requests = s.connection.requests + 1 := by
        have same := later.content.symm.trans dealing.content
        cases same
        exact later.numbered.trans number
      change Put p m s user t name value (checkResponse (.acknowledge q value count) _ _ _) s'
      rw [checkResponse_acknowledge made value count]
      exact .wrote wrote (.of_dealing dealing later confirmed) rfl requests raises
  · by_cases served : AllServed s'
    · obtain ⟨e, turn, rfl⟩ := missed.failed served
      obtain ⟨mate, only, stands⟩ := missed.2.paired.mate
      have failed : p.serve (requesting m q) = (.error e, turn) := missed.2.paired.sound
      cases wrote : t.set name value with
      | error refusal =>
        rw [wrote] at serves
        obtain ⟨records, refused⟩ := serves
        cases refused.symm.trans failed
        exact .refused wrote ⟨⟨mate, only, stands.program⟩, raises⟩
      | ok t' =>
        rw [wrote] at serves
        obtain ⟨count, records, went⟩ := serves
        cases went.symm.trans failed
    · exact .away served

theorem setParameter_put (abreast : Abreast p m s) (own : p.tables.table? user = some t)
    (named : checkName name = .ok ()) (room : s.connection.requests.toNat + 1 < UInt64.size) :
    Ends (setParameter name value user) s (Put p m s user t name value) := by
  unfold setParameter
  apply (request_put abreast own named room).bind
  · exact fun e s' put => put
  · intro current s' put
    refine .step (run_note _ _ _ _) (.of_run (run_pure _ _) ?_)
    cases put with
    | wrote wrote later orders requests raised =>
      exact .wrote wrote (later.noted _) orders requests raised

inductive Streams (p : Program) (m : Message) (s : Session Crew) (user : Bool) (t : Table)
    (values : List (String × Value)) : Except Error Unit → Session Crew → Prop where
  | away {e : Error} {s' : Session Crew} : ¬ AllServed s' →
      Streams p m s user t values (.error e) s'
  | sent {t' : Table} {m' : Message} {s' : Session Crew} : t.apply values = (t', .ok ()) →
      Abreast (p.streamed user t' values.length) m' s' →
      m'.toSimulator.orders = m.toSimulator.orders →
      s'.world.peer.raised = s.world.peer.raised → Streams p m s user t values (.ok ()) s'
  | refused {sent rest : List (String × Value)} {name : String} {value : Value} {t' : Table}
      {refusal : Table.Refusal} {number : UInt64} {text : Option String} {s' : Session Crew} :
      values = sent ++ (name, value) :: rest → t.apply sent = (t', .ok ()) →
      t'.set name value = .error refusal →
      Fallen (p.streamed user t' sent.length) s.world.peer.raised (.table refusal) s' →
      number.toNat = s.connection.requests.toNat + sent.length + 1 →
      Streams p m s user t values (.error (.notAcknowledged name number text)) s'

theorem setParameters_streams (values : List (String × Value)) (abreast : Abreast p m s)
    (own : p.tables.table? user = some t) (named : ∀ pair ∈ values, checkName pair.1 = .ok ())
    (room : s.connection.requests.toNat + values.length < UInt64.size) :
    Ends (setParameters user values) s (Streams p m s user t values) := by
  induction values generalizing p m s t with
  | nil =>
    refine .of_run (run_pure _ _) (.sent rfl ?_ rfl rfl)
    rwa [List.length_nil, Program.streamed_zero own]
  | cons pair rest ih =>
    obtain ⟨name, value⟩ := pair
    have proper : checkName name = .ok () := named _ List.mem_cons_self
    rw [List.length_cons] at room
    have next : (s.connection.requests + 1).toNat = s.connection.requests.toNat + 1 :=
      Number.toNat_next (by omega)
    unfold setParameters
    apply (setParameter_put abreast own proper (by omega)).bind
    · intro e s' put
      cases put with
      | away unserved => exact .away unserved
      | refused wrote fallen =>
        refine .refused (List.nil_append _).symm rfl wrote ?_ next
        rwa [List.length_nil, Program.streamed_zero own]
    · intro current s' put
      cases put with
      | @wrote t' m' _ wrote later orders requests raised =>
        have proper : ∀ pair ∈ rest, checkName pair.1 = .ok () := fun pair member =>
          named pair (List.mem_cons_of_mem _ member)
        refine (ih later (Program.table?_streamed own t' 1).1 proper ?_).mono ?_
        · rw [requests, next]
          omega
        · intro r s'' streams
          cases streams with
          | away unserved => exact .away unserved
          | @sent t'' m'' _ applied last orders' raised' =>
            rw [Program.streamed_streamed] at last
            refine .sent ?_ last (orders'.trans orders) (raised'.trans raised)
            rw [Table.apply, wrote]
            exact applied
          | @refused sent rest' name' value' t'' refusal number text _ split applied refused fallen
              counted =>
            rw [Program.streamed_streamed, raised] at fallen
            subst split
            refine .refused (List.cons_append ..).symm ?_ refused fallen ?_
            · rw [Table.apply, wrote]
              exact applied
            · rw [counted, requests, next, List.length_cons]
              omega

/-- Values that the table takes all reach it, if every turn is served. -/
theorem Streams.sent_of_applied {values : List (String × Value)} {r : Except Error Unit}
    {t' : Table} (streams : Streams p m s user t values r s')
    (applied : t.apply values = (t', .ok ())) (served : AllServed s') :
    r = .ok () ∧ ∃ m', Abreast (p.streamed user t' values.length) m' s' ∧
      m'.toSimulator.orders = m.toSimulator.orders := by
  cases streams with
  | away unserved => exact absurd served unserved
  | sent went later orders =>
    cases went.symm.trans applied
    exact ⟨rfl, _, later, orders⟩
  | @refused sent rest name value t'' refusal number text _ split before refused =>
    subst split
    cases (Table.apply_refused before refused rest).symm.trans applied

theorem loadFile_streams (path : String) {file : Config.File} {values : List (String × Value)}
    (loaded : loadValues file = .ok values) (abreast : Abreast p m s)
    (own : p.tables.table? user = some t)
    (room : s.connection.requests.toNat + fileCost file < UInt64.size) :
    Ends (loadFile path file user) s fun r s' =>
      Streams p m s user t values (r.map fun _ => ()) s' ∧ ∀ count, r = .ok count →
        count = values.length := by
  rw [fileCost_of_loaded loaded] at room
  unfold loadFile
  rw [loaded]
  refine .step (run_ofExcept _ _) ?_
  have named : ∀ pair ∈ values, checkName pair.1 = .ok () := fun _ => loadValues_named loaded
  apply (setParameters_streams values abreast own named room).bind
  · exact fun e s' streams => ⟨streams, nofun⟩
  · intro _ s' streams
    refine .step (run_note _ _ _ _) (.of_run (run_pure _ _) ⟨?_, ?_⟩)
    · cases streams with
      | sent applied last orders raised => exact .sent applied (last.noted _) orders raised
    · rintro count went
      cases went
      rfl

end Talk

end Simulator

end Lockstep
