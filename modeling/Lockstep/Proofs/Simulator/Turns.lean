import Lockstep.Proofs.Bridge.Standing
import Lockstep.Proofs.Simulator.Crew

/-! The turns that a crew has, whatever it does.

No move makes a turn. One goes missing only where a robot fails or leaves, and
one that is given back was served in the mode that the message asks for.
-/

set_option autoImplicit false

namespace Lockstep

open Channel Message

namespace Crew

variable {crew crew' : Crew} {s s' : Space Message} {m : Message}

def turns (crew : Crew) (s : Space Message) : Nat :=
  crew.held + s.count crew.objects.simulator + s.count crew.objects.robot

/-- Nobody failed and nobody left. -/
structure Loyal (crew : Crew) : Prop where
  raised : crew.raised = []
  deserted : crew.deserted = false

/-- The channel is there, with a message in its region. -/
structure Afloat (crew : Crew) (s : Space Message) (m : Message) : Prop where
  apart : crew.objects.robot ≠ crew.objects.simulator
  robotExists : crew.objects.robot < s.counts.size
  simulatorExists : crew.objects.simulator < s.counts.size
  content : s.content? crew.objects.region = some m
  manned : crew.Manned

theorem Manned.at {seat : Nat} {mate : Mate} (manned : crew.Manned)
    (found : crew.mates[seat]? = some mate) : Aboard crew.objects mate :=
  manned mate (List.mem_of_getElem? found)

theorem Manned.reseat (manned : crew.Manned) (seat : Nat) {mate : Mate}
    (aboard : Aboard crew.objects mate) : (crew.reseat seat mate).Manned := by
  intro other member
  obtain old | rfl := List.mem_or_eq_of_mem_set member
  · exact manned other old
  · exact aboard

theorem Outcome.manned (outcome : crew.Outcome s m crew' s') (manned : crew.Manned) :
    crew'.Manned ∧ crew'.objects = crew.objects := by
  cases outcome with
  | idles => exact ⟨manned, rfl⟩
  | complains cause => exact ⟨manned, rfl⟩
  | joins role objects =>
    refine ⟨?_, rfl⟩
    intro mate member
    obtain old | new := List.mem_append.mp member
    · exact manned mate old
    · obtain rfl := List.mem_singleton.mp new
      exact ⟨role, objects, by simp, by simp⟩
  | leaves =>
    refine ⟨?_, rfl⟩
    intro mate member
    exact manned mate (List.mem_of_mem_eraseIdx member)
  | @takes seat mate _ found =>
    obtain ⟨role, objects, -, -⟩ := manned.at found
    exact ⟨manned.reseat seat ⟨role, objects, fun _ => rfl, fun _ => Nat.succ_pos _⟩, rfl⟩
  | @fails seat mate _ turn found holding =>
    obtain ⟨role, objects, -, had⟩ := manned.at found
    have aboard : Aboard crew.objects (mate.fallen { mate.bridge with program := turn.program }) :=
      ⟨role, objects, by simp [Mate.fallen], fun _ => had (.inl holding)⟩
    exact ⟨manned.reseat seat aboard, rfl⟩
  | @serves seat mate mode _ program found holding =>
    obtain ⟨role, objects, -, had⟩ := manned.at found
    have aboard : Aboard crew.objects
        (mate.served ⟨mate.bridge.endpoint.gaveTurn, program⟩ mode) :=
      ⟨role, objects, by simp [Mate.served], fun _ => had (.inl holding)⟩
    exact ⟨manned.reseat seat aboard, rfl⟩

theorem Outcome.size (outcome : crew.Outcome s m crew' s') :
    s'.counts.size = s.counts.size := by
  cases outcome with
  | takes _ _ _ taken => exact Space.size_counts_take taken
  | serves => exact Space.size_counts_post _ _
  | idles | joins | leaves | complains | fails => rfl

theorem Outcome.names (outcome : crew.Outcome s m crew' s') :
    s'.regionNames = s.regionNames ∧ s'.semaphoreNames = s.semaphoreNames := by
  cases outcome with
  | takes _ _ _ taken =>
    obtain ⟨-, rfl⟩ := Space.take?_eq_some taken
    exact ⟨rfl, rfl⟩
  | idles | joins | leaves | complains | fails | serves => exact ⟨rfl, rfl⟩

theorem Outcome.plan (outcome : crew.Outcome s m crew' s') : crew'.plan = crew.plan := by
  cases outcome with
  | idles | joins | leaves | complains | takes | fails | serves => rfl

theorem Outcome.afloat {m' : Message} (outcome : crew.Outcome s m crew' s')
    (afloat : crew.Afloat s m) (content : s'.content? crew.objects.region = some m') :
    crew'.Afloat s' m' := by
  obtain ⟨manned, same⟩ := outcome.manned afloat.manned
  refine ⟨?_, ?_, ?_, ?_, manned⟩
  · rw [same]
    exact afloat.apart
  · rw [same, outcome.size]
    exact afloat.robotExists
  · rw [same, outcome.size]
    exact afloat.simulatorExists
  · rw [same]
    exact content

theorem Afloat.relabel (afloat : crew.Afloat s m) (plan : List (List Move)) (late : Bool) :
    Afloat { crew with plan := plan, late := late } s m :=
  ⟨afloat.apart, afloat.robotExists, afloat.simulatorExists, afloat.content, afloat.manned⟩

theorem Afloat.write (afloat : crew.Afloat s m) (m' : Message) :
    crew.Afloat (s.setContent crew.objects.region m') m' :=
  ⟨afloat.apart, afloat.robotExists, afloat.simulatorExists,
    Space.content?_setContent afloat.content m', afloat.manned⟩

theorem held_reseat {seat : Nat} {mate : Mate} (found : crew.mates[seat]? = some mate) (n : Mate) :
    (crew.reseat seat n).held + mate.holding.toNat = crew.held + n.holding.toNat :=
  total_set (·.holding.toNat) found n

theorem served_reseat {seat : Nat} {mate : Mate} (found : crew.mates[seat]? = some mate) (n : Mate)
    (mode : Mode) :
    (crew.reseat seat n).served mode + mate.modes.count mode =
      crew.served mode + n.modes.count mode :=
  total_set (·.modes.count mode) found n

theorem held_pos {seat : Nat} {mate : Mate} (found : crew.mates[seat]? = some mate)
    (holding : mate.holding = true) : 0 < crew.held := by
  have counted := le_total (fun mate => mate.holding.toNat) found
  simp only [holding, Bool.toNat_true] at counted
  exact counted

theorem Afloat.takes {seat : Nat} {mate : Mate} (afloat : crew.Afloat s m)
    (found : crew.mates[seat]? = some mate)
    (taken : s.take? mate.bridge.endpoint.other.id = some s') :
    s.count crew.objects.simulator = s'.count crew.objects.simulator + 1 ∧
      s'.count crew.objects.robot = s.count crew.objects.robot := by
  obtain ⟨-, -, other⟩ := (afloat.manned.at found).ids
  rw [other] at taken
  exact ⟨Space.count_take_self taken, Space.count_take_other taken afloat.apart⟩

theorem Afloat.serves {seat : Nat} {mate : Mate} (afloat : crew.Afloat s m)
    (found : crew.mates[seat]? = some mate) (turn : Bridge.Turn) :
    (mate.bridge.answered m turn s).count crew.objects.simulator =
        s.count crew.objects.simulator ∧
      (mate.bridge.answered m turn s).count crew.objects.robot =
        s.count crew.objects.robot + 1 := by
  obtain ⟨-, own, -⟩ := (afloat.manned.at found).ids
  rw [Bridge.count_answered, Bridge.count_answered, own]
  exact ⟨Space.count_post_other _ afloat.apart.symm, Space.count_post_self _ afloat.robotExists⟩

theorem Afloat.pass (afloat : crew.Afloat s m) :
    crew.Afloat (s.post crew.objects.simulator) m ∧
      crew.turns (s.post crew.objects.simulator) = crew.turns s + 1 ∧
      (s.post crew.objects.simulator).count crew.objects.robot = s.count crew.objects.robot := by
  obtain ⟨apart, robotExists, simulatorExists, content, manned⟩ := afloat
  have kept : (s.post crew.objects.simulator).count crew.objects.robot =
      s.count crew.objects.robot := Space.count_post_other _ apart
  refine ⟨⟨apart, ?_, ?_, ?_, manned⟩, ?_, kept⟩
  · rw [Space.size_counts_post]
    exact robotExists
  · rw [Space.size_counts_post]
    exact simulatorExists
  · rw [Space.content?_post]
    exact content
  · have up : (s.post crew.objects.simulator).count crew.objects.simulator =
        s.count crew.objects.simulator + 1 := Space.count_post_self _ simulatorExists
    unfold turns
    omega

theorem Afloat.hand (afloat : crew.Afloat s m) (m' : Message) :
    crew.Afloat ((s.setContent crew.objects.region m').post crew.objects.simulator) m' ∧
      crew.turns ((s.setContent crew.objects.region m').post crew.objects.simulator) =
        crew.turns s + 1 := by
  obtain ⟨handed, more, -⟩ := (afloat.write m').pass
  exact ⟨handed, more⟩

theorem Afloat.gain (afloat : crew.Afloat s m) (taken : s.take? crew.objects.robot = some s') :
    crew.Afloat s' m ∧ crew.turns s = crew.turns s' + 1 := by
  obtain ⟨apart, robotExists, simulatorExists, content, manned⟩ := afloat
  have size := Space.size_counts_take taken
  refine ⟨⟨apart, ?_, ?_, ?_, manned⟩, ?_⟩
  · rw [size]
    exact robotExists
  · rw [size]
    exact simulatorExists
  · rw [Space.content?_take taken]
    exact content
  · have down := Space.count_take_self taken
    have kept := Space.count_take_other taken apart.symm
    unfold turns
    omega

theorem Loyal.of_blame {e : Bridge.Error} (loyal : (crew.blame e).Loyal) : False := by
  have none : crew.raised ++ [e] = [] := loyal.raised
  simp at none

theorem Loyal.of_leave {seat : Nat} {mate : Mate} (loyal : (crew.leave seat mate).Loyal) :
    crew.Loyal ∧ mate.taken = 0 := by
  obtain ⟨raised, deserted⟩ := loyal
  obtain ⟨stayed, fresh⟩ := Bool.or_eq_false_iff.mp deserted
  exact ⟨⟨raised, stayed⟩, Nat.eq_zero_of_not_pos (of_decide_eq_false fresh)⟩

theorem Aboard.fresh {objects : Objects} {mate : Mate} (aboard : Aboard objects mate)
    (fresh : mate.taken = 0) : mate.holding = false ∧ mate.modes = [] := by
  have had := aboard.had
  rw [fresh] at had
  constructor
  · cases holding : mate.holding with
    | false => rfl
    | true => exact absurd (had (.inl holding)) (Nat.lt_irrefl 0)
  · by_contra some
    exact absurd (had (.inr some)) (Nat.lt_irrefl 0)

/-- No move makes a turn, and only failing and leaving lose one. -/
theorem Outcome.balance (outcome : crew.Outcome s m crew' s') (afloat : crew.Afloat s m) :
    crew'.turns s' ≤ crew.turns s ∧
      (crew'.Loyal → crew.Loyal ∧ crew'.turns s' = crew.turns s) := by
  cases outcome with
  | idles => exact ⟨Nat.le_refl _, fun loyal => ⟨loyal, rfl⟩⟩
  | complains cause => exact ⟨Nat.le_refl _, fun loyal => loyal.of_blame.elim⟩
  | @joins b _ _ =>
    have same : total (·.holding.toNat) (crew.mates ++ [⟨b, false, 0, []⟩]) = crew.held :=
      total_append _ _ _
    have kept : turns { crew with mates := crew.mates ++ [⟨b, false, 0, []⟩] } s = crew.turns s := by
      simp only [turns, held] at same ⊢
      rw [same]
    exact ⟨Nat.le_of_eq kept, fun loyal => ⟨⟨loyal.raised, loyal.deserted⟩, kept⟩⟩
  | @leaves seat mate found =>
    have fewer : (crew.leave seat mate).held + mate.holding.toNat = crew.held :=
      total_eraseIdx _ found
    change (crew.leave seat mate).held + s.count crew.objects.simulator +
      s.count crew.objects.robot ≤ crew.turns s ∧ (_ → _ ∧ (crew.leave seat mate).held +
      s.count crew.objects.simulator + s.count crew.objects.robot = crew.turns s)
    unfold turns
    refine ⟨by omega, fun loyal => ?_⟩
    obtain ⟨before, fresh⟩ := loyal.of_leave
    obtain ⟨free, -⟩ := (afloat.manned.at found).fresh fresh
    rw [free, Bool.toNat_false] at fewer
    exact ⟨before, by omega⟩
  | @takes seat mate _ found holding waiting taken =>
    have moved := held_reseat found (mate.after mate.bridge.endpoint.tookTurn)
    obtain ⟨down, kept⟩ := afloat.takes found taken
    have same : (crew.reseat seat (mate.after mate.bridge.endpoint.tookTurn)).held +
        s'.count crew.objects.simulator + s'.count crew.objects.robot = crew.turns s := by
      simp only [holding, Mate.after, Bool.toNat_false, Bool.toNat_true] at moved ⊢
      unfold turns
      omega
    exact ⟨Nat.le_of_eq same, fun loyal => ⟨⟨loyal.raised, loyal.deserted⟩, same⟩⟩
  | @fails seat mate e turn found holding failed =>
    have moved := held_reseat found (mate.fallen { mate.bridge with program := turn.program })
    refine ⟨?_, fun loyal => loyal.of_blame.elim⟩
    change (crew.reseat seat (mate.fallen { mate.bridge with program := turn.program })).held +
        s.count crew.objects.simulator + s.count crew.objects.robot ≤ crew.turns s
    simp only [holding, Mate.fallen, Bool.toNat_false, Bool.toNat_true] at moved ⊢
    unfold turns
    omega
  | @serves seat mate mode turn program found holding went =>
    have moved := held_reseat found (mate.served ⟨mate.bridge.endpoint.gaveTurn, program⟩ mode)
    obtain ⟨kept, up⟩ := afloat.serves found turn
    have same :
        (crew.reseat seat (mate.served ⟨mate.bridge.endpoint.gaveTurn, program⟩ mode)).held +
        (mate.bridge.answered m turn s).count crew.objects.simulator +
        (mate.bridge.answered m turn s).count crew.objects.robot = crew.turns s := by
      simp only [holding, Mate.served, Bool.toNat_false, Bool.toNat_true] at moved ⊢
      unfold turns
      omega
    exact ⟨Nat.le_of_eq same, fun loyal => ⟨⟨loyal.raised, loyal.deserted⟩, same⟩⟩

/-- A turn that a robot failed over stays with it, so nobody else can ever get it. -/
theorem turns_fallen {lead seat : Nat} {mate : Mate} (few : lead + crew.turns s ≤ 1)
    (found : crew.mates[seat]? = some mate) (holding : mate.holding = true) (m : Message)
    (e : Bridge.Error) (turn : Bridge.Turn) :
    lead + ((((crew.reseat seat (mate.fallen { mate.bridge with program := turn.program })).process
      m).blame e).turns (mate.bridge.faulted m turn e s)) = 0 := by
  have moved := held_reseat found (mate.fallen { mate.bridge with program := turn.program })
  change lead + ((crew.reseat seat (mate.fallen _)).held + s.count crew.objects.simulator +
    s.count crew.objects.robot) = 0
  unfold turns at few
  simp only [holding, Mate.fallen, Bool.toNat_true, Bool.toNat_false] at moved ⊢
  omega

theorem Outcome.served (outcome : crew.Outcome s m crew' s') (afloat : crew.Afloat s m)
    (standing : m.Standing) (loyal : crew'.Loyal) (mode : Mode) :
    (m.mode? = some mode → crew'.served mode + s.count crew.objects.robot =
      crew.served mode + s'.count crew.objects.robot) ∧
    (m.mode? ≠ some mode → crew'.served mode = crew.served mode) := by
  cases outcome with
  | idles => exact ⟨fun _ => rfl, fun _ => rfl⟩
  | complains cause => exact loyal.of_blame.elim
  | @joins b _ _ =>
    have same : total (·.modes.count mode) (crew.mates ++ [⟨b, false, 0, []⟩]) =
        crew.served mode := total_append _ _ _
    exact ⟨fun _ => congrArg (· + _) same, fun _ => same⟩
  | @leaves seat mate found =>
    obtain ⟨-, fresh⟩ := loyal.of_leave
    obtain ⟨-, idle⟩ := (afloat.manned.at found).fresh fresh
    have same : (crew.leave seat mate).served mode + mate.modes.count mode = crew.served mode :=
      total_eraseIdx _ found
    rw [idle, List.count_nil, Nat.add_zero] at same
    exact ⟨fun _ => congrArg (· + _) same, fun _ => same⟩
  | @takes seat mate _ found holding waiting taken =>
    have moved := served_reseat found (mate.after mate.bridge.endpoint.tookTurn) mode
    obtain ⟨-, kept⟩ := afloat.takes found taken
    have same : (crew.reseat seat (mate.after mate.bridge.endpoint.tookTurn)).served mode =
        crew.served mode := by
      simp only [Mate.after] at moved ⊢
      omega
    exact ⟨fun _ => by rw [same, kept], fun _ => same⟩
  | fails => exact loyal.of_blame.elim
  | @serves seat mate asked turn program found holding went =>
    have moved := served_reseat found
      (mate.served ⟨mate.bridge.endpoint.gaveTurn, program⟩ asked) mode
    obtain ⟨-, up⟩ := afloat.serves found turn
    obtain ⟨right, -, -⟩ := Bridge.Program.serve_settles standing went
    change (_ → (crew.reseat seat _).served mode + _ = _) ∧
      (_ → (crew.reseat seat _).served mode = _)
    simp only [Mate.served, List.count_append, List.count_singleton] at moved ⊢
    rw [right, up]
    refine ⟨fun same => ?_, fun differs => ?_⟩
    · obtain rfl := Option.some.inj same
      simp only [BEq.rfl, if_true] at moved
      omega
    · have other : (asked == mode) = false := by
        rw [beq_eq_false_iff_ne]
        rintro rfl
        exact differs rfl
      simp only [other, Bool.false_eq_true, if_false] at moved
      omega

theorem Outcome.versed (outcome : crew.Outcome s m crew' s') (loyal : crew'.Loyal)
    (versed : crew.versed = true) : crew'.versed = true := by
  have reseated {seat : Nat} {mate n : Mate} (found : crew.mates[seat]? = some mate)
      (more : mate.taken ≤ n.taken) : (crew.reseat seat n).versed = true := by
    obtain ⟨other, member, had⟩ := List.any_eq_true.mp versed
    obtain ⟨place, seated⟩ := List.mem_iff_getElem?.mp member
    have had : 0 < other.taken := of_decide_eq_true had
    apply List.any_eq_true.mpr
    by_cases same : seat = place
    · subst same
      rw [found] at seated
      obtain rfl := Option.some.inj seated
      have bound := (List.getElem?_eq_some_iff.mp found).1
      exact ⟨n, List.mem_set bound n, decide_eq_true (Nat.lt_of_lt_of_le had more)⟩
    · refine ⟨other, List.mem_iff_getElem?.mpr ⟨place, ?_⟩, decide_eq_true had⟩
      simp only [reseat, List.getElem?_set_ne same, seated]
  cases outcome with
  | idles => exact versed
  | complains => exact versed
  | joins =>
    unfold Crew.versed at versed ⊢
    rw [List.any_append, versed]
    rfl
  | @leaves seat mate found =>
    obtain ⟨-, fresh⟩ := loyal.of_leave
    obtain ⟨other, member, had⟩ := List.any_eq_true.mp versed
    obtain ⟨place, seated⟩ := List.mem_iff_getElem?.mp member
    refine List.any_eq_true.mpr ⟨other, ?_, had⟩
    refine List.mem_eraseIdx_iff_getElem?.mpr ⟨place, ?_, seated⟩
    rintro rfl
    rw [found] at seated
    obtain rfl := Option.some.inj seated
    rw [fresh] at had
    contradiction
  | takes found => exact reseated found (Nat.le_succ _)
  | fails => exact loyal.of_blame.elim
  | serves found => exact reseated found (Nat.le_refl _)

theorem Manned.versed (manned : crew.Manned) (mode : Mode) (some : 0 < crew.served mode) :
    crew.versed = true := by
  by_contra none
  have unserved : crew.served mode = 0 := by
    refine total_eq_zero fun mate member => List.count_eq_zero.mpr fun mode => none ?_
    exact List.any_eq_true.mpr ⟨mate, member,
      decide_eq_true ((manned mate member).had (.inr (List.ne_nil_of_mem mode)))⟩
  omega

end Crew

end Lockstep
