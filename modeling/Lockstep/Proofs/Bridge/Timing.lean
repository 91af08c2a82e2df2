import Mathlib.Algebra.Order.BigOperators.Group.List
import Mathlib.Algebra.Order.Ring.Nat
import Mathlib.Data.List.Induction
import Mathlib.Order.Bounds.Basic
import Lockstep.Bridge.Stats
import Lockstep.Proofs.Number.Words

/-! What the figures of a robot program say of the turns that it recorded.

A record is one equation, two records may change places, and so the figures are those of a
bag of turns: how many there were for each purpose, the extremes of their durations, and their
mean as far as the sum is counted. Words of 64 bits hold the same figures as long
as the number of turns fits into one.
-/

set_option autoImplicit false

namespace Lockstep.Bridge

open Number

structure Lap where
  mode : Mode
  duration : Duration
  deriving DecidableEq, Repr

/-- Nanoseconds of a turn, as far as they are told apart. -/
def Lap.spent (l : Lap) : Nat := min l.duration.nanoseconds longestCounted

theorem Lap.spent_le (l : Lap) : l.spent ≤ longestCounted := Nat.min_le_right _ _

namespace Stats

def ofLaps (laps : List Lap) : Stats := laps.foldl (fun s l => s.record l.mode l.duration) fresh

theorem record_eq (s : Stats) (l : Lap) : s.record l.mode l.duration =
    { turns := s.turns + 1
      parameterTurns := s.parameterTurns + [l.mode].count .applyParameters
      redundantTurns := s.redundantTurns
      controllerTurns := s.controllerTurns + [l.mode].count .runController
      idleTurns := s.idleTurns + [l.mode].count .idle
      shortest := min s.shortest l.spent
      longest := max s.longest l.spent
      total := min (s.total + l.spent) longestCounted } := by
  obtain ⟨mode, duration⟩ := l
  cases mode with
  | applyParameters | runController | idle | exit => rfl

theorem record_comm (s : Stats) (l l' : Lap) :
    (s.record l.mode l.duration).record l'.mode l'.duration =
      (s.record l'.mode l'.duration).record l.mode l.duration := by
  -- The sum may have met its end already; then it stays there in either order.
  have total : min (min (s.total + l.spent) longestCounted + l'.spent) longestCounted =
      min (min (s.total + l'.spent) longestCounted + l.spent) longestCounted := by omega
  simp only [record_eq, mk.injEq, true_and]
  exact ⟨Nat.add_right_comm .., Nat.add_right_comm .., Nat.add_right_comm ..,
    min_right_comm .., max_right_comm .., total⟩

theorem ofLaps_append (laps : List Lap) (l : Lap) :
    ofLaps (laps ++ [l]) = (ofLaps laps).record l.mode l.duration := by
  rw [ofLaps, List.foldl_append]
  rfl

theorem ofLaps_perm {laps laps' : List Lap} (same : laps.Perm laps') :
    ofLaps laps' = ofLaps laps :=
  same.symm.foldl_eq' (fun l _ l' _ s => s.record_comm l l') fresh

theorem isLeast_of_neutral {α : Type} [PartialOrder α] {b m : α} {items : List α}
    (least : IsLeast {d | d ∈ b :: items} m) (neutral : ∀ d ∈ items, d ≤ b)
    (some : items ≠ []) : IsLeast {d | d ∈ items} m := by
  obtain ⟨mem, le⟩ := least
  have below : ∀ d ∈ items, m ≤ d := fun d mem => le (List.mem_cons_of_mem b mem)
  refine ⟨?_, below⟩
  obtain bound | mem := List.mem_cons.mp mem
  · obtain ⟨d, rest, rfl⟩ := List.exists_cons_of_ne_nil some
    have first : d ∈ d :: rest := List.mem_cons_self
    have same : m = d := le_antisymm (below d first) (bound ▸ neutral d first)
    exact same ▸ first
  · exact mem

/-- Figures that are those of some turns. The extremes start from neutral bounds. -/
structure SumsUp (s : Stats) (laps : List Lap) : Prop where
  turns : s.turns = laps.length
  parameter : s.parameterTurns = (laps.map (·.mode)).count .applyParameters
  controller : s.controllerTurns = (laps.map (·.mode)).count .runController
  idle : s.idleTurns = (laps.map (·.mode)).count .idle
  redundant : s.redundantTurns = 0
  least : IsLeast {d | d ∈ longestCounted :: laps.map (·.spent)} s.shortest
  greatest : IsGreatest {d | d ∈ 0 :: laps.map (·.spent)} s.longest
  total : s.total = min (laps.map (·.spent)).sum longestCounted

variable {s : Stats} {laps : List Lap}

theorem SumsUp.fresh : Stats.fresh.SumsUp [] := by
  constructor
  case least => simp [Stats.fresh]
  case greatest => simp [Stats.fresh]
  all_goals rfl

theorem spans_append (first : Nat) (laps : List Lap) (l : Lap) :
    {d | d ∈ first :: (laps ++ [l]).map (·.spent)} =
      insert l.spent {d | d ∈ first :: laps.map (·.spent)} := by
  ext d
  simp only [List.map_append, List.map_cons, List.map_nil, List.mem_cons, List.mem_append,
    List.not_mem_nil, or_false, Set.mem_ofPred_eq, Set.mem_insert_iff]
  tauto

theorem count_append (laps : List Lap) (l : Lap) (mode : Mode) :
    ((laps ++ [l]).map (·.mode)).count mode =
      (laps.map (·.mode)).count mode + [l.mode].count mode := by
  rw [List.map_append, List.count_append]
  rfl

theorem SumsUp.record (sums : s.SumsUp laps) (l : Lap) :
    (s.record l.mode l.duration).SumsUp (laps ++ [l]) := by
  rw [record_eq]
  constructor
  case turns => rw [sums.turns, List.length_append, List.length_singleton]
  case parameter => rw [sums.parameter, count_append]
  case controller => rw [sums.controller, count_append]
  case idle => rw [sums.idle, count_append]
  case redundant => exact sums.redundant
  case least =>
    rw [spans_append, Nat.min_comm]
    exact sums.least.insert l.spent
  case greatest =>
    rw [spans_append, Nat.max_comm]
    exact sums.greatest.insert l.spent
  case total =>
    simp only [sums.total, List.map_append, List.sum_append, List.map_singleton,
      List.sum_singleton]
    omega

theorem sumsUp_ofLaps (laps : List Lap) : (ofLaps laps).SumsUp laps := by
  induction laps using List.reverseRecOn with
  | nil => exact .fresh
  | append_singleton laps l ih =>
    rw [ofLaps_append]
    exact ih.record l

theorem SumsUp.isLeast (sums : s.SumsUp laps) (some : laps ≠ []) :
    IsLeast {d | d ∈ laps.map (·.spent)} s.shortest := by
  refine isLeast_of_neutral sums.least ?_ (mt List.map_eq_nil_iff.mp some)
  intro d mem
  obtain ⟨l, -, rfl⟩ := List.mem_map.mp mem
  exact l.spent_le

theorem SumsUp.isGreatest (sums : s.SumsUp laps) (some : laps ≠ []) :
    IsGreatest {d | d ∈ laps.map (·.spent)} s.longest :=
  isLeast_of_neutral (α := Natᵒᵈ) sums.greatest (fun d _ => Nat.zero_le d)
    (mt List.map_eq_nil_iff.mp some)

theorem SumsUp.average_eq (sums : s.SumsUp laps) :
    s.average = min (laps.map (·.spent)).sum longestCounted / laps.length := by
  rw [average, sums.turns, sums.total]
  split
  next none => rw [none, Nat.div_zero]
  next => rfl

theorem SumsUp.average_le (sums : s.SumsUp laps) : s.average ≤ s.longest := by
  have each : ∀ d ∈ laps.map (·.spent), d ≤ s.longest :=
    fun d mem => sums.greatest.2 (List.mem_cons_of_mem _ mem)
  rw [sums.average_eq]
  apply Nat.div_le_of_le_mul
  calc min (laps.map (·.spent)).sum longestCounted
      ≤ (laps.map (·.spent)).sum := Nat.min_le_left _ _
    _ ≤ (laps.map (·.spent)).length • s.longest := List.sum_le_card_nsmul _ _ each
    _ = laps.length * s.longest := by rw [List.length_map, Nat.nsmul_eq_mul]

theorem SumsUp.le_average (sums : s.SumsUp laps) (some : laps ≠ [])
    (counted : (laps.map (·.spent)).sum ≤ longestCounted) : s.shortest ≤ s.average := by
  have each : ∀ d ∈ laps.map (·.spent), s.shortest ≤ d :=
    fun d mem => sums.least.2 (List.mem_cons_of_mem _ mem)
  rw [sums.average_eq, Nat.min_eq_left counted,
    Nat.le_div_iff_mul_le (List.length_pos_iff.mpr some)]
  calc s.shortest * laps.length
      = (laps.map (·.spent)).length • s.shortest := by
        rw [List.length_map, Nat.nsmul_eq_mul, Nat.mul_comm]
    _ ≤ (laps.map (·.spent)).sum := List.card_nsmul_le_sum _ _ each

end Stats

-- The same figures in words, as they are kept. Nothing comes of a count beyond the end of its word.

/-- Figures of a robot program in words of 64 bits. -/
structure Dials where
  turns : UInt64
  parameterTurns : UInt64
  redundantTurns : UInt64
  controllerTurns : UInt64
  idleTurns : UInt64
  shortest : UInt64
  longest : UInt64
  total : UInt64

namespace Dials

def last : UInt64 := .ofNat longestCounted

/-- A duration in a word; one that has no room in it counts as the longest that has. -/
def ofDuration (d : Duration) : UInt64 :=
  if d.nanoseconds < UInt64.size then .ofNat d.nanoseconds else last

def addWithin (a b : UInt64) : UInt64 := if a.toNat + b.toNat < UInt64.size then a + b else last

def fresh : Dials := ⟨0, 0, 0, 0, 0, last, 0, 0⟩

def count? (d : Dials) : Mode → Option Dials
  | .applyParameters =>
    (successor? d.parameterTurns.toBitVec).map fun n => { d with parameterTurns := .ofBitVec n }
  | .runController =>
    (successor? d.controllerTurns.toBitVec).map fun n => { d with controllerTurns := .ofBitVec n }
  | .idle => (successor? d.idleTurns.toBitVec).map fun n => { d with idleTurns := .ofBitVec n }
  | .exit => some d

def measure? (d : Dials) (duration : Duration) : Option Dials :=
  let spent := ofDuration duration
  (successor? d.turns.toBitVec).map fun n =>
    { d with
      turns := .ofBitVec n
      shortest := min d.shortest spent
      longest := max d.longest spent
      total := addWithin d.total spent }

def record? (d : Dials) (l : Lap) : Option Dials := (d.measure? l.duration).bind (·.count? l.mode)

def average (d : Dials) : UInt64 := if d.turns = 0 then 0 else d.total / d.turns

def ofLaps? (laps : List Lap) : Option Dials := laps.foldlM record? fresh

def stats (d : Dials) : Stats :=
  ⟨d.turns.toNat, d.parameterTurns.toNat, d.redundantTurns.toNat, d.controllerTurns.toNat,
    d.idleTurns.toNat, d.shortest.toNat, d.longest.toNat, d.total.toNat⟩

variable {d : Dials}

theorem toNat_ofDuration (l : Lap) : (ofDuration l.duration).toNat = l.spent := by
  unfold ofDuration Lap.spent
  split
  next room =>
    rw [UInt64.toNat_ofNat_of_lt' room]
    exact (Nat.min_eq_left (Nat.le_of_lt_succ room)).symm
  next full => exact (Nat.min_eq_right (Nat.le_of_succ_le (Nat.not_lt.mp full))).symm

theorem toNat_addWithin (a b : UInt64) :
    (addWithin a b).toNat = min (a.toNat + b.toNat) longestCounted := by
  unfold addWithin
  split
  next room =>
    rw [UInt64.toNat_add, Nat.mod_eq_of_lt room]
    exact (Nat.min_eq_left (Nat.le_of_lt_succ room)).symm
  next full => exact (Nat.min_eq_right (Nat.le_of_succ_le (Nat.not_lt.mp full))).symm

theorem toNat_min (a b : UInt64) : (min a b).toNat = min a.toNat b.toNat := by
  change (if a ≤ b then a else b).toNat = _
  simp only [apply_ite UInt64.toNat, UInt64.le_iff_toNat_le, Nat.min_def]

theorem toNat_max (a b : UInt64) : (max a b).toNat = max a.toNat b.toNat := by
  change (if a ≤ b then b else a).toNat = _
  simp only [apply_ite UInt64.toNat, UInt64.le_iff_toNat_le, Nat.max_def]

theorem toNat_advanced {n : UInt64} (room : n.toNat + 1 < UInt64.size) :
    (UInt64.ofBitVec (n.toBitVec + 1)).toNat = n.toNat + 1 := toNat_successor room

theorem measure?_of_room (l : Lap) (room : d.turns.toNat + 1 < UInt64.size) :
    ∃ d', d.measure? l.duration = some d' ∧ d'.stats = d.stats.measure l.duration := by
  rw [measure?, successor?_of_room room]
  refine ⟨_, rfl, ?_⟩
  simp only [stats, toNat_advanced room, toNat_min, toNat_max, toNat_addWithin,
    toNat_ofDuration]
  rfl

theorem count?_of_room (mode : Mode) (parameter : d.parameterTurns.toNat + 1 < UInt64.size)
    (controller : d.controllerTurns.toNat + 1 < UInt64.size)
    (idle : d.idleTurns.toNat + 1 < UInt64.size) :
    ∃ d', d.count? mode = some d' ∧ d'.stats = d.stats.count mode := by
  cases mode with
  | applyParameters =>
    rw [count?, successor?_of_room parameter]
    refine ⟨_, rfl, ?_⟩
    simp only [stats, toNat_advanced parameter]
    rfl
  | runController =>
    rw [count?, successor?_of_room controller]
    refine ⟨_, rfl, ?_⟩
    simp only [stats, toNat_advanced controller]
    rfl
  | idle =>
    rw [count?, successor?_of_room idle]
    refine ⟨_, rfl, ?_⟩
    simp only [stats, toNat_advanced idle]
    rfl
  | exit => exact ⟨d, rfl, rfl⟩

/-- A record that has room in its words is the record of the figures that they hold. -/
theorem record?_of_room {laps : List Lap} (sums : d.stats.SumsUp laps)
    (room : laps.length + 1 < UInt64.size) (l : Lap) :
    ∃ d', d.record? l = some d' ∧ d'.stats = d.stats.record l.mode l.duration := by
  have few (mode : Mode) : (laps.map (·.mode)).count mode + 1 < UInt64.size := by
    have le : (laps.map (·.mode)).count mode ≤ (laps.map (·.mode)).length := List.count_le_length
    rw [List.length_map] at le
    exact Nat.lt_of_le_of_lt (Nat.succ_le_succ le) room
  have turns : d.turns.toNat = laps.length := sums.turns
  obtain ⟨d', measured, same⟩ := measure?_of_room l (turns ▸ room)
  -- No purpose counts more turns than there are.
  have parameter : d'.parameterTurns.toNat = _ :=
    (congrArg Stats.parameterTurns same).trans sums.parameter
  have controller : d'.controllerTurns.toNat = _ :=
    (congrArg Stats.controllerTurns same).trans sums.controller
  have idle : d'.idleTurns.toNat = _ := (congrArg Stats.idleTurns same).trans sums.idle
  obtain ⟨d'', counted, same'⟩ := count?_of_room (d := d') l.mode
    (parameter ▸ few .applyParameters) (controller ▸ few .runController) (idle ▸ few .idle)
  refine ⟨d'', ?_, ?_⟩
  · rw [record?, measured, Option.bind_some, counted]
  · rw [same', same, Stats.record]

theorem record?_of_full (full : UInt64.size ≤ d.turns.toNat + 1) (l : Lap) :
    d.record? l = none := by
  rw [record?, measure?, successor?_of_full full]
  rfl

theorem toNat_average (d : Dials) : d.average.toNat = d.stats.average := by
  have zero_iff : d.turns = 0 ↔ d.turns.toNat = 0 := UInt64.toNat_inj.symm
  unfold average Stats.average
  rw [apply_ite UInt64.toNat, UInt64.toNat_div]
  simp only [zero_iff]
  rfl

theorem ofLaps?_append (laps : List Lap) (l : Lap) :
    ofLaps? (laps ++ [l]) = (ofLaps? laps).bind (·.record? l) := by
  rw [ofLaps?, List.foldlM_append, ofLaps?]
  cases laps.foldlM record? fresh with
  | none => rfl
  | some d => exact bind_pure (d.record? l)

/-- Words go on as long as the number of turns has room in one, and hold the figures till then. -/
theorem ofLaps?_eq (laps : List Lap) : (ofLaps? laps).map stats =
    if laps.length < UInt64.size then some (.ofLaps laps) else none := by
  induction laps using List.reverseRecOn with
  | nil => rfl
  | append_singleton laps l ih =>
    rw [ofLaps?_append, List.length_append, List.length_singleton]
    by_cases few : laps.length < UInt64.size
    · rw [if_pos few, Option.map_eq_some_iff] at ih
      obtain ⟨d, held, same⟩ := ih
      have sums : d.stats.SumsUp laps := same ▸ Stats.sumsUp_ofLaps laps
      rw [held, Option.bind_some]
      by_cases room : laps.length + 1 < UInt64.size
      · obtain ⟨d', recorded, same'⟩ := record?_of_room sums room l
        rw [recorded, if_pos room, Option.map_some, same', same, Stats.ofLaps_append]
      · have turns : d.turns.toNat = laps.length := sums.turns
        rw [record?_of_full (turns ▸ Nat.not_lt.mp room) l, if_neg room]
        rfl
    · rw [if_neg few, Option.map_eq_none_iff] at ih
      have many : ¬ laps.length + 1 < UInt64.size := fun room => few (Nat.lt_of_succ_lt room)
      rw [ih, if_neg many]
      rfl

end Dials

/-- Whatever turns are recorded, the figures are those of the turns: how many there were, and how
many for each purpose but to leave; the least and the greatest duration; and as mean the sum of the
durations, as far as it is counted, divided by the number of turns and rounded down. The mean is
never beyond the longest turn, and not below the shortest as long as the whole sum is counted.
None of it depends on the order of the turns. Words of 64 bits hold the same figures until the
number of turns outgrows one; no other figure does so before. -/
theorem figures_of_turns (laps : List Lap) :
    let s := Stats.ofLaps laps
    let spans := laps.map (·.spent)
    s.turns = laps.length ∧
    s.parameterTurns = (laps.map (·.mode)).count .applyParameters ∧
    s.controllerTurns = (laps.map (·.mode)).count .runController ∧
    s.idleTurns = (laps.map (·.mode)).count .idle ∧
    s.redundantTurns = 0 ∧
    (laps = [] → s.average = 0) ∧
    (laps ≠ [] → IsLeast {d | d ∈ spans} s.shortest ∧ IsGreatest {d | d ∈ spans} s.longest ∧
      s.average = min spans.sum longestCounted / laps.length) ∧
    s.average ≤ s.longest ∧
    (laps ≠ [] → spans.sum ≤ longestCounted → s.shortest ≤ s.average) ∧
    (∀ laps', laps.Perm laps' → Stats.ofLaps laps' = s) ∧
    (Dials.ofLaps? laps).map (fun d => (d.stats, d.average.toNat)) =
      if laps.length < UInt64.size then some (s, s.average) else none := by
  have sums := Stats.sumsUp_ofLaps laps
  refine ⟨sums.turns, sums.parameter, sums.controller, sums.idle, sums.redundant, ?none, ?some,
    sums.average_le, sums.le_average, fun _ same => Stats.ofLaps_perm same, ?words⟩
  case none =>
    rintro rfl
    rfl
  case some => exact fun some => ⟨sums.isLeast some, sums.isGreatest some, sums.average_eq⟩
  case words =>
    have held := congrArg (Option.map fun s => (s, s.average)) (Dials.ofLaps?_eq laps)
    rw [Option.map_map, apply_ite (Option.map _), Option.map_some, Option.map_none] at held
    simpa only [Function.comp_def, ← Dials.toNat_average] using held

/-- A sum that is not counted to its end can have a mean below the shortest turn. -/
example :
    let long : Lap := ⟨.idle, ⟨longestCounted⟩⟩
    let s := Stats.ofLaps [long, long]
    s.average < s.shortest := by decide

end Lockstep.Bridge
