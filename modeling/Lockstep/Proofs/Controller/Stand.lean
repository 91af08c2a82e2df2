import Lockstep.Controller
import Lockstep.Proofs.Effect
import Lockstep.Proofs.Parameter.Declared

/-! What a controller leaves alone and what it can fail with.

On tables that declare what it needs a standing controller finds every parameter, so only a
measurement can stop it. It counts the iterations that it gets through, and starts over when
it is prepared.
-/

set_option autoImplicit false

namespace Lockstep.Controller

open Message Parameter Effect

/-- What a controller complains of: a parameter of those that it needs, or a measurement. -/
def Error.Own : Error → Prop
  | .parameter name _ => name ∈ [Table.standStiffness, Table.standDamping, Stand.homePose,
      Stand.maxTorque, Stand.blendIterations]
  | .nonFinite _ _ => True

namespace Stand

theorem recordStart_keeps (measured : Leg → PerJoint Single) (legs : List Leg) (c : Stand) :
    (recordStart measured legs c).2 = { c with start := (recordStart measured legs c).2.start } := by
  induction legs generalizing c with
  | nil => rfl
  | cons leg rest ih =>
    simp only [recordStart]
    split
    · rw [ih]
    · rfl

theorem recordStart_nonFinite {measured : Leg → PerJoint Single} {legs : List Leg} {c : Stand}
    {e : Error} (failed : (recordStart measured legs c).1 = .error e) :
    ∃ leg, e = .nonFinite .position leg := by
  induction legs generalizing c with
  | nil => cases failed
  | cons leg rest ih =>
    simp only [recordStart] at failed
    split at failed
    · exact ih failed
    · cases failed
      exact ⟨leg, rfl⟩

theorem commandLegs_nonFinite {c : Stand} {p : Plan} {robot : Robot} {input : ToRobot}
    {legs : List Leg} {output : ToSimulator} {e : Error}
    (failed : (c.commandLegs p robot input legs output).1 = .error e) :
    ∃ leg, e = .nonFinite .velocity leg := by
  induction legs generalizing output with
  | nil => cases failed
  | cons leg rest ih =>
    simp only [commandLegs] at failed
    split at failed
    · exact ih failed
    · cases failed
      exact ⟨leg, rfl⟩

theorem required_error {α : Type} {get : Table → String → Option α} {kind : Kind} {t : Table}
    {name : String} {e : Error} (failed : required get kind t name = .error e) :
    e = .parameter name kind := by
  unfold required at failed
  split at failed
  · cases failed
  · cases failed
    rfl

theorem requiredTriple_error {t : Table} {name : String} {e : Error}
    (failed : requiredTriple t name = .error e) : e = .parameter name .vec3Double := by
  unfold requiredTriple at failed
  cases got : required Table.vec3Double? .vec3Double t name with
  | error cause =>
    rw [got] at failed
    cases failed
    exact required_error got
  | ok v =>
    rw [got] at failed
    cases failed

theorem plan_error {c : Stand} {parameters : Table} {e : Error}
    (failed : c.plan parameters = .error e) : e.Own := by
  obtain stiffness | ⟨_, -, failed⟩ := bind_error failed
  · rw [requiredTriple_error stiffness]
    simp [Error.Own]
  obtain damping | ⟨_, -, failed⟩ := bind_error failed
  · rw [requiredTriple_error damping]
    simp [Error.Own]
  obtain home | ⟨_, -, failed⟩ := bind_error failed
  · rw [requiredTriple_error home]
    simp [Error.Own]
  obtain limit | ⟨_, -, failed⟩ := bind_error failed
  · rw [required_error limit]
    simp [Error.Own]
  obtain total | ⟨_, -, failed⟩ := bind_error failed
  · rw [required_error total]
    simp [Error.Own]
  · cases failed

theorem requiredTriple_ok {t : Table} {name : String}
    (declares : t.declared.find? (·.1 == name) = some (name, .vec3Double)) :
    ∃ v, requiredTriple t name = .ok v := by
  obtain ⟨_, found⟩ := Table.typed?_of_declared declares
  obtain ⟨v, found, -⟩ := Option.map_eq_some_iff.mp found
  exact ⟨_, by rw [requiredTriple, required, found]; rfl⟩

/-- What a controller needs is declared, with the kinds that it needs. -/
theorem plan_ok {c : Stand} {parameters : Table} (robot : Table.robot.Ripens parameters)
    (user : fresh.user.Ripens c.user) : ∃ p, c.plan parameters = .ok p := by
  obtain ⟨stiffness, foundStiffness⟩ : ∃ v, requiredTriple parameters Table.standStiffness = .ok v :=
    requiredTriple_ok (by rw [robot.declared]; decide +kernel)
  obtain ⟨damping, foundDamping⟩ : ∃ v, requiredTriple parameters Table.standDamping = .ok v :=
    requiredTriple_ok (by rw [robot.declared]; decide +kernel)
  obtain ⟨home, foundHome⟩ : ∃ v, requiredTriple c.user homePose = .ok v :=
    requiredTriple_ok (by rw [user.declared]; decide +kernel)
  have declaresLimit : c.user.declared.find? (·.1 == maxTorque) = some (maxTorque, .float) := by
    rw [user.declared]
    decide +kernel
  have declaresTotal : c.user.declared.find? (·.1 == blendIterations) =
      some (blendIterations, .s64) := by
    rw [user.declared]
    decide +kernel
  obtain ⟨_, foundLimit⟩ := Table.typed?_of_declared declaresLimit
  obtain ⟨limit, foundLimit, -⟩ := Option.map_eq_some_iff.mp foundLimit
  obtain ⟨_, foundTotal⟩ := Table.typed?_of_declared declaresTotal
  obtain ⟨total, foundTotal, -⟩ := Option.map_eq_some_iff.mp foundTotal
  refine ⟨⟨stiffness, damping, home, limit, blendShare c.iteration total⟩, ?_⟩
  unfold plan required
  rw [foundStiffness, foundDamping, foundHome, foundLimit, foundTotal]
  rfl

end Stand

theorem user?_prepare (c : Controller) (robot : Robot) (input : ToRobot) :
    (c.prepare robot input).2.user? = c.user? := by
  cases c with
  | passive => rfl
  | stand c =>
    have kept := congrArg Stand.user
      (c.recordStart_keeps (input.positions robot) (List.finRange legCount))
    simp only [prepare, Stand.prepare, user?]
    generalize Stand.recordStart (input.positions robot) (List.finRange legCount) c = recorded
      at kept
    obtain ⟨e | _, c'⟩ := recorded
    · exact congrArg some kept
    · exact congrArg some kept

theorem user?_run (c : Controller) (robot : Robot) (parameters : Table) (input : ToRobot)
    (output : ToSimulator) : (c.run robot parameters input output).2.1.user? = c.user? := by
  cases c with
  | passive => rfl
  | stand c =>
    simp only [run, Stand.run]
    cases c.plan parameters with
    | error e => rfl
    | ok p =>
      dsimp only
      split
      · rfl
      · rfl

theorem user?_setUser {c : Controller} {user : Table} (has : c.user? = some user) (user' : Table) :
    (c.setUser user').user? = some user' := by
  cases c with
  | passive => cases has
  | stand c => rfl

theorem prepare_error {c : Controller} {robot : Robot} {input : ToRobot} {e : Error}
    (failed : (c.prepare robot input).1 = .error e) : e.Own := by
  cases c with
  | passive => cases failed
  | stand c =>
    simp only [prepare, Stand.prepare] at failed
    split at failed
    · cases failed
    next recorded =>
      cases failed
      obtain ⟨leg, rfl⟩ := Stand.recordStart_nonFinite (congrArg Prod.fst recorded)
      trivial

theorem run_error {c : Controller} {robot : Robot} {parameters : Table} {input : ToRobot}
    {output : ToSimulator} {e : Error}
    (failed : (c.run robot parameters input output).1 = .error e) : e.Own := by
  cases c with
  | passive => cases failed
  | stand c =>
    simp only [run, Stand.run] at failed
    cases planned : c.plan parameters with
    | error cause =>
      rw [planned] at failed
      cases failed
      exact Stand.plan_error planned
    | ok p =>
      simp only [planned] at failed
      split at failed
      next commanded =>
        cases failed
        obtain ⟨leg, rfl⟩ := Stand.commandLegs_nonFinite (congrArg Prod.fst commanded)
        trivial
      next => cases failed

variable {c : Controller} {user : Table} {n : Nat}

theorem iterations?_setUser (c : Controller) (user : Table) :
    (c.setUser user).iterations? = c.iterations? := by
  cases c with
  | passive => rfl
  | stand c => rfl

/-- Only a measurement keeps a controller from being prepared; it counts from zero then. -/
theorem prepare_counts (has : c.user? = some user) (count : c.iterations? = some n) (robot : Robot)
    (input : ToRobot) :
    ((c.prepare robot input).1 = .ok () ∧ (c.prepare robot input).2.iterations? = some 0) ∨
    ∃ leg, (c.prepare robot input).1 = .error (.nonFinite .position leg) ∧
      (c.prepare robot input).2.iterations? = some n := by
  cases c with
  | passive => cases has
  | stand c =>
    have kept := congrArg Stand.iteration
      (c.recordStart_keeps (input.positions robot) (List.finRange legCount))
    have stops := @Stand.recordStart_nonFinite (input.positions robot) (List.finRange legCount) c
    simp only [prepare, Stand.prepare]
    generalize Stand.recordStart (input.positions robot) (List.finRange legCount) c = recorded
      at kept stops
    obtain ⟨e | _, c'⟩ := recorded
    · obtain ⟨leg, rfl⟩ := stops rfl
      exact .inr ⟨leg, rfl, (congrArg some kept).trans count⟩
    · exact .inl ⟨rfl, rfl⟩

theorem run_counts {parameters : Table} (has : c.user? = some user)
    (count : c.iterations? = some n) (declares : Table.robot.Ripens parameters)
    (declaresUser : Stand.fresh.user.Ripens user) (robot : Robot) (input : ToRobot)
    (output : ToSimulator) :
    ((c.run robot parameters input output).1 = .ok () ∧
      (c.run robot parameters input output).2.1.iterations? = some (n + 1)) ∨
    ∃ leg, (c.run robot parameters input output).1 = .error (.nonFinite .velocity leg) ∧
      (c.run robot parameters input output).2.1.iterations? = some n := by
  cases c with
  | passive => cases has
  | stand c =>
    obtain rfl := Option.some.inj has
    obtain rfl := Option.some.inj count
    obtain ⟨p, planned⟩ := Stand.plan_ok declares declaresUser
    have stops := @Stand.commandLegs_nonFinite c p robot input (List.finRange legCount) output
    simp only [run, Stand.run, planned]
    generalize c.commandLegs p robot input (List.finRange legCount) output = commanded at stops
    obtain ⟨e | _, output'⟩ := commanded
    · obtain ⟨leg, rfl⟩ := stops rfl
      exact .inr ⟨leg, rfl, rfl⟩
    · exact .inl ⟨rfl, rfl⟩

end Lockstep.Controller
