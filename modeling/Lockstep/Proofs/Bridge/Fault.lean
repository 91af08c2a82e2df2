import Lockstep.Proofs.Bridge.Applied
import Lockstep.Proofs.Text.Plain
import Lockstep.Proofs.Text.Terminated

/-! The text of a fault, from the robot that fails to the simulator that reads it.

Every part of such a text is a word of the program's own, a number, a name from
one of its tables, or one that the simulator sent, and none of them has a NUL.
-/

set_option autoImplicit false

namespace Lockstep

open Parameter Text Effect

theorem Text.Utf8.Fault.legible_message (fault : Utf8.Fault) : Legible fault.message := by
  unfold message
  split
  · exact .append (.append (.append (by decide) (plain_number _)) (by decide)) (plain_number _)
  · exact .append (by decide) (plain_number _)

theorem Robot.plain_label (r : Robot) : Plain r.label := by cases r <;> decide

namespace Parameter

theorem Kind.plain_name (k : Kind) : Plain k.name := by cases k <;> decide

theorem checkName_error {name : String} {e : Error} (failed : checkName name = .error e) :
    Legible e.message := by
  unfold checkName at failed
  split at failed
  · cases failed
    decide
  split at failed
  · cases failed
    exact .append (by decide) (((by decide : Plain _).append (plain_escaped name)).append
      (by decide))
  split at failed
  next free long =>
    cases failed
    exact .append (.append (.append (.append (.append (.append (by decide) free) (by decide))
      (plain_number _)) (by decide)) (plain_number _)) (by decide)
  · cases failed

theorem decodeName_error {wire : WireName} {e : Error} (failed : decodeName wire = .error e) :
    Legible e.message := by
  unfold decodeName at failed
  split at failed
  · cases failed
    decide
  obtain malformed | ⟨name, -, failed⟩ := bind_error failed
  · obtain ⟨fault, -, rfl⟩ := mapError_error malformed
    have text := fault.legible_message.plain
    exact .append (by decide) ((by decide : Plain _).append text)
  obtain refused | ⟨_, -, failed⟩ := bind_error failed
  · exact checkName_error refused
  · cases failed

theorem decodeName_plain {wire : WireName} {name : String} (read : decodeName wire = .ok name) :
    Plain name := by
  unfold decodeName at read
  split at read
  · cases read
  obtain ⟨decoded, -, read⟩ := bind_ok read
  obtain ⟨_, checked, read⟩ := bind_ok read
  cases read
  exact (checkName_eq_ok checked).1

namespace Table

structure Plain (t : Table) : Prop where
  label : Text.Plain t.label
  names : ∀ e ∈ t.entries, Text.Plain e.name

variable {t : Table} {name : String}

theorem Named.plain (named : t.Named) (label : Text.Plain t.label) : t.Plain :=
  ⟨label, fun e member => (checkName_eq_ok (named e member)).1⟩

theorem legible_unknown (named : Text.Plain name) (plain : t.Plain) :
    Legible (Refusal.unknown name t.label).message :=
  .append (.append (.append (.append (by decide) named) (by decide)) plain.label) (by decide)

theorem legible_mismatch (named : Text.Plain name) (stored requested : Kind) :
    Legible (Refusal.mismatch name stored requested).message :=
  .append (.append (.append (.append (.append (by decide) named) (by decide)) stored.plain_name)
    (by decide)) requested.plain_name

theorem requireComplete_error {refusal : Refusal} (plain : t.Plain)
    (failed : t.requireComplete = .error refusal) : Legible refusal.message := by
  unfold requireComplete at failed
  split at failed
  · cases failed
  cases failed
  have missing : Text.Plain (String.intercalate ", " t.uninitialized) := by
    refine .intercalate (by decide) fun name member => ?_
    obtain ⟨e, inside, rfl⟩ := List.mem_map.mp member
    exact plain.names e (List.mem_filter.mp inside |>.1)
  exact .append (.append (.append (by decide) plain.label) (by decide)) missing

theorem Plain.written (plain : t.Plain) (name : String) (value : Value) :
    (t.written name value).Plain := by
  refine ⟨plain.label, fun e member => ?_⟩
  obtain ⟨old, inside, rfl⟩ := List.mem_map.mp member
  have named := plain.names old inside
  split
  next same => exact same ▸ named
  next => exact named

end Table

end Parameter

theorem Controller.Error.legible_message {e : Error} (own : e.Own) : Legible e.message := by
  cases e with
  | parameter name expected =>
    have named : Plain name := by
      have all : ∀ name ∈ [Table.standStiffness, Table.standDamping, Stand.homePose,
        Stand.maxTorque, Stand.blendIterations], Plain name := by decide
      exact all name own
    exact .append (.append (.append (by decide) named) (by decide)) expected.plain_name
  | nonFinite what leg =>
    have measured : Plain what.label := by cases what <;> decide
    exact .append (.append (.append (by decide) measured) (by decide)) (plain_number _)

namespace Message

theorem decodeRequestKind_error {tag : UInt32} {e : Parameter.Error}
    (failed : decodeRequestKind tag = .error e) : Legible e.message := by
  unfold decodeRequestKind at failed
  split at failed
  · cases failed
  · cases failed
    exact .append (by decide) (plain_number _)

theorem decodeKind_error {tag : UInt32} {e : Parameter.Error}
    (failed : decodeKind tag = .error e) : Legible e.message := by
  unfold decodeKind at failed
  split at failed
  · cases failed
  · cases failed
    exact .append (by decide) (plain_number _)

end Message

namespace Bridge

open Message

structure Program.Plain (p : Program) : Prop where
  parameters : p.parameters.Plain
  user : ∀ t, p.controller.user? = some t → t.Plain

theorem serveRequest_error {q : Request} {kind : RequestKind} {name : String} {valueKind : Kind}
    {t : Table} {e : Error} (plain : t.Plain) (named : Text.Plain name)
    (failed : serveRequest q kind name valueKind t = .error e) : Legible e.message := by
  cases found : t.lookup? name with
  | none =>
    rw [serveRequest_unknown found] at failed
    cases failed
    exact Table.legible_unknown named plain
  | some entry =>
    by_cases same : entry.kind = valueKind
    · cases writes : kind.writes with
      | true => cases (serveRequest_write found same writes).symm.trans failed
      | false => cases (serveRequest_read found same writes).symm.trans failed
    · rw [serveRequest_mismatch found same] at failed
      cases failed
      exact Table.legible_mismatch named _ _

theorem respond_error {q : Request} {r : Response} {t : Table} {user? : Option Table} {e : Error}
    (plain : t.Plain) (user : ∀ t, user? = some t → t.Plain)
    (failed : respond q r t user? = .error e) : Legible e.message := by
  cases refuses_of_respond failed with
  | number =>
    exact .append (.append (.append (by decide) (plain_number _)) (by decide)) (plain_number _)
  | kind unknown => exact decodeRequestKind_error unknown
  | name unread => exact decodeName_error unread
  | valueKind unknown => exact decodeKind_error unknown
  | table fresh which refused =>
    have named := decodeName_plain fresh.name
    obtain rfl | has := which
    · exact serveRequest_error plain named refused
    · exact serveRequest_error (user _ has) named refused

theorem serveRequest_plain {q : Request} {kind : RequestKind} {name : String} {valueKind : Kind}
    {t t' : Table} {value : Value} (plain : t.Plain)
    (served : serveRequest q kind name valueKind t = .ok (value, t')) : t'.Plain := by
  cases found : t.lookup? name with
  | none => cases (serveRequest_unknown found).symm.trans served
  | some entry =>
    by_cases same : entry.kind = valueKind
    · cases writes : kind.writes with
      | true =>
        cases (serveRequest_write found same writes).symm.trans served
        exact plain.written _ _
      | false =>
        cases (serveRequest_read found same writes).symm.trans served
        exact plain
    · cases (serveRequest_mismatch found same).symm.trans served

theorem respond_plain {q : Request} {r : Response} {t : Table} {user? : Option Table}
    {answer : Answer} (plain : t.Plain) (user : ∀ t, user? = some t → t.Plain)
    (answered : respond q r t user? = .ok answer) :
    answer.robot.Plain ∧ ∀ t, answer.user? = some t → t.Plain := by
  by_cases old : q.number ≤ r.number
  · cases (respond_old old t user?).symm.trans answered
    exact ⟨plain, user⟩
  obtain ⟨kind, name, valueKind, fresh⟩ := fresh_of_respond old answered
  cases own : kind.user with
  | false =>
    rw [respond_robot fresh t own] at answered
    obtain ⟨⟨value, t'⟩, served, rfl⟩ := map_ok answered
    exact ⟨serveRequest_plain plain served, user⟩
  | true =>
    cases user? with
    | none =>
      cases (respond_userless fresh t own).symm.trans answered
      exact ⟨plain, nofun⟩
    | some table =>
      rw [respond_user fresh t own table] at answered
      obtain ⟨⟨value, table'⟩, served, rfl⟩ := map_ok answered
      refine ⟨plain, fun other same => ?_⟩
      cases same
      exact serveRequest_plain (user table rfl) served

theorem Program.Plain.serve {p : Program} {m : Message} {r : Except Error Mode} {t : Turn}
    (plain : p.Plain) (served : p.serve m = (r, t)) : t.program.Plain := by
  by_cases went : r = .ok .applyParameters
  · subst went
    have asked : m.mode? = some .applyParameters := by
      have serves := p.serve_serves m
      rw [served] at serves
      cases serves with
      | keeps _ other _ => exact absurd rfl other
      | answers asked _ _ => exact asked
    obtain ⟨-, e, t', failed⟩ | ⟨e, t', -, failed⟩ | ⟨answer, t', answered, answering, -, took⟩ :=
      serve_applying (p := p) asked
    · cases failed.symm.trans served
    · cases failed.symm.trans served
    · cases answering.symm.trans served
      obtain ⟨robot, user⟩ := respond_plain plain.parameters plain.user answered
      constructor
      case parameters => exact took.parameters ▸ robot
      case user => exact took.user ▸ user
  · have kept := (serve_stays served went).kept
    constructor
    case parameters => exact kept.parameters ▸ plain.parameters
    case user => exact kept.user ▸ plain.user

theorem Program.Cause.legible {p : Program} {input : ToRobot} {e : Error} (cause : p.Cause input e)
    (plain : p.Plain) : Legible e.message := by
  cases cause with
  | robot =>
    have declared : Text.Plain (declaredLabel input.robotCode) := by
      unfold declaredLabel
      split
      · exact Robot.plain_label _
      · exact (by decide : Text.Plain _).append (plain_number _)
    exact .append (.append (.append (by decide) p.robot.plain_label) (by decide)) declared
  | mode => exact .append (by decide) (plain_number _)
  | request failed => exact respond_error plain.parameters plain.user failed
  | parameters failed => exact Table.requireComplete_error plain.parameters failed
  | user has failed => exact Table.requireComplete_error (plain.user _ has) failed
  | controller own => exact .append (by decide) (Controller.Error.legible_message own).plain

end Bridge

/-- A fault that was published is read as the longest part of it that fits, letter for letter. -/
theorem Message.faultText?_publishFault (half : ToSimulator) {text : String}
    (legible : Legible text) : ∃ kept, LongestPrefix (faultCapacity - 1) kept text ∧
      (half.publishFault text).faultText? = some kept := by
  obtain ⟨kept, longest, bytes⟩ := keptBytes_spec (faultCapacity - 1) text
  have plain : Plain kept := legible.plain.of_prefix longest.front
  have ended : terminatedBytes (half.publishFault text).fault.toList = Utf8.encode kept := by
    have fits : kept.utf8ByteSize ≤ faultCapacity := Nat.le_trans longest.fits (Nat.sub_le _ _)
    rw [← terminatedBytes_padded plain fits, ← bytes]
    rfl
  refine ⟨kept, longest, ?_⟩
  unfold ToSimulator.faultText?
  rw [ended]
  cases read : Utf8.encode kept with
  | nil =>
    have none := congrArg List.length read
    rw [Utf8.length_encode] at none
    exact absurd (String.utf8ByteSize_eq_zero_iff.mp none)
      (longest.ne_empty (by decide) legible.some)
  | cons b rest =>
    dsimp only
    rw [← read, lossy_encode]

theorem Controller.Error.fits {e : Error} (own : e.Own) :
    (Bridge.Error.controller e).message.utf8ByteSize ≤ Message.faultCapacity - 1 := by
  cases e with
  | parameter name expected =>
    have all : ∀ name ∈ [Table.standStiffness, Table.standDamping, Stand.homePose,
        Stand.maxTorque, Stand.blendIterations],
        (Bridge.Error.controller (.parameter name expected)).message.utf8ByteSize ≤
          Message.faultCapacity - 1 := by
      cases expected <;> decide +kernel
    exact all name own
  | nonFinite what leg =>
    have all : ∀ leg, (Bridge.Error.controller (.nonFinite what leg)).message.utf8ByteSize ≤
        Message.faultCapacity - 1 := by
      cases what <;> decide +kernel
    exact all leg

/-- What a controller complains of is read letter for letter. -/
theorem Message.faultText?_controller (half : ToSimulator) {e : Controller.Error} (own : e.Own) :
    (half.publishFault (Bridge.Error.controller e).message).faultText? =
      some ("controller: " ++ e.message) := by
  have legible : Legible (Bridge.Error.controller e).message :=
    .append (by decide) (Controller.Error.legible_message own).plain
  obtain ⟨kept, longest, read⟩ := faultText?_publishFault half legible
  rw [read, longest.whole (Controller.Error.fits own)]
  rfl

end Lockstep
