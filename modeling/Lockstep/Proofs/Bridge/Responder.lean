import Lockstep.Bridge.Responder
import Lockstep.Proofs.Parameter.Name

/-! What an answer says about the request it answers. -/

set_option autoImplicit false

namespace Lockstep

open Parameter

namespace Message

/-- A request whose tags and name can be read. -/
structure Request.Formed (q : Request) : Prop where
  kind : ∃ k, q.kind = .ok k
  name : ∃ n, q.name = .ok n
  valueKind : ∃ k, q.valueKind = .ok k

/-- A response that belongs to a request and carries a value. -/
structure Response.Answers (r : Response) (q : Request) : Prop where
  number : r.number = q.number
  name : r.rawName = q.rawName
  kind : r.rawKind = q.rawKind
  value : ∃ v, r.value = .ok v

theorem Request.make_spec {number : UInt64} {kind : RequestKind} {name : String} {value : Value}
    {q : Request} (made : make number kind name value = .ok q) :
    q.Formed ∧ q.number = number ∧ q.rawKind = kind.code ∧ q.name = .ok name := by
  unfold make at made
  cases encoded : encodeName name with
  | error e => simp [encoded, bind, Except.bind] at made
  | ok wire =>
    obtain rfl : ⟨number, value.toWire, wire, kind.code, value.kind.code⟩ = q := by
      simpa [encoded, bind, Except.bind, pure, Except.pure] using made
    have read := decodeName_encodeName encoded
    refine ⟨⟨⟨kind, ?_⟩, ⟨name, read⟩, ⟨value.kind, ?_⟩⟩, rfl, rfl, read⟩
    · simp [Request.kind, decodeRequestKind]
    · simp [Request.valueKind, decodeKind]

theorem Request.make_error {number : UInt64} {kind : RequestKind} {name : String} {value : Value}
    {cause : Parameter.Error} (failed : make number kind name value = .error cause) :
    checkName name = .error cause := by
  unfold make encodeName at failed
  cases checked : checkName name with
  | error e => simpa [checked, bind, Except.bind] using failed
  | ok _ => simp [checked, bind, Except.bind, pure, Except.pure] at failed

theorem Request.make_of_named {name : String} (named : checkName name = .ok ()) (number : UInt64)
    (kind : RequestKind) (value : Value) : ∃ q, make number kind name value = .ok q := by
  cases made : make number kind name value with
  | error cause => cases named.symm.trans (make_error made)
  | ok q => exact ⟨q, rfl⟩

theorem Response.acknowledge_answers (q : Request) (v : Value) (count : Nat) :
    (acknowledge q v count).Answers q := by
  refine ⟨rfl, rfl, rfl, ⟨.ofWire v.kind v.toWire, ?_⟩⟩
  simp [Response.value, Value.ofTagged, acknowledge]

end Message

namespace Bridge

open Message

/-- Errors that say that the simulator broke the rules of requests. -/
def Error.Breach : Error → Prop
  | .tooManyPending _ _ | .parameter _ => True
  | _ => False

theorem serveRequest_cases (q : Request) (kind : RequestKind) (name : String) (valueKind : Kind)
    (t : Table) : (∃ refusal, serveRequest q kind name valueKind t = .error (.table refusal)) ∨
      ∃ value t', serveRequest q kind name valueKind t = .ok (value, t') := by
  unfold serveRequest
  cases found : t.lookup? name with
  | none => exact .inl ⟨_, rfl⟩
  | some entry =>
    by_cases same : entry.kind = valueKind
    case neg =>
      simp only [ne_eq, same, not_false_eq_true, if_true]
      exact .inl ⟨_, rfl⟩
    simp only [ne_eq, same, not_true, if_false]
    split
    next =>
      cases t.set name (.ofWire valueKind q.rawValue) with
      | error refusal => exact .inl ⟨_, rfl⟩
      | ok t' =>
        cases got : t'.get name with
        | error refusal => exact .inl ⟨refusal, by simp [bind, Except.bind, Except.mapError, got]⟩
        | ok value =>
          exact .inr ⟨value, t', by
            simp [bind, Except.bind, Except.mapError, pure, Except.pure, got]⟩
    next =>
      cases got : t.get name with
      | error refusal =>
        exact .inl ⟨refusal, by simp [bind, Except.bind, Except.mapError, pure, Except.pure, got]⟩
      | ok value =>
        exact .inr ⟨value, t, by
          simp [bind, Except.bind, Except.mapError, pure, Except.pure, got]⟩

theorem respond_old {q : Request} {r : Response} (old : q.number ≤ r.number) (t : Table)
    (user? : Option Table) :
    respond q r t user? = .ok ⟨.redundant q.number r.number, r, t, user?⟩ := by
  unfold respond
  rw [if_pos old]
  rfl

/-- The next request is answered, unless one of the tables refuses it. -/
theorem respond_next {q : Request} {r : Response} (formed : q.Formed)
    (next : q.number = r.number + 1) (more : r.number < q.number) (t : Table)
    (user? : Option Table) :
    (∃ e, respond q r t user? = .error e ∧ ¬ e.Breach) ∨
      ∃ answer, respond q r t user? = .ok answer ∧ answer.response.Answers q := by
  obtain ⟨⟨kind, readKind⟩, ⟨name, readName⟩, ⟨valueKind, readValueKind⟩⟩ := formed
  have one : q.number - r.number = 1 := by
    rw [next]
    grind
  unfold respond
  rw [if_neg (UInt64.not_le.mpr more)]
  simp only [one, ne_eq, not_true, if_false, readKind, readName, readValueKind, Except.mapError,
    bind, Except.bind]
  split
  next =>
    cases user? with
    | none => exact .inr ⟨_, rfl, Response.acknowledge_answers _ _ _⟩
    | some user =>
      obtain ⟨refusal, served⟩ | ⟨value, user', served⟩ :=
        serveRequest_cases q kind name valueKind user
      · simp only [served]
        exact .inl ⟨_, rfl, id⟩
      · simp only [served]
        exact .inr ⟨_, rfl, Response.acknowledge_answers _ _ _⟩
  next =>
    obtain ⟨refusal, served⟩ | ⟨value, robot', served⟩ :=
      serveRequest_cases q kind name valueKind t
    · simp only [served]
      exact .inl ⟨_, rfl, id⟩
    · simp only [served]
      exact .inr ⟨_, rfl, Response.acknowledge_answers _ _ _⟩

end Bridge

end Lockstep
