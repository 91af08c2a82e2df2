import Lockstep.Proofs.Bridge.Responder
import Lockstep.Proofs.Parameter.Table

/-! Answers in full: the value, the tables, and every way to be refused. -/

set_option autoImplicit false

namespace Lockstep.Bridge

open Message Parameter

/-- What a request says, and that it is the one after the last response. -/
structure Fresh (q : Request) (r : Response) (kind : RequestKind) (name : String)
    (valueKind : Kind) : Prop where
  more : r.number < q.number
  one : q.number - r.number = 1
  kind : q.kind = .ok kind
  name : q.name = .ok name
  valueKind : q.valueKind = .ok valueKind

variable {q : Request} {r : Response} {kind : RequestKind} {name : String} {valueKind : Kind} {t : Table}
  {entry : Entry}

theorem serveRequest_unknown (unknown : t.lookup? name = none) :
    serveRequest q kind name valueKind t = .error (.table (.unknown name t.label)) := by
  simp only [serveRequest, unknown]
  rfl

theorem serveRequest_mismatch (found : t.lookup? name = some entry)
    (differs : entry.kind ≠ valueKind) : serveRequest q kind name valueKind t =
      .error (.table (.mismatch name entry.kind valueKind)) := by
  simp only [serveRequest, found, differs, ne_eq, not_false_eq_true, if_true]
  rfl

theorem serveRequest_read (found : t.lookup? name = some entry) (same : entry.kind = valueKind)
    (reads : kind.writes = false) :
    serveRequest q kind name valueKind t = .ok (entry.value, t) := by
  simp [serveRequest, found, same, reads, t.get_of_lookup found, bind, Except.bind, pure,
    Except.pure, Except.mapError]

theorem serveRequest_write (found : t.lookup? name = some entry) (same : entry.kind = valueKind)
    (writes : kind.writes = true) :
    serveRequest q kind name valueKind t = .ok (.ofWire valueKind q.rawValue,
      t.written name (.ofWire valueKind q.rawValue)) := by
  have kinds : entry.kind = (Value.ofWire valueKind q.rawValue).kind := by simpa using same
  have wrote := Table.set_of_lookup found kinds
  have got := Table.get_of_lookup (Table.lookup?_written_self found (.ofWire valueKind q.rawValue))
  simp [serveRequest, found, same, writes, wrote, got, bind, Except.bind, pure, Except.pure,
    Except.mapError]

section

variable (fresh : Fresh q r kind name valueKind) (t : Table)

include fresh

theorem respond_robot (own : kind.user = false) (user? : Option Table) :
    respond q r t user? = (serveRequest q kind name valueKind t).map fun (value, t') =>
      ⟨.applied q.number kind name value, .acknowledge q value t'.size, t', user?⟩ := by
  unfold respond
  rw [if_neg (UInt64.not_le.mpr fresh.more)]
  simp only [fresh.one, fresh.kind, fresh.name, fresh.valueKind, own, ne_eq, not_true, if_false,
    Except.mapError, bind, Except.bind, Bool.false_eq_true]
  rcases serveRequest q kind name valueKind t with e | ⟨value, t'⟩ <;> rfl

theorem respond_user (user : kind.user = true) (own : Table) :
    respond q r t (some own) = (serveRequest q kind name valueKind own).map fun (value, own') =>
      ⟨.applied q.number kind name value, .acknowledge q value t.size, t, some own'⟩ := by
  unfold respond
  rw [if_neg (UInt64.not_le.mpr fresh.more)]
  simp only [fresh.one, fresh.kind, fresh.name, fresh.valueKind, user, ne_eq, not_true, if_false,
    Except.mapError, bind, Except.bind, if_true]
  rcases serveRequest q kind name valueKind own with e | ⟨value, own'⟩ <;> rfl

theorem respond_userless (user : kind.user = true) : respond q r t none =
    .ok ⟨.noUserTable q.number name,
      .acknowledge q (.ofWire valueKind q.rawValue) t.size, t, none⟩ := by
  unfold respond
  rw [if_neg (UInt64.not_le.mpr fresh.more)]
  simp only [fresh.one, fresh.kind, fresh.name, fresh.valueKind, user, ne_eq, not_true, if_false,
    Except.mapError, bind, Except.bind, if_true]
  rfl

end

end Lockstep.Bridge
