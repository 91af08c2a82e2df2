import Lockstep.Proofs.Bridge.Desk

/-! Streams of requests, of which every one is served, refused or past.

A request is accepted when its turn has come and not otherwise, whatever else it
says. What is not accepted leaves no trace, and what is accepted counts one.
-/

set_option autoImplicit false

namespace Lockstep

open Message Parameter

theorem Message.Request.value_of_valueKind {q : Request} {valueKind : Kind}
    (readValueKind : q.valueKind = .ok valueKind) :
    q.value = .ok (.ofWire valueKind q.rawValue) := by
  unfold Request.valueKind decodeKind at readValueKind
  unfold Request.value Value.ofTagged
  cases decoded : Kind.ofCode? q.rawValueKind with
  | none =>
    rw [decoded] at readValueKind
    cases readValueKind
  | some kind =>
    rw [decoded] at readValueKind
    cases readValueKind
    rfl

theorem Message.Response.value_acknowledge (q : Request) (value : Value) (count : Nat) :
    (acknowledge q value count).value = .ok value := by
  simp [Response.value, acknowledge, Value.ofTagged, Value.ofWire_toWire]

namespace Bridge

namespace Desk

def accepted : Except Error Outcome → Bool
  | .ok (.applied _ _ _ _) | .ok (.noUserTable _ _) => true
  | .ok (.redundant _ _) | .error _ => false

def sends : Except Error Outcome → List Send
  | .ok (.applied _ kind name value) => Tables.sent kind name value
  | .ok (.redundant _ _) | .ok (.noUserTable _ _) | .error _ => []

end Desk

/-- A request whose turn has come: it is the one after the last response, it can
be read, and the table that it is about, if that is there, has the parameter. -/
structure Asking.Due (a : Asking) (d : Desk) (kind : RequestKind) (name : String)
    (valueKind : Kind) : Prop where
  next : a.request.number.toNat = d.response.number.toNat + 1
  readKind : a.request.kind = .ok kind
  readName : a.request.name = .ok name
  readValueKind : a.request.valueKind = .ok valueKind
  declared : ∀ t, (a.lent d.tables).table? kind.user = some t →
    ∃ entry, t.lookup? name = some entry ∧ entry.kind = valueKind

theorem next_iff {n last : UInt64} : last < n ∧ n - last = 1 ↔ n.toNat = last.toNat + 1 := by
  constructor
  · rintro ⟨more, one⟩
    have less := UInt64.le_of_lt more
    have single := congrArg UInt64.toNat one
    rw [UInt64.toNat_sub_of_le _ _ less] at single
    change _ = 1 at single
    omega
  · intro next
    have more : last < n := by
      rw [UInt64.lt_iff_toNat_lt]
      omega
    refine ⟨more, UInt64.toNat.inj ?_⟩
    rw [UInt64.toNat_sub_of_le _ _ (UInt64.le_of_lt more), next]
    exact Nat.add_sub_cancel_left _ _

theorem Asking.Due.fresh {a : Asking} {d : Desk} {kind : RequestKind} {name : String}
    {valueKind : Kind} (due : a.Due d kind name valueKind) :
    Fresh a.request d.response kind name valueKind := by
  obtain ⟨more, one⟩ := next_iff.mpr due.next
  exact ⟨more, one, due.readKind, due.readName, due.readValueKind⟩

namespace Desk

inductive Comes (d : Desk) (a : Asking) : Except Error Outcome → Desk → Prop where
  | redundant : a.request.number ≤ d.response.number →
      Comes d a (.ok (.redundant a.request.number d.response.number)) d
  | refused {e : Error} : ¬ a.request.number ≤ d.response.number →
      (∀ kind name valueKind, ¬ a.Due d kind name valueKind) → Comes d a (.error e) d
  | userless {kind : RequestKind} {name : String} {value : Value} :
      a.Due d kind name value.kind → (a.lent d.tables).table? kind.user = none →
      a.request.value = .ok value →
      Comes d a (.ok (.noUserTable a.request.number name))
        ⟨.acknowledge a.request value d.tables.robot.size, d.tables⟩
  | read {kind : RequestKind} {name : String} {entry : Entry} :
      a.Due d kind name entry.kind → d.tables.lookup? kind.user name = some entry →
      kind.writes = false →
      Comes d a (.ok (.applied a.request.number kind name entry.value))
        ⟨.acknowledge a.request entry.value d.tables.robot.size, d.tables⟩
  | written {kind : RequestKind} {name : String} {entry : Entry} {value : Value} :
      a.Due d kind name entry.kind → d.tables.lookup? kind.user name = some entry →
      kind.writes = true → entry.kind = value.kind → a.request.value = .ok value →
      Comes d a (.ok (.applied a.request.number kind name value))
        ⟨.acknowledge a.request value d.tables.robot.size, d.tables.put kind.user name value⟩

section

variable {d : Desk} {a : Asking} {kind : RequestKind} {name : String} {valueKind : Kind}

theorem comes_of_due (due : a.Due d kind name valueKind) : Comes d a (d.ask a).1 (d.ask a).2 := by
  have carries := Request.value_of_valueKind due.readValueKind
  have kinds := Value.kind_ofWire valueKind a.request.rawValue
  cases own : (a.lent d.tables).table? kind.user with
  | none =>
    rw [ask_userless due.fresh own]
    exact .userless (kinds.symm ▸ due) own carries
  | some t =>
    obtain ⟨entry, found, rfl⟩ := due.declared t own
    have mine := table?_of_lent own
    have has : d.tables.lookup? kind.user name = some entry := by
      rw [Tables.lookup?, mine]
      exact found
    rw [ask_table due.fresh own]
    cases writes : kind.writes with
    | false =>
      rw [serveRequest_read found rfl writes, served, Tables.replace_own mine]
      exact .read due has writes
    | true =>
      rw [serveRequest_write found rfl writes, served, Tables.replace_written mine,
        Tables.size_put]
      exact .written due has writes kinds.symm carries

/-- A request that can be read is refused only by the table that it is about. -/
theorem ask_undue (fresh : Fresh a.request d.response kind name valueKind)
    (undue : ¬ a.Due d kind name valueKind) : ∃ e, d.ask a = (.error e, d) := by
  have due : (∀ t, (a.lent d.tables).table? kind.user = some t →
      ∃ entry, t.lookup? name = some entry ∧ entry.kind = valueKind) →
      a.Due d kind name valueKind :=
    .mk (next_iff.mp ⟨fresh.more, fresh.one⟩) fresh.kind fresh.name fresh.valueKind
  cases own : (a.lent d.tables).table? kind.user with
  | none => exact absurd (due fun t there => nomatch own.symm.trans there) undue
  | some t =>
    rw [ask_table fresh own]
    cases found : t.lookup? name with
    | none =>
      rw [serveRequest_unknown found]
      exact ⟨_, rfl⟩
    | some entry =>
      have differs : entry.kind ≠ valueKind := by
        intro same
        refine undue (due fun t' there => ?_)
        cases own.symm.trans there
        exact ⟨entry, found, same⟩
      rw [serveRequest_mismatch found differs]
      exact ⟨_, rfl⟩

theorem ask_comes (d : Desk) (a : Asking) : Comes d a (d.ask a).1 (d.ask a).2 := by
  by_cases waits : ∃ kind name valueKind, a.Due d kind name valueKind
  · obtain ⟨kind, name, valueKind, due⟩ := waits
    exact comes_of_due due
  have undue : ∀ kind name valueKind, ¬ a.Due d kind name valueKind :=
    fun kind name valueKind due => waits ⟨kind, name, valueKind, due⟩
  by_cases old : a.request.number ≤ d.response.number
  · rw [ask_old old]
    exact .redundant old
  cases responded : respond a.request d.response d.tables.robot (a.lent d.tables).user? with
  | error e =>
    rw [ask_refused responded]
    exact .refused old undue
  | ok answer =>
    -- It was read, so its table would have refused it.
    obtain ⟨kind, name, valueKind, fresh⟩ := fresh_of_respond old responded
    obtain ⟨e, refused⟩ := ask_undue fresh (undue kind name valueKind)
    rw [refused]
    exact .refused old undue

end

end Desk

/-- What a request that was served leaves: the response repeats it and carries the
parameter as it is now, and a write went nowhere else. -/
structure Asking.Applied (a : Asking) (d : Desk) (kind : RequestKind) (name : String)
    (value : Value) (after : Desk) : Prop where
  readKind : a.request.kind = .ok kind
  readName : a.request.name = .ok name
  number : after.response.number = a.request.number
  rawKind : after.response.rawKind = a.request.rawKind
  rawName : after.response.rawName = a.request.rawName
  carries : after.response.value = .ok value
  rawValueKind : after.response.rawValueKind = value.kind.code
  count : after.response.parameterCount = UInt64.ofNat d.tables.robot.size
  current : (after.tables.lookup? kind.user name).map (·.value) = some value
  declared : (d.tables.lookup? kind.user name).map (·.kind) = some value.kind
  get : kind.writes = false → after.tables = d.tables
  set : kind.writes = true → a.request.value = .ok value ∧
    after.tables = d.tables.put kind.user name value
  others : ∀ user' name', ¬ (user' = kind.user ∧ name' = name) →
    after.tables.lookup? user' name' = d.tables.lookup? user' name'
  otherTable : after.tables.table? (!kind.user) = d.tables.table? (!kind.user)

namespace Desk

/-- The law of the responder for one request, whatever is put before it. -/
structure Lawful (d : Desk) (a : Asking) (result : Except Error Outcome) (after : Desk) : Prop where
  inPlace : (answer a).run d = (result, after)
  accepted_iff : accepted result = true ↔ ∃ kind name valueKind, a.Due d kind name valueKind
  redundant_iff : (∃ number last, result = .ok (.redundant number last)) ↔
    a.request.number ≤ d.response.number
  rises : after.response.number.toNat = d.response.number.toNat + (accepted result).toNat
  untouched : accepted result = false → after = d
  gets : ∀ kind, a.request.kind = .ok kind → kind.writes = false → after.tables = d.tables
  userless : ∀ number name, result = .ok (.noUserTable number name) →
    number = a.request.number ∧ a.request.name = .ok name ∧ after.tables = d.tables ∧
      ∃ value, a.request.value = .ok value ∧
        after.response = .acknowledge a.request value d.tables.robot.size
  applied : ∀ number kind name value, result = .ok (.applied number kind name value) →
    number = a.request.number ∧ a.Applied d kind name value after

section

variable {d after : Desk} {a : Asking} {result : Except Error Outcome}

theorem Comes.accepted_iff (comes : Comes d a result after) :
    accepted result = true ↔ ∃ kind name valueKind, a.Due d kind name valueKind := by
  cases comes with
  | redundant old =>
    refine ⟨nofun, fun ⟨_, _, _, due⟩ => ?_⟩
    exact absurd due.fresh.more (UInt64.not_lt.mpr old)
  | refused new undue => exact ⟨nofun, fun ⟨_, _, _, due⟩ => absurd due (undue _ _ _)⟩
  | userless due => exact ⟨fun _ => ⟨_, _, _, due⟩, fun _ => rfl⟩
  | read due => exact ⟨fun _ => ⟨_, _, _, due⟩, fun _ => rfl⟩
  | written due => exact ⟨fun _ => ⟨_, _, _, due⟩, fun _ => rfl⟩

theorem Comes.rises (comes : Comes d a result after) :
    after.response.number.toNat = d.response.number.toNat + (accepted result).toNat := by
  cases comes with
  | redundant | refused => rfl
  | userless due | read due | written due => exact due.next

theorem Comes.gets (comes : Comes d a result after) {kind : RequestKind}
    (readKind : a.request.kind = .ok kind) (reads : kind.writes = false) :
    after.tables = d.tables := by
  cases comes with
  | redundant | refused | userless | read => rfl
  | written due _ writes =>
    cases readKind.symm.trans due.readKind
    cases reads.symm.trans writes

theorem Comes.of_userless (comes : Comes d a result after) {number : UInt64} {name : String}
    (ended : result = .ok (.noUserTable number name)) :
    number = a.request.number ∧ a.request.name = .ok name ∧ after.tables = d.tables ∧
      ∃ value, a.request.value = .ok value ∧
        after.response = .acknowledge a.request value d.tables.robot.size := by
  cases comes with
  | redundant | refused | read | written => cases ended
  | userless due absent carries =>
    cases ended
    exact ⟨rfl, due.readName, rfl, _, carries, rfl⟩

theorem Comes.of_applied (comes : Comes d a result after) {number : UInt64} {kind : RequestKind}
    {name : String} {value : Value} (ended : result = .ok (.applied number kind name value)) :
    number = a.request.number ∧ a.Applied d kind name value after := by
  cases comes with
  | redundant | refused | userless => cases ended
  | read due has reads =>
    cases ended
    refine ⟨rfl, ?_⟩
    constructor
    case readKind => exact due.readKind
    case readName => exact due.readName
    case carries => exact Response.value_acknowledge _ _ _
    case current | declared =>
      rw [has]
      rfl
    case set => exact fun writes => nomatch reads.symm.trans writes
    all_goals intros; rfl
  | written due has writes same carries =>
    cases ended
    refine ⟨rfl, ?_⟩
    constructor
    case readKind => exact due.readKind
    case readName => exact due.readName
    case carries => exact Response.value_acknowledge _ _ _
    case current =>
      rw [Tables.lookup?_put_self has]
      rfl
    case declared =>
      rw [has, Option.map_some, same]
    case get => exact fun reads => nomatch reads.symm.trans writes
    case set => exact fun _ => ⟨carries, rfl⟩
    case others => exact fun _ _ differs => Tables.lookup?_put_other differs _
    case otherTable => exact Tables.table?_put_other _ _ _ _
    all_goals rfl

theorem Comes.redundant_iff (comes : Comes d a result after) :
    (∃ number last, result = .ok (.redundant number last)) ↔
      a.request.number ≤ d.response.number := by
  cases comes with
  | redundant old => exact ⟨fun _ => old, fun _ => ⟨_, _, rfl⟩⟩
  | refused new => exact ⟨nofun, fun old => absurd old new⟩
  | userless due | read due | written due =>
    exact ⟨nofun, fun old => absurd due.fresh.more (UInt64.not_lt.mpr old)⟩

theorem Comes.untouched (comes : Comes d a result after) (stopped : accepted result = false) :
    after = d := by
  cases comes with
  | redundant | refused => rfl
  | userless | read | written => cases stopped

/-- The tables go on with their history by what the request wrote. -/
theorem Comes.follows (comes : Comes d a result after) {first : Tables} {history : List Send}
    (follows : first.Follows history d.tables) :
    first.Follows (history ++ sends result) after.tables := by
  cases comes with
  | redundant | refused | userless => rwa [sends, List.append_nil]
  | read due has reads =>
    rw [sends, Tables.sent, reads]
    simpa using follows
  | written due has writes same =>
    rw [sends, Tables.sent, writes]
    refine follows.put ?_ same
    exact congrArg (Option.map (·.value)) has

end

theorem ask_lawful (d : Desk) (a : Asking) : Lawful d a (d.ask a).1 (d.ask a).2 := by
  have comes := ask_comes d a
  constructor
  case inPlace => exact run_answer d a
  case accepted_iff => exact comes.accepted_iff
  case redundant_iff => exact comes.redundant_iff
  case rises => exact comes.rises
  case untouched => exact comes.untouched
  case gets => exact fun _ => comes.gets
  case userless => exact fun _ _ => comes.of_userless
  case applied => exact fun _ _ _ _ => comes.of_applied

def after (d : Desk) : List Asking → Desk
  | [] => d
  | a :: rest => (d.ask a).2.after rest

def results (d : Desk) : List Asking → List (Except Error Outcome)
  | [] => []
  | a :: rest => (d.ask a).1 :: (d.ask a).2.results rest

/-- The law of the responder for any history of requests: it holds for each of them, and the
number of the response and the tables are what the accepted ones made of them. -/
structure Served (d : Desk) (asked : List Asking) : Prop where
  each : ∀ i a, asked[i]? = some a → ∃ result, (d.results asked)[i]? = some result ∧
    Lawful (d.after (asked.take i)) a result (d.after (asked.take (i + 1)))
  number : (d.after asked).response.number.toNat =
    d.response.number.toNat + (d.results asked).countP accepted
  grows : ∀ i j, i ≤ j →
    (d.after (asked.take i)).response.number ≤ (d.after (asked.take j)).response.number
  tables : d.tables.Follows ((d.results asked).flatMap sends) (d.after asked).tables

theorem after_append (d : Desk) (asked later : List Asking) :
    d.after (asked ++ later) = (d.after asked).after later := by
  induction asked generalizing d with
  | nil => rfl
  | cons a rest ih => exact ih _

theorem after_number (d : Desk) (asked : List Asking) : (d.after asked).response.number.toNat =
    d.response.number.toNat + (d.results asked).countP accepted := by
  induction asked generalizing d with
  | nil => rfl
  | cons a rest ih =>
    have rises := (ask_comes d a).rises
    rw [after, ih, rises, results, List.countP_cons, Nat.add_assoc, Nat.add_comm (Bool.toNat _)]
    cases accepted (d.ask a).1 <;> rfl

theorem after_follows {first : Tables} {history : List Send} {d : Desk}
    (follows : first.Follows history d.tables) (asked : List Asking) :
    first.Follows (history ++ (d.results asked).flatMap sends) (d.after asked).tables := by
  induction asked generalizing d history with
  | nil => simpa [results, after] using follows
  | cons a rest ih =>
    rw [results, List.flatMap_cons, ← List.append_assoc]
    exact ih ((ask_comes d a).follows follows)

theorem after_each {d : Desk} {asked : List Asking} {i : Nat} {a : Asking}
    (there : asked[i]? = some a) : (d.results asked)[i]? = some ((d.after (asked.take i)).ask a).1 ∧
      d.after (asked.take (i + 1)) = ((d.after (asked.take i)).ask a).2 := by
  induction asked generalizing d i with
  | nil => cases there
  | cons first rest ih =>
    cases i with
    | zero =>
      cases there
      exact ⟨rfl, rfl⟩
    | succ i => exact ih there

/-- A responder is safe against any stream of requests. -/
theorem safe_against_any_stream (d : Desk) (asked : List Asking) : Served d asked := by
  constructor
  case each =>
    intro i a there
    obtain ⟨came, next⟩ := after_each (d := d) there
    refine ⟨_, came, ?_⟩
    rw [next]
    exact ask_lawful _ _
  case number => exact after_number d asked
  case grows =>
    intro i j early
    have split : asked.take j = asked.take i ++ (asked.drop i).take (j - i) := by
      rw [← List.take_add, Nat.add_sub_cancel' early]
    rw [split, after_append, UInt64.le_iff_toNat_le, after_number (d.after (asked.take i))]
    exact Nat.le_add_right _ _
  case tables => exact after_follows (.refl d.tables) asked

end Desk

end Bridge

end Lockstep
