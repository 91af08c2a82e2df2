import Lockstep.Proofs.Parameter.Entries
import Lockstep.Proofs.Parameter.File

/-! Many writes to a table at once.

They are made in order up to the first that is refused, and what was made stays. No write
changes what is declared, so whether another goes through does not depend on it; and
of all writes under one name the last one stands. If no two are under one name their
order makes no difference.
-/

set_option autoImplicit false

namespace Lockstep.Parameter.Table

/-- All writes of a list in order, if every one goes through. -/
def setAll (t : Table) (values : List (String × Value)) : Except Refusal Table :=
  values.foldlM (fun t pair => t.set pair.1 pair.2) t

/-- Writes end at an index: those in front of it go through and make a table of it, and there
it is refused what comes next. -/
def StopsAt (t : Table) (values : List (String × Value)) (i : Nat) (t' : Table)
    (refusal : Refusal) : Prop :=
  t.setAll (values.take i) = .ok t' ∧
    ∃ pair, values[i]? = some pair ∧ t'.set pair.1 pair.2 = .error refusal

/-- A table in which each entry holds what a list has last under its name. -/
def overwritten (t : Table) (values : List (String × Value)) : Table :=
  { t with entries := t.entries.map fun e =>
      match values.reverse.lookup e.name with
      | some value => ⟨e.name, value, true⟩
      | none => e }

variable {t t' t'' : Table} {name : String} {value : Value}
  {values values' rest : List (String × Value)} {refusal refusal' : Refusal} {i j : Nat}

-- Where writes stop.

theorem setAll_cons_ok (wrote : t.set name value = .ok t') :
    t.setAll ((name, value) :: rest) = t'.setAll rest := by
  rw [setAll, List.foldlM_cons, wrote]
  rfl

theorem setAll_cons_error (refused : t.set name value = .error refusal) :
    t.setAll ((name, value) :: rest) = .error refusal := by
  rw [setAll, List.foldlM_cons, refused]
  rfl

theorem stopsAt_zero : t.StopsAt ((name, value) :: rest) 0 t' refusal ↔
    t' = t ∧ t.set name value = .error refusal := by
  constructor
  · rintro ⟨none, _, first, refused⟩
    cases none
    cases first
    exact ⟨rfl, refused⟩
  · rintro ⟨rfl, refused⟩
    exact ⟨rfl, (name, value), rfl, refused⟩

theorem stopsAt_succ (wrote : t.set name value = .ok t') :
    t.StopsAt ((name, value) :: rest) (i + 1) t'' refusal ↔ t'.StopsAt rest i t'' refusal := by
  rw [StopsAt, List.take_succ_cons, setAll_cons_ok wrote, List.getElem?_cons_succ]
  rfl

theorem not_stopsAt_succ (refused : t.set name value = .error refusal) :
    ¬t.StopsAt ((name, value) :: rest) (i + 1) t' refusal' := by
  rintro ⟨went, -⟩
  rw [List.take_succ_cons, setAll_cons_error refused] at went
  cases went

theorem StopsAt.unique (first : t.StopsAt values i t' refusal)
    (second : t.StopsAt values j t'' refusal') : i = j := by
  induction values generalizing t i j with
  | nil =>
    obtain ⟨-, _, none, -⟩ := first
    cases none
  | cons pair rest ih =>
    obtain ⟨name, value⟩ := pair
    cases wrote : t.set name value with
    | error refused =>
      cases i with
      | succ i => exact absurd first (not_stopsAt_succ wrote)
      | zero =>
        cases j with
        | succ j => exact absurd second (not_stopsAt_succ wrote)
        | zero => rfl
    | ok between =>
      have passes {t' : Table} {refusal : Refusal} :
          ¬t.StopsAt ((name, value) :: rest) 0 t' refusal := by
        rintro stops
        obtain ⟨-, refused⟩ := stopsAt_zero.mp stops
        rw [wrote] at refused
        cases refused
      cases i with
      | zero => exact absurd first passes
      | succ i =>
        cases j with
        | zero => exact absurd second passes
        | succ j => rw [ih ((stopsAt_succ wrote).mp first) ((stopsAt_succ wrote).mp second)]

theorem apply_eq_ok_iff : t.apply values = (t', .ok ()) ↔ t.setAll values = .ok t' := by
  induction values generalizing t with
  | nil => simp [apply, setAll, pure, Except.pure]
  | cons pair rest ih =>
    obtain ⟨name, value⟩ := pair
    rw [apply]
    cases wrote : t.set name value with
    | error refused => simp [setAll_cons_error wrote]
    | ok between => rw [setAll_cons_ok wrote, ← ih]

theorem apply_eq_error_iff :
    t.apply values = (t', .error refusal) ↔ ∃ i, t.StopsAt values i t' refusal := by
  induction values generalizing t with
  | nil => simp [apply, StopsAt]
  | cons pair rest ih =>
    obtain ⟨name, value⟩ := pair
    rw [apply]
    cases wrote : t.set name value with
    | error refused =>
      constructor
      · intro ended
        cases ended
        exact ⟨0, stopsAt_zero.mpr ⟨rfl, wrote⟩⟩
      · rintro ⟨i, stops⟩
        cases i with
        | succ i => exact absurd stops (not_stopsAt_succ wrote)
        | zero =>
          obtain ⟨rfl, refused'⟩ := stopsAt_zero.mp stops
          rw [wrote] at refused'
          cases refused'
          rfl
    | ok between =>
      refine ih.trans ?_
      constructor
      · rintro ⟨i, stops⟩
        exact ⟨i + 1, (stopsAt_succ wrote).mpr stops⟩
      · rintro ⟨i, stops⟩
        cases i with
        | succ i => exact ⟨i, (stopsAt_succ wrote).mp stops⟩
        | zero =>
          obtain ⟨-, refused⟩ := stopsAt_zero.mp stops
          rw [wrote] at refused
          cases refused

-- What all writes together make.

theorem accepts_iff : t.accepts name value = true ↔
    ∃ e, t.lookup? name = some e ∧ e.kind = value.kind := by
  unfold accepts
  cases t.lookup? name <;> simp

theorem set_eq_ok_iff :
    t.set name value = .ok t' ↔ t.accepts name value = true ∧ t' = t.written name value := by
  rw [accepts_iff]
  constructor
  · intro wrote
    obtain ⟨e, found, same, made⟩ := set_eq_ok wrote
    exact ⟨⟨e, found, same⟩, made⟩
  · rintro ⟨⟨e, found, same⟩, rfl⟩
    exact set_of_lookup found same

theorem accepts_written (accepted : t.accepts name value = true) (other : String) (value' : Value) :
    (t.written name value).accepts other value' = t.accepts other value' := by
  obtain ⟨e, found, same⟩ := accepts_iff.mp accepted
  unfold accepts
  rw [lookup?_written found]
  by_cases here : name = other
  · have kinds : (Entry.mk name value true).kind = e.kind := same.symm
    rw [if_pos here, ← here, found]
    simp only [kinds]
  · rw [if_neg here]

theorem overwritten_written (t : Table) (name : String) (value : Value)
    (rest : List (String × Value)) :
    (t.written name value).overwritten rest = t.overwritten ((name, value) :: rest) := by
  unfold overwritten written
  congr 1
  rw [List.map_map]
  refine List.map_congr_left fun e _ => ?_
  simp only [Function.comp_apply, List.reverse_cons, List.lookup_append]
  by_cases named : e.name = name
  · rw [if_pos named, named]
    cases rest.reverse.lookup name <;> simp
  · have missed : (e.name == name) = false := beq_false_of_ne named
    rw [if_neg named]
    simp [List.lookup_cons, missed]

/-- All writes go through just if each would alone, and then the last of each name stands. -/
theorem setAll_eq_ok_iff : t.setAll values = .ok t' ↔
    (∀ pair ∈ values, t.accepts pair.1 pair.2 = true) ∧ t' = t.overwritten values := by
  induction values generalizing t with
  | nil =>
    have same : t.overwritten [] = t := by simp [overwritten]
    rw [same]
    constructor
    · rintro ⟨⟩
      exact ⟨List.forall_mem_nil _, rfl⟩
    · rintro ⟨-, rfl⟩
      rfl
  | cons pair rest ih =>
    obtain ⟨name, value⟩ := pair
    rw [List.forall_mem_cons]
    cases wrote : t.set name value with
    | error refused =>
      rw [setAll_cons_error wrote]
      refine iff_of_false nofun ?_
      rintro ⟨⟨accepted, -⟩, -⟩
      rw [set_eq_ok_iff.mpr ⟨accepted, rfl⟩] at wrote
      cases wrote
    | ok between =>
      obtain ⟨accepted, rfl⟩ := set_eq_ok_iff.mp wrote
      rw [setAll_cons_ok wrote, ih, overwritten_written]
      simp only [accepts_written accepted, accepted, true_and]

theorem apply_ok_iff : (t.apply values).2 = .ok () ↔
    ∀ pair ∈ values, t.accepts pair.1 pair.2 = true := by
  constructor
  · intro ended
    have whole : t.apply values = ((t.apply values).1, .ok ()) := Prod.ext rfl ended
    exact (setAll_eq_ok_iff.mp (apply_eq_ok_iff.mp whole)).1
  · intro accepted
    rw [apply_eq_ok_iff.mpr (setAll_eq_ok_iff.mpr ⟨accepted, rfl⟩)]

-- Writes in another order.

theorem lookup_eq_some_iff_mem (distinct : (values.map (·.1)).Nodup) :
    values.lookup name = some value ↔ (name, value) ∈ values := by
  rw [List.lookup_eq_some_iff]
  constructor
  · rintro ⟨before, after, rfl, -⟩
    exact List.mem_append_right _ List.mem_cons_self
  · intro member
    obtain ⟨before, after, rfl⟩ := List.append_of_mem member
    refine ⟨before, after, rfl, ?_⟩
    rw [List.map_append, List.map_cons, List.nodup_append] at distinct
    obtain ⟨-, -, apart⟩ := distinct
    intro pair inside
    exact bne_iff_ne.mpr (apart _ (List.mem_map_of_mem inside) _ List.mem_cons_self).symm

/-- With one value for each name it makes no difference how they are ordered. -/
theorem overwritten_perm (perm : values.Perm values') (distinct : (values.map (·.1)).Nodup)
    (t : Table) : t.overwritten values' = t.overwritten values := by
  have distinct' : (values'.map (·.1)).Nodup := (perm.map _).nodup_iff.mp distinct
  have same : ∀ name, values'.reverse.lookup name = values.reverse.lookup name := by
    intro name
    apply Option.ext
    intro value
    rw [lookup_eq_some_iff_mem (by rwa [List.map_reverse, List.nodup_reverse]),
      lookup_eq_some_iff_mem (by rwa [List.map_reverse, List.nodup_reverse]), List.mem_reverse,
      List.mem_reverse, perm.mem_iff]
  unfold overwritten
  simp only [same]

/-- Writes that fail do so at one index: all in front of it were made, in order, and are all that
was made. Writes that succeed were all made, and of those under one name the last one stands. What
names no parameter twice may come in any order: it succeeds in each or in none, and
leaves the same table. Such is what a file gives, in increasing order of the bytes of its names. -/
theorem writes_stand_up_to_refusal (t : Table) (values : List (String × Value)) :
    (∀ t' refusal, t.apply values = (t', .error refusal) ↔
      ∃ i, t.StopsAt values i t' refusal ∧
        ∀ j t'' refusal', t.StopsAt values j t'' refusal' → j = i) ∧
    (∀ t', t.apply values = (t', .ok ()) ↔ t.setAll values = .ok t') ∧
    (∀ t', t.apply values = (t', .ok ()) → t' = t.overwritten values) ∧
    (∀ values', values.Perm values' → (values.map (·.1)).Nodup →
      ((t.apply values').2 = .ok () ↔ (t.apply values).2 = .ok ()) ∧
      ((t.apply values).2 = .ok () → (t.apply values').1 = (t.apply values).1)) ∧
    (∀ file, loadValues file = .ok values → (values.map (·.1)).Nodup ∧
      (values.map fun pair => Text.Utf8.encode pair.1).Pairwise (· < ·)) ∧
    (Work.apply values).run t = ((t.apply values).2, (t.apply values).1) := by
  refine ⟨?stops, fun t' => apply_eq_ok_iff, ?last, ?order, ?file, run_apply t values⟩
  case stops =>
    intro t' refusal
    rw [apply_eq_error_iff]
    constructor
    · rintro ⟨i, stops⟩
      exact ⟨i, stops, fun j _ _ other => other.unique stops⟩
    · rintro ⟨i, stops, -⟩
      exact ⟨i, stops⟩
  case last =>
    intro t' ended
    exact (setAll_eq_ok_iff.mp (apply_eq_ok_iff.mp ended)).2
  case order =>
    intro values' perm distinct
    have succeeds : (t.apply values').2 = .ok () ↔ (t.apply values).2 = .ok () := by
      simp only [apply_ok_iff, perm.mem_iff]
    refine ⟨succeeds, fun ended => ?_⟩
    have made {values : List (String × Value)} (ended : (t.apply values).2 = .ok ()) :
        (t.apply values).1 = t.overwritten values :=
      (setAll_eq_ok_iff.mp (apply_eq_ok_iff.mp (Prod.ext rfl ended))).2
    rw [made ended, made (succeeds.mpr ended), overwritten_perm perm distinct]
  case file =>
    intro file loaded
    refine ⟨loadValues_distinct loaded, ?_⟩
    have bytes := pairwise_encode (loadValues_ascending loaded)
    rwa [List.map_map] at bytes

end Lockstep.Parameter.Table
