import Mathlib.Data.List.Nodup
import Lockstep.Toml.Document

/-! Every table of a document that was read has each key once, at any depth.

A table comes to its entries in few ways, and each of them either looks for the
key first or replaces what is there.
-/

set_option autoImplicit false

namespace Lockstep.Toml

inductive Value.Keyed : Value → Prop where
  | text (s : String) : Keyed (.text s)
  | integer (i : Int) : Keyed (.integer i)
  | float (x : Double) : Keyed (.float x)
  | boolean (b : Bool) : Keyed (.boolean b)
  | moment : Keyed .moment
  | array {items : List Value} : (∀ item ∈ items, item.Keyed) → Keyed (.array items)
  | table {entries : List (String × Value)} : (entries.map (·.1)).Nodup →
      (∀ entry ∈ entries, entry.2.Keyed) → Keyed (.table entries)

theorem mem_of_lookup {α : Type} {entries : List (String × α)} {key : String} {a : α}
    (found : entries.lookup key = some a) : (key, a) ∈ entries := by
  obtain ⟨before, after, rfl, -⟩ := List.lookup_eq_some_iff.mp found
  exact List.mem_append_right _ List.mem_cons_self

namespace Node

inductive Keyed : Node → Prop where
  | value {v : Value} : v.Keyed → Keyed (.value v)
  | table {i d : Bool} {entries : List (String × Node)} : (entries.map (·.1)).Nodup →
      (∀ entry ∈ entries, entry.2.Keyed) → Keyed (.table i d entries)
  | tables {items : List Node} : (∀ item ∈ items, item.Keyed) → Keyed (.tables items)

theorem entryValues_eq (entries : List (String × Node)) :
    entryValues entries = entries.map fun entry => (entry.1, entry.2.toValue) := by
  induction entries with
  | nil => rfl
  | cons entry rest ih => rw [entryValues, ih, List.map_cons]

theorem itemValues_eq (items : List Node) : itemValues items = items.map toValue := by
  induction items with
  | nil => rfl
  | cons item rest ih => rw [itemValues, ih, List.map_cons]

theorem Keyed.toValue {n : Node} (keyed : n.Keyed) : n.toValue.Keyed := by
  induction keyed with
  | value keyed => exact keyed
  | @table i d entries distinct _ ih =>
    rw [Node.toValue, entryValues_eq]
    apply Value.Keyed.table
    · rw [List.map_map]
      exact distinct
    · intro entry member
      obtain ⟨entry, inside, rfl⟩ := List.mem_map.mp member
      exact ih entry inside
  | @tables items _ ih =>
    rw [Node.toValue, itemValues_eq]
    apply Value.Keyed.array
    intro item member
    obtain ⟨item, inside, rfl⟩ := List.mem_map.mp member
    exact ih item inside

section

variable {entries : List (String × Node)} {key : String} {n : Node}

theorem mem_setEntry {entry : String × Node} (member : entry ∈ setEntry entries key n) :
    entry ∈ entries ∨ entry = (key, n) := by
  induction entries with
  | nil => exact .inr (List.mem_singleton.mp member)
  | cons first rest ih =>
    obtain ⟨k, old⟩ := first
    unfold setEntry at member
    split at member
    · obtain same | inside := List.mem_cons.mp member
      · exact .inr same
      · exact .inl (List.mem_cons_of_mem _ inside)
    · obtain same | inside := List.mem_cons.mp member
      · exact .inl (List.mem_cons.mpr (.inl same))
      · obtain before | same := ih inside
        · exact .inl (List.mem_cons_of_mem _ before)
        · exact .inr same

theorem nodup_setEntry (distinct : (entries.map (·.1)).Nodup) :
    ((setEntry entries key n).map (·.1)).Nodup := by
  induction entries with
  | nil => exact List.nodup_singleton key
  | cons first rest ih =>
    obtain ⟨k, old⟩ := first
    obtain ⟨fresh, later⟩ := List.nodup_cons.mp distinct
    unfold setEntry
    split
    next same =>
      obtain rfl : k = key := beq_iff_eq.mp same
      exact distinct
    next other =>
      refine List.nodup_cons.mpr ⟨fun inside => ?_, ih later⟩
      obtain ⟨entry, member, named⟩ := List.mem_map.mp inside
      obtain before | rfl := mem_setEntry member
      · exact fresh (List.mem_map.mpr ⟨entry, before, named⟩)
      · exact other (beq_iff_eq.mpr named.symm)

theorem Keyed.setEntry {i d : Bool} (keyed : (Node.table i d entries).Keyed) (new : n.Keyed)
    (i' d' : Bool) : (Node.table i' d' (Node.setEntry entries key n)).Keyed := by
  cases keyed with
  | table distinct each =>
    apply Keyed.table (nodup_setEntry distinct)
    intro entry member
    obtain before | rfl := mem_setEntry member
    · exact each entry before
    · exact new

theorem Keyed.append {i d : Bool} (keyed : (Node.table i d entries).Keyed) (new : n.Keyed)
    (absent : entries.lookup key = none) : (Node.table i d (entries ++ [(key, n)])).Keyed := by
  cases keyed with
  | table distinct each =>
    constructor
    · rw [List.map_append]
      apply distinct.append (List.nodup_singleton key)
      intro name inside same
      obtain rfl := List.mem_singleton.mp same
      obtain ⟨entry, member, rfl⟩ := List.mem_map.mp inside
      have differs := List.lookup_eq_none_iff.mp absent entry member
      simp at differs
    · intro entry member
      obtain before | last := List.mem_append.mp member
      · exact each entry before
      · obtain rfl := List.mem_singleton.mp last
        exact new

theorem Keyed.child {i d : Bool} (keyed : (Node.table i d entries).Keyed)
    (found : entries.lookup key = some n) : n.Keyed := by
  cases keyed with
  | table _ each => exact each _ (mem_of_lookup found)

theorem Keyed.item {items : List Node} (keyed : (Node.tables items).Keyed) {item : Node}
    (member : item ∈ items) : item.Keyed := by
  cases keyed with
  | tables each => exact each item member

theorem Keyed.extend {items rest : List Node} (keyed : (Node.tables items).Keyed)
    (among : ∀ item ∈ rest, item ∈ items) (new : n.Keyed) : (Node.tables (rest ++ [n])).Keyed := by
  apply Keyed.tables
  intro item member
  obtain before | last := List.mem_append.mp member
  · exact keyed.item (among item before)
  · obtain rfl := List.mem_singleton.mp last
    exact new

end

theorem Keyed.empty (i d : Bool) : (Node.table i d []).Keyed := .table List.nodup_nil nofun

/-- A change that gives no table a key twice. -/
def Keeps (change : Node → Option Node) : Prop := ∀ n n', n.Keyed → change n = some n' → n'.Keyed

theorem Keeps.changeAt {change : Node → Option Node} (keeps : Keeps change) (isDotted : Bool)
    (path : List String) : Keeps (changeAt isDotted change path) := by
  induction path with
  | nil => exact keeps
  | cons key path ih =>
    intro n n' keyed changed
    cases n with
    | value v => cases changed
    | tables items => cases changed
    | table i d entries =>
      unfold Node.changeAt at changed
      dsimp only at changed
      split at changed
      · obtain ⟨child, went, rfl⟩ := Option.map_eq_some_iff.mp changed
        exact keyed.setEntry (ih _ _ (.empty true isDotted) went) i d
      next ci cd centries found =>
        split at changed
        · cases changed
        · obtain ⟨child, went, rfl⟩ := Option.map_eq_some_iff.mp changed
          exact keyed.setEntry (ih _ _ (keyed.child found) went) i d
      next items found =>
        split at changed
        next last ends =>
          obtain ⟨child, went, rfl⟩ := Option.map_eq_some_iff.mp changed
          have all := keyed.child found
          have new := ih _ _ (all.item (List.mem_of_getLast? ends)) went
          exact keyed.setEntry (all.extend (fun _ inside => List.dropLast_subset items inside) new) i d
        · cases changed
      · cases changed

theorem keeps_addEntry {v : Value} (keyed : v.Keyed) (viaDots : Bool) (key : String) :
    Keeps (addEntry viaDots key v) := by
  intro n n' before changed
  unfold addEntry at changed
  split at changed
  · split at changed
    next free =>
      cases changed
      obtain ⟨-, absent⟩ := Bool.and_eq_true_iff.mp free
      exact before.append (.value keyed) (Option.isNone_iff_eq_none.mp absent)
    · cases changed
  · cases changed

theorem keeps_openTable (key : String) : Keeps (openTable key) := by
  intro n n' before changed
  unfold openTable at changed
  split at changed
  · split at changed
    next absent =>
      cases changed
      exact before.append (.empty false false) absent
    next entries found =>
      cases changed
      cases before.child found with
      | table distinct each => exact before.setEntry (.table distinct each) _ _
    · cases changed
  · cases changed

theorem keeps_appendTable (key : String) : Keeps (appendTable key) := by
  intro n n' before changed
  have one : (table false false []).Keyed := .empty false false
  unfold appendTable at changed
  split at changed
  · split at changed
    next absent =>
      cases changed
      refine before.append (.tables fun item member => ?_) absent
      obtain rfl := List.mem_singleton.mp member
      exact one
    next items found =>
      cases changed
      exact before.setEntry ((before.child found).extend (fun _ => id) one) _ _
    · cases changed
  · cases changed

end Node

theorem keeps_insert {v : Value} (keyed : v.Keyed) (base key : List String) :
    Node.Keeps (insert base key v) := by
  intro n n' before changed
  unfold insert at changed
  split at changed
  · cases changed
  next last _ =>
    have inner := (Node.keeps_addEntry keyed (!key.dropLast.isEmpty) last).changeAt true key.dropLast
    exact inner.changeAt false base n n' before changed

def Gives {α : Type} (property : α → Prop) (read : Option α) : Prop :=
  ∀ a, read = some a → property a

namespace Gives

variable {α β : Type} {property : α → Prop} {read other : Option α}

theorem none : Gives property .none := nofun

theorem some {a : α} (holds : property a) : Gives property (.some a) := by
  rintro _ ⟨⟩
  exact holds

theorem bind {between : β → Prop} {first : Option β} {f : β → Option α}
    (reads : Gives between first) (rest : ∀ b, between b → Gives property (f b)) :
    Gives property (first >>= f) := by
  intro a went
  obtain ⟨b, here, there⟩ := Option.bind_eq_some_iff.mp went
  exact rest b (reads b here) a there

theorem map {between : β → Prop} {first : Option β} {f : β → α} (reads : Gives between first)
    (rest : ∀ b, between b → property (f b)) : Gives property (first.map f) := by
  intro a went
  obtain ⟨b, here, rfl⟩ := Option.map_eq_some_iff.mp went
  exact rest b (reads b here)

theorem any (read : Option α) : Gives (fun _ => True) read := fun _ _ => trivial

theorem orElse (first : Gives property read) (second : Gives property other) :
    Gives property (read <|> other) := by
  cases read with
  | none => exact second
  | some a => exact first

end Gives

theorem keyed_bounded (i : Int) : Gives Value.Keyed (bounded i) := by
  unfold bounded
  split
  · exact .some (.integer i)
  · exact .none

theorem keyed_prefixedInteger (base : Nat) (digit : Char → Bool) (cs : List Char) :
    Gives Value.Keyed (prefixedInteger? base digit cs) :=
  .bind (.any _) fun _ _ => keyed_bounded _

theorem keyed_decimalInteger (cs : List Char) : Gives Value.Keyed (decimalInteger? cs) :=
  .bind (.any _) fun _ _ => keyed_bounded _

theorem keyed_fraction (cs : List Char) : Gives Value.Keyed (fraction? cs) := by
  unfold fraction?
  rcases sign cs with ⟨negative, cs⟩
  -- Every way through it ends without a value or with a number.
  repeat' first
    | exact .none
    | exact .some (.float _)
    | refine .bind (.any _) fun _ _ => ?_
    | split
    | dsimp only

theorem keyed_atom (cs : List Char) : Gives Value.Keyed (atom? cs) := by
  unfold atom?
  split
  case h_1 | h_2 => exact .some (.boolean _)
  case h_3 | h_4 | h_5 | h_6 | h_7 | h_8 => exact .some (.float _)
  split
  case h_1 | h_2 | h_3 => exact keyed_prefixedInteger _ _ _
  refine (keyed_decimalInteger _).orElse ((keyed_fraction _).orElse ?_)
  split
  · exact .some .moment
  · exact .none

theorem keyed_values (fuel : Nat) :
    (∀ depth cs, Gives (fun r => r.1.Keyed) (value? fuel depth cs)) ∧
      (∀ depth cs, Gives (fun r => ∀ item ∈ r.1, item.Keyed) (arrayItems? fuel depth cs)) ∧
      ∀ depth n cs, n.Keyed → Gives (fun r => r.1.Keyed) (inlineEntries? fuel depth n cs) := by
  induction fuel with
  | zero => exact ⟨fun _ _ => .none, fun _ _ => .none, fun _ _ _ _ => .none⟩
  | succ fuel ih =>
    obtain ⟨value, items, inline⟩ := ih
    refine ⟨fun depth cs => ?_, fun depth cs => ?_, fun depth n cs keyed => ?_⟩
    · unfold value?
      split
      · exact .map (.any _) fun r _ => .text r.1
      · exact .map (.any _) fun r _ => .text r.1
      · exact .bind (items _ _) fun r keyed => .some (.array keyed)
      · split
        · exact .some (.table List.nodup_nil nofun)
        · exact .bind (inline _ _ _ (.empty false false)) fun r keyed => .some keyed.toValue
      · exact .map (keyed_atom _) fun v keyed => keyed
    · unfold arrayItems?
      split
      · exact .some nofun
      · refine .bind (value _ _) fun first keyed => ?_
        dsimp only
        split
        · refine .bind (items _ _) fun others all => .some ?_
          exact List.forall_mem_cons.mpr ⟨keyed, all⟩
        · exact .some (List.forall_mem_cons.mpr ⟨keyed, nofun⟩)
        · exact .none
    · unfold inlineEntries?
      refine .bind (.any _) fun key _ => ?_
      dsimp only
      split
      · refine .bind (value _ _) fun v inside => ?_
        refine .bind (keeps_insert inside _ _ n · keyed) fun changed whole => ?_
        split
        · exact inline _ _ _ whole
        · exact .some whole
        · exact .none
      · exact .none

theorem keyed_statements (fuel : Nat) (base : List String) {root : Node} (keyed : root.Keyed)
    (cs : List Char) : Gives Node.Keyed (statements? fuel base root cs) := by
  induction fuel generalizing base root cs with
  | zero => exact .none
  | succ fuel ih =>
    unfold statements?
    split
    · exact .some keyed
    · refine .bind (.any _) fun key _ => ?_
      dsimp only
      split
      next last rest _ _ =>
        refine .bind ((Node.keeps_appendTable last).changeAt _ _ root · keyed) fun changed whole => ?_
        exact .bind (.any _) fun cs _ => ih _ whole cs
      · exact .none
    · refine .bind (.any _) fun key _ => ?_
      dsimp only
      split
      next last rest _ _ =>
        refine .bind ((Node.keeps_openTable last).changeAt _ _ root · keyed) fun changed whole => ?_
        exact .bind (.any _) fun cs _ => ih _ whole cs
      · exact .none
    · refine .bind (.any _) fun key _ => ?_
      dsimp only
      split
      · refine .bind ((keyed_values _).1 _ _) fun v inside => ?_
        refine .bind (keeps_insert inside _ _ root · keyed) fun changed whole => ?_
        exact .bind (.any _) fun cs _ => ih _ whole cs
      · exact .none

theorem keyed_fields {v : Value} (keyed : v.Keyed) (names : List String) :
    Gives (fun fields => ∀ name, Gives Value.Keyed (fields name)) (v.fields? names) := by
  cases keyed with
  | text | integer | float | boolean => exact .none
  | moment => exact .some fun _ => .none
  | array each =>
    refine .some fun name item found => each item ?_
    exact (List.of_mem_zip (mem_of_lookup found)).2
  | table _ each => exact .some fun name v found => each (name, v) (mem_of_lookup found)

/-- No table of a document has a key twice. -/
theorem keyed_parse (text : String) : Gives Value.Keyed (parse? text) := by
  unfold parse?
  dsimp only
  split
  · exact .map (keyed_statements _ _ (.empty false false) _) fun root keyed => keyed.toValue
  · exact .none

end Lockstep.Toml
