import Lockstep.Parameter.File
import Lockstep.Proofs.Effect
import Lockstep.Proofs.Toml.Keys

/-! Whatever a parameter file gives can be sent: its names are names, and each is there once.
They stand in increasing order. -/

set_option autoImplicit false

namespace Lockstep.Parameter

theorem mem_of_mapM_ok {α β ε : Type} {f : α → Except ε β} {inputs : List α} {outputs : List β}
    (mapped : inputs.mapM f = .ok outputs) {b : β} (member : b ∈ outputs) :
    ∃ a ∈ inputs, f a = .ok b := by
  induction inputs generalizing outputs with
  | nil =>
    simp only [List.mapM_nil, pure, Except.pure, Except.ok.injEq] at mapped
    subst mapped
    cases member
  | cons a rest ih =>
    rw [List.mapM_cons] at mapped
    cases first : f a with
    | error e =>
      rw [first] at mapped
      cases mapped
    | ok c =>
      rw [first] at mapped
      cases others : rest.mapM f with
      | error e =>
        rw [others] at mapped
        cases mapped
      | ok values =>
        rw [others] at mapped
        obtain rfl := Except.ok.inj mapped
        obtain rfl | later := List.mem_cons.mp member
        · exact ⟨a, List.mem_cons_self, first⟩
        · obtain ⟨x, found, sent⟩ := ih others later
          exact ⟨x, List.mem_cons_of_mem _ found, sent⟩

theorem FileEntry.decode_named {name : String} {entry : FileEntry} {p : String × Value}
    (decoded : entry.decode name = .ok p) : checkName p.1 = .ok () := by
  unfold decode at decoded
  cases valued : Value.ofDocument? entry.kind entry.value with
  | none =>
    rw [valued] at decoded
    cases decoded
  | some value =>
    rw [valued] at decoded
    cases checked : checkName name with
    | error e =>
      simp only [checked, bind, Except.bind] at decoded
      cases decoded
    | ok _ =>
      simp only [checked, bind, Except.bind, pure, Except.pure, Except.ok.injEq] at decoded
      subst decoded
      exact checked

theorem loadValues_named {file : Config.File} {values : List (String × Value)}
    (loaded : loadValues file = .ok values) {p : String × Value} (member : p ∈ values) :
    checkName p.1 = .ok () := by
  unfold loadValues at loaded
  cases read : (file.load readEntries).mapError Error.file with
  | error e =>
    rw [read] at loaded
    cases loaded
  | ok entries =>
    rw [read] at loaded
    obtain ⟨⟨name, entry⟩, -, decoded⟩ := mem_of_mapM_ok loaded member
    exact FileEntry.decode_named decoded

theorem names_insertByName {α : Type} (name : String) (a : α) (entries : List (String × α)) :
    ((insertByName name a entries).map (·.1)).Perm (name :: entries.map (·.1)) := by
  induction entries with
  | nil => exact .refl _
  | cons entry rest ih =>
    obtain ⟨other, b⟩ := entry
    unfold insertByName
    split
    · exact .refl _
    · exact (ih.cons other).trans (.swap name other _)

theorem names_sorted {α : Type} (entries sorted : List (String × α)) :
    ((entries.foldl (fun sorted (name, entry) => insertByName name entry sorted) sorted).map
      (·.1)).Perm (entries.map (·.1) ++ sorted.map (·.1)) := by
  induction entries generalizing sorted with
  | nil => exact .refl _
  | cons entry rest ih =>
    obtain ⟨name, a⟩ := entry
    apply (ih _).trans
    apply ((names_insertByName name a sorted).append_left _).trans
    exact List.perm_middle

theorem names_mapM {α β : Type} {read : String × α → Option (String × β)}
    (same : ∀ entry, Toml.Gives (fun r => r.1 = entry.1) (read entry))
    (entries : List (String × α)) :
    Toml.Gives (fun r => r.map (·.1) = entries.map (·.1)) (entries.mapM read) := by
  induction entries with
  | nil => exact .some rfl
  | cons entry rest ih =>
    rw [List.mapM_cons]
    refine .bind (same entry) fun first named => .bind ih fun others all => .some ?_
    rw [List.map_cons, List.map_cons, named, all]

theorem distinct_readEntries {document : Toml.Value} (keyed : document.Keyed) :
    Toml.Gives (fun entries => (entries.map (·.1)).Nodup) (readEntries document) := by
  unfold readEntries
  refine .bind (Toml.keyed_fields keyed _) fun fields each => ?_
  split
  · exact .some List.nodup_nil
  next entries found =>
    cases each _ _ found with
    | table distinct _ =>
      refine .bind (names_mapM ?_ entries) fun read named => .some ?_
      · rintro ⟨name, v⟩
        exact .map (.any _) fun _ _ => rfl
      · rw [(names_sorted read []).nodup_iff, named, List.map_nil, List.append_nil]
        exact distinct
  · exact .none

theorem FileEntry.decode_name {name : String} {entry : FileEntry} {p : String × Value}
    (decoded : entry.decode name = .ok p) : p.1 = name := by
  unfold decode at decoded
  split at decoded
  · cases decoded
  · obtain ⟨_, -, went⟩ := Effect.bind_ok decoded
    cases went
    rfl

theorem names_decoded {entries : List (String × FileEntry)} {values : List (String × Value)}
    (decoded : (entries.mapM fun (name, entry) => entry.decode name) = .ok values) :
    values.map (·.1) = entries.map (·.1) := by
  induction entries generalizing values with
  | nil =>
    cases decoded
    rfl
  | cons entry rest ih =>
    rw [List.mapM_cons] at decoded
    obtain ⟨first, here, decoded⟩ := Effect.bind_ok decoded
    obtain ⟨others, later, went⟩ := Effect.bind_ok decoded
    cases went
    rw [List.map_cons, List.map_cons, ih later, FileEntry.decode_name here]

theorem keyed_document {file : Config.File} {document : Toml.Value}
    (read : file.document = .ok document) : document.Keyed := by
  unfold Config.File.document at read
  split at read
  · cases read
  · cases read
  split at read
  · cases read
  split at read
  next parsed =>
    cases read
    exact Toml.keyed_parse _ _ parsed
  · cases read

theorem entries_of_loadValues {file : Config.File} {values : List (String × Value)}
    (loaded : loadValues file = .ok values) : ∃ document entries,
      file.document = .ok document ∧ readEntries document = some entries ∧
        values.map (·.1) = entries.map (·.1) := by
  obtain ⟨entries, read, decoded⟩ := Effect.bind_ok loaded
  cases went : file.load readEntries with
  | error e =>
    rw [went] at read
    cases read
  | ok found =>
    rw [went] at read
    cases read
    obtain ⟨document, opened, last⟩ := Effect.bind_ok went
    split at last
    next some =>
      cases last
      exact ⟨document, _, opened, some, names_decoded decoded⟩
    · cases last

theorem loadValues_distinct {file : Config.File} {values : List (String × Value)}
    (loaded : loadValues file = .ok values) : (values.map (·.1)).Nodup := by
  obtain ⟨document, entries, opened, read, named⟩ := entries_of_loadValues loaded
  rw [named]
  exact distinct_readEntries (keyed_document opened) entries read

theorem sorted_insertByName {α : Type} (name : String) (a : α) {entries : List (String × α)}
    (sorted : (entries.map (·.1)).Pairwise (· ≤ ·)) :
    ((insertByName name a entries).map (·.1)).Pairwise (· ≤ ·) := by
  induction entries with
  | nil => exact List.pairwise_singleton _ name
  | cons entry rest ih =>
    obtain ⟨other, b⟩ := entry
    obtain ⟨first, later⟩ := List.pairwise_cons.mp sorted
    unfold insertByName
    split
    next before =>
      refine List.pairwise_cons.mpr ⟨?_, sorted⟩
      intro n member
      obtain rfl | there := List.mem_cons.mp member
      · exact Std.le_of_lt before
      · exact String.le_trans (Std.le_of_lt before) (first n there)
    next notBefore =>
      refine List.pairwise_cons.mpr ⟨?_, ih later⟩
      intro n member
      obtain rfl | there := List.mem_cons.mp ((names_insertByName name a rest).mem_iff.mp member)
      · exact String.not_lt.mp notBefore
      · exact first n there

theorem sorted_insertAll {α : Type} (entries : List (String × α)) {sorted : List (String × α)}
    (before : (sorted.map (·.1)).Pairwise (· ≤ ·)) :
    ((entries.foldl (fun sorted (name, a) => insertByName name a sorted) sorted).map
      (·.1)).Pairwise (· ≤ ·) := by
  induction entries generalizing sorted with
  | nil => exact before
  | cons entry rest ih => exact ih (sorted_insertByName entry.1 entry.2 before)

theorem sorted_readEntries (document : Toml.Value) :
    Toml.Gives (fun entries => (entries.map (·.1)).Pairwise (· ≤ ·)) (readEntries document) := by
  unfold readEntries
  refine .bind (.any _) fun fields _ => ?_
  split
  · exact .some List.Pairwise.nil
  · exact .bind (.any _) fun read _ => .some (sorted_insertAll read List.Pairwise.nil)
  · exact .none

/-- The values of a file stand in strictly increasing order of their names. -/
theorem loadValues_ascending {file : Config.File} {values : List (String × Value)}
    (loaded : loadValues file = .ok values) : (values.map (·.1)).Pairwise (· < ·) := by
  obtain ⟨document, entries, -, read, named⟩ := entries_of_loadValues loaded
  have sorted : (entries.map (·.1)).Pairwise (· ≤ ·) := sorted_readEntries document entries read
  rw [← named] at sorted
  exact sorted.imp₂ (fun _ _ => Std.lt_of_le_of_ne) (loadValues_distinct loaded)

end Lockstep.Parameter
