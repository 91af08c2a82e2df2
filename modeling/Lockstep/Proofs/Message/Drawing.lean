import Mathlib.Data.List.DropRight
import Lockstep.Message.Drawing
import Lockstep.Proofs.Number.Words

/-! Bounded lists of drawings in memory that a peer writes as well.

A count may say anything. Still no slot outside is touched, and as long as the
counts start at zero the lists are what was drawn first since they were cleared.
-/

set_option autoImplicit false

namespace Lockstep.Message

namespace Slots

variable {α : Type} {n : Nat}

-- Work on slots step by step. Nothing comes of an index outside or of a count beyond its type.

def upTo? (items : Vector α n) (bound : Nat) : Option (List α) :=
  if bound ≤ n then some (items.toList.take bound) else none

def view? (s : Slots α n) : Option (List α) := upTo? s.items (min s.count.toNat n)

def storeAt? (items : Vector α n) (i : Nat) (a : α) : Option (Vector α n) :=
  if inside : i < n then some (items.set i a inside) else none

def pushInPlace (s : Slots α n) (a : α) : Option (Bool × Slots α n) :=
  if n ≤ s.count.toNat then some (false, s)
  else do
    let items ← storeAt? s.items s.count.toNat a
    let count ← Number.successor? s.count.toBitVec
    some (true, ⟨.ofBitVec count, items⟩)

def push (s : Slots α n) (a : α) : Bool × Slots α n :=
  match s.push? a with
  | some t => (true, t)
  | none => (false, s)

/-- What is true of slots whatever their count says. -/
structure Guarded (s : Slots α n) : Prop where
  view : s.view? = some s.toList
  push : ∀ a, s.pushInPlace a = some (s.push a)
  answers : ∀ a, (s.push a).1 = true ↔ s.toList.length < n
  appends : ∀ a, s.toList.length < n → (s.push a).2.toList = s.toList ++ [a]
  full : ∀ a, n ≤ s.count.toNat → s.push a = (false, s)
  cleared : s.clear.toList = []

/-- Slots that hold the first of some items, in order. -/
structure Fills (s : Slots α n) (items : List α) : Prop where
  count : s.count.toNat = min items.length n
  list : s.toList = items.take n

variable {s : Slots α n} {items : List α} {a : α}

theorem length_toList (s : Slots α n) : s.toList.length = min s.count.toNat n := by
  rw [toList, List.length_take, Vector.length_toList]

theorem length_toList_lt_iff : s.toList.length < n ↔ s.count.toNat < n := by
  rw [length_toList]
  omega

theorem push_of_full (full : n ≤ s.count.toNat) (a : α) : s.push a = (false, s) := by
  rw [push, push?, dif_neg (Nat.not_lt.mpr full)]

theorem push_of_room (room : s.count.toNat < n) (a : α) :
    s.push a = (true, ⟨s.count + 1, s.items.set s.count.toNat a room⟩) := by
  rw [push, push?, dif_pos room]

theorem toNat_count_succ (small : n < UInt32.size) {count : UInt32} (room : count.toNat < n) :
    (count + 1).toNat = count.toNat + 1 :=
  Number.toNat_successor (Nat.lt_of_le_of_lt room small)

theorem toList_push (small : n < UInt32.size) (room : s.count.toNat < n) (a : α) :
    (s.push a).2.toList = s.toList ++ [a] := by
  have inside : s.count.toNat < s.items.toList.length := by rwa [Vector.length_toList]
  have front : (s.items.toList.take s.count.toNat).length = s.count.toNat :=
    List.length_take_of_le (Nat.le_of_lt inside)
  rw [push_of_room room, toList, toNat_count_succ small room, Vector.toList_set, toList,
    List.take_set, List.take_succ_eq_append_getElem inside, List.set_append_right _ _ front.le,
    front, Nat.sub_self, List.set_cons_zero]

theorem guarded (small : n < UInt32.size) (s : Slots α n) : s.Guarded := by
  constructor
  case view =>
    have all : s.items.toList.take n = s.items.toList :=
      List.take_of_length_le (by rw [Vector.length_toList])
    rw [view?, upTo?, if_pos (Nat.min_le_right _ _), ← List.take_take, all, toList]
  case push =>
    intro a
    by_cases room : s.count.toNat < n
    · rw [pushInPlace, if_neg (Nat.not_le.mpr room), storeAt?, dif_pos room,
        Number.successor?_of_room (Nat.lt_of_le_of_lt room small), push_of_room room]
      rfl
    · have full := Nat.not_lt.mp room
      rw [pushInPlace, if_pos full, push_of_full full]
  case answers =>
    intro a
    rw [length_toList_lt_iff]
    by_cases room : s.count.toNat < n
    · simp [push_of_room room, room]
    · simp [push_of_full (Nat.not_lt.mp room), room]
  case appends =>
    intro a room
    exact toList_push small (length_toList_lt_iff.mp room) a
  case full => exact fun a full => push_of_full full a
  case cleared => rfl

theorem Fills.cleared (s : Slots α n) : s.clear.Fills [] :=
  ⟨(Nat.zero_min n).symm, List.take_nil.symm⟩

/-- An item that comes next is held if there is room for it, and else passed over. -/
theorem Fills.push (fills : s.Fills items) (small : n < UInt32.size) (a : α) :
    (s.push a).2.Fills (items ++ [a]) := by
  obtain ⟨count, list⟩ := fills
  by_cases room : s.count.toNat < n
  · have few : items.length < n := by omega
    constructor
    · rw [push_of_room room, toNat_count_succ small room, List.length_append,
        List.length_singleton]
      omega
    · rw [toList_push small room, list, List.take_of_length_le (Nat.le_of_lt few),
        List.take_of_length_le (by rw [List.length_append]; exact few)]
  · have many : n ≤ items.length := by omega
    rw [push_of_full (Nat.not_lt.mp room)]
    constructor
    · rw [count, List.length_append]
      omega
    · rw [list, List.take_append_of_le_length many]

-- Items of one kind come between others, which other slots are for.

variable {β : Type} {kind : β → Option α} {all : List β} {b : β}

theorem Fills.taken (fills : s.Fills (all.filterMap kind)) (small : n < UInt32.size)
    (mine : kind b = some a) : (s.push a).2.Fills ((all ++ [b]).filterMap kind) := by
  rw [List.filterMap_append, List.filterMap_cons_some mine, List.filterMap_nil]
  exact fills.push small a

theorem Fills.passed (fills : s.Fills (all.filterMap kind)) (other : kind b = none) :
    s.Fills ((all ++ [b]).filterMap kind) := by
  rwa [List.filterMap_append, List.filterMap_cons_none other, List.filterMap_nil,
    List.append_nil]

end Slots

inductive Stroke where
  | sphere (s : Sphere)
  | arrow (a : Arrow)
  | pathPoint (p : Vector Single 3)
  | clear
  deriving DecidableEq

namespace Stroke

def clears : Stroke → Bool
  | clear => true
  | _ => false

def sphere? : Stroke → Option Sphere
  | sphere s => some s
  | _ => none

def arrow? : Stroke → Option Arrow
  | arrow a => some a
  | _ => none

def pathPoint? : Stroke → Option (Vector Single 3)
  | pathPoint p => some p
  | _ => none

/-- Strokes behind the last that cleared everything. -/
def sinceCleared (strokes : List Stroke) : List Stroke := strokes.rtakeWhile (!·.clears)

end Stroke

namespace Drawing

open Stroke

def draw (d : Drawing) : Stroke → Drawing
  | .sphere s => (d.pushSphere s).2
  | .arrow a => (d.pushArrow a).2
  | .pathPoint p => (d.pushPathPoint p).2
  | .clear => d.clear

def drawn (d : Drawing) (strokes : List Stroke) : Drawing := strokes.foldl draw d

/-- Each list of a drawing holds what came of its kind. -/
structure Shows (d : Drawing) (strokes : List Stroke) : Prop where
  spheres : d.spheres.Fills (strokes.filterMap sphere?)
  arrows : d.arrows.Fills (strokes.filterMap arrow?)
  path : d.path.Fills (strokes.filterMap pathPoint?)

variable {d : Drawing} {strokes : List Stroke}

-- What is pushed onto one list leaves everything else alone.

theorem pushSphere_eq (d : Drawing) (s : Sphere) :
    d.pushSphere s = ((d.spheres.push s).1, { d with spheres := (d.spheres.push s).2 }) := by
  rw [pushSphere, Slots.push]
  cases d.spheres.push? s <;> rfl

theorem pushArrow_eq (d : Drawing) (a : Arrow) :
    d.pushArrow a = ((d.arrows.push a).1, { d with arrows := (d.arrows.push a).2 }) := by
  rw [pushArrow, Slots.push]
  cases d.arrows.push? a <;> rfl

theorem pushPathPoint_eq (d : Drawing) (p : Vector Single 3) :
    d.pushPathPoint p = ((d.path.push p).1, { d with path := (d.path.push p).2 }) := by
  rw [pushPathPoint, Slots.push]
  cases d.path.push? p <;> rfl

theorem Shows.cleared (d : Drawing) : d.clear.Shows [] :=
  ⟨.cleared d.spheres, .cleared d.arrows, .cleared d.path⟩

theorem Shows.add (shows : d.Shows strokes) {stroke : Stroke} (adds : stroke.clears = false) :
    (d.draw stroke).Shows (strokes ++ [stroke]) := by
  obtain ⟨spheres, arrows, path⟩ := shows
  cases stroke with
  | clear => cases adds
  | sphere s =>
    rw [draw, pushSphere_eq]
    exact ⟨spheres.taken (by decide) rfl, arrows.passed rfl, path.passed rfl⟩
  | arrow a =>
    rw [draw, pushArrow_eq]
    exact ⟨spheres.passed rfl, arrows.taken (by decide) rfl, path.passed rfl⟩
  | pathPoint p =>
    rw [draw, pushPathPoint_eq]
    exact ⟨spheres.passed rfl, arrows.passed rfl, path.taken (by decide) rfl⟩

theorem Shows.draw (shows : d.Shows (sinceCleared strokes)) (stroke : Stroke) :
    (d.draw stroke).Shows (sinceCleared (strokes ++ [stroke])) := by
  rw [sinceCleared, List.rtakeWhile_concat]
  cases adds : stroke.clears with
  | false => exact shows.add adds
  | true =>
    cases stroke with
    | clear => exact .cleared d
    | _ => cases adds

theorem shows_drawn (d : Drawing) (strokes : List Stroke) :
    (d.clear.drawn strokes).Shows (sinceCleared strokes) := by
  induction strokes using List.reverseRecOn with
  | nil => exact .cleared d
  | append_singleton strokes stroke ih =>
    rw [drawn, List.foldl_append]
    exact ih.draw stroke

/-- From a cleared drawing on, such as a blank one, each of the three lists is what was drawn
first of its kind since the last clearing, as much as there is room for. And whatever counts
a drawing has, each list stays within its slots: a push goes onto the end of its own list if that
is not full, and says so, and leaves all else as it is; a list whose count is at its bound or
beyond is left alone as well, and clearing empties all three. -/
theorem first_drawn_shown (d : Drawing) (strokes : List Stroke) :
    (d.clear.drawn strokes).spheres.toList =
      ((sinceCleared strokes).filterMap sphere?).take maxSpheres ∧
    (d.clear.drawn strokes).arrows.toList =
      ((sinceCleared strokes).filterMap arrow?).take maxArrows ∧
    (d.clear.drawn strokes).path.toList =
      ((sinceCleared strokes).filterMap pathPoint?).take maxPathPoints ∧
    (default : Drawing).clear = default ∧
    d.spheres.Guarded ∧ d.arrows.Guarded ∧ d.path.Guarded ∧
    (∀ s, d.pushSphere s = ((d.spheres.push s).1, { d with spheres := (d.spheres.push s).2 })) ∧
    (∀ a, d.pushArrow a = ((d.arrows.push a).1, { d with arrows := (d.arrows.push a).2 })) ∧
    (∀ p, d.pushPathPoint p = ((d.path.push p).1, { d with path := (d.path.push p).2 })) ∧
    d.clear.spheres.toList = [] ∧ d.clear.arrows.toList = [] ∧ d.clear.path.toList = [] := by
  have shows := shows_drawn d strokes
  have spheres := d.spheres.guarded (show maxSpheres < UInt32.size by decide)
  have arrows := d.arrows.guarded (show maxArrows < UInt32.size by decide)
  have path := d.path.guarded (show maxPathPoints < UInt32.size by decide)
  exact ⟨shows.spheres.list, shows.arrows.list, shows.path.list, rfl, spheres, arrows, path,
    pushSphere_eq d, pushArrow_eq d, pushPathPoint_eq d, spheres.cleared, arrows.cleared,
    path.cleared⟩

end Drawing

end Lockstep.Message
