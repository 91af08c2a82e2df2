import Mathlib.Algebra.Order.Ring.Nat
import Lockstep.Parameter.Value

/-! A value comes back from its bytes bit for bit, whatever its kind. -/

set_option autoImplicit false

namespace Lockstep.Parameter.Value

open Wire

theorem littleValue_at {before after : List UInt8} {width n offset : Nat}
    (here : before.length = offset) (small : n < 256 ^ width) :
    littleValue (((before ++ littleBytes width n ++ after).drop offset).take width) = n := by
  rw [List.append_assoc, List.drop_left' here, List.take_left' (length_littleBytes width n),
    littleValue_littleBytes]
  exact Nat.mod_eq_of_lt small

variable {wire : WireValue} {after : List UInt8} {offset : Nat}

theorem singleAt_eq {x : Single} (before : List UInt8)
    (bytes : wire.toList = before ++ littleBytes 4 x.bits.toNat ++ after)
    (here : before.length = offset) : singleAt wire offset = x := by
  unfold singleAt
  rw [bytes, littleValue_at here x.bits.toNat_lt, Single.ofNatBits, UInt32.ofNat_toNat]

theorem wordAt_eq {x : UInt64} (before : List UInt8)
    (bytes : wire.toList = before ++ littleBytes 8 x.toNat ++ after)
    (here : before.length = offset) : wordAt wire offset = x := by
  unfold wordAt
  rw [bytes, littleValue_at here x.toNat_lt, UInt64.ofNat_toNat]

theorem toList_toWire {v : Value} (fits : v.bytes.length ≤ valueCapacity) :
    v.toWire.toList = v.bytes ++ List.replicate (valueCapacity - v.bytes.length) 0 := by
  rw [toWire, toList_padded, List.take_of_length_le fits]

theorem triple_eq {α : Type} (v : Vector α 3) : v = #v[v[0], v[1], v[2]] := by
  ext i inside
  match i, inside with
  | 0, _ => rfl
  | 1, _ => rfl
  | 2, _ => rfl

theorem toList_triple {α : Type} (f : α → List UInt8) (a b c : α) :
    (#v[a, b, c] : Vector α 3).toList.flatMap f = f a ++ f b ++ f c := by
  simp [Vector.toList]

theorem ofWire_toWire (v : Value) : ofWire v.kind v.toWire = v := by
  cases v with
  | float x =>
    have bytes := toList_toWire (v := float x) (by simp [bytes, valueCapacity])
    have read : singleAt (float x).toWire 0 = x := singleAt_eq [] bytes rfl
    rw [kind, ofWire, read]
  | double x =>
    have bytes := toList_toWire (v := double x) (by simp [bytes, valueCapacity])
    have read : wordAt (double x).toWire 0 = x.bits := wordAt_eq [] bytes rfl
    rw [kind, ofWire, read]
  | s64 i =>
    have bytes := toList_toWire (v := s64 i) (by simp [bytes, valueCapacity])
    have read : wordAt (s64 i).toWire 0 = i.toUInt64 := wordAt_eq [] bytes rfl
    rw [kind, ofWire, read]
    rfl
  | vec3Float v =>
    obtain ⟨a, b, c, rfl⟩ : ∃ a b c, v = #v[a, b, c] := ⟨_, _, _, triple_eq v⟩
    have inside : (vec3Float #v[a, b, c]).bytes = littleBytes 4 a.bits.toNat ++
        littleBytes 4 b.bits.toNat ++ littleBytes 4 c.bits.toNat := toList_triple _ a b c
    have bytes := toList_toWire (v := vec3Float #v[a, b, c]) (by simp [inside, valueCapacity])
    rw [inside] at bytes
    have first : singleAt (vec3Float #v[a, b, c]).toWire 0 = a :=
      singleAt_eq [] (by rw [bytes, List.append_assoc, List.append_assoc]; rfl) rfl
    have second : singleAt (vec3Float #v[a, b, c]).toWire 4 = b :=
      singleAt_eq _ (by rw [bytes, List.append_assoc]) (length_littleBytes 4 a.bits.toNat)
    have third : singleAt (vec3Float #v[a, b, c]).toWire 8 = c :=
      singleAt_eq _ bytes (by rw [List.length_append, length_littleBytes, length_littleBytes])
    simp only [kind, ofWire, first, second, third]
  | vec3Double v =>
    obtain ⟨a, b, c, rfl⟩ : ∃ a b c, v = #v[a, b, c] := ⟨_, _, _, triple_eq v⟩
    have inside : (vec3Double #v[a, b, c]).bytes = littleBytes 8 a.bits.toNat ++
        littleBytes 8 b.bits.toNat ++ littleBytes 8 c.bits.toNat := toList_triple _ a b c
    have bytes := toList_toWire (v := vec3Double #v[a, b, c]) (by simp [inside, valueCapacity])
    rw [inside] at bytes
    have first : wordAt (vec3Double #v[a, b, c]).toWire 0 = a.bits :=
      wordAt_eq [] (by rw [bytes, List.append_assoc, List.append_assoc]; rfl) rfl
    have second : wordAt (vec3Double #v[a, b, c]).toWire 8 = b.bits :=
      wordAt_eq _ (by rw [bytes, List.append_assoc]) (length_littleBytes 8 a.bits.toNat)
    have third : wordAt (vec3Double #v[a, b, c]).toWire 16 = c.bits :=
      wordAt_eq _ bytes (by rw [List.length_append, length_littleBytes, length_littleBytes])
    simp only [kind, ofWire, first, second, third]

end Lockstep.Parameter.Value
