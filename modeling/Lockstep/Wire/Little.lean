/-! Little-endian bytes of natural numbers. -/

set_option autoImplicit false

namespace Lockstep.Wire

/-- The `width` low bytes of a number, least significant first. -/
def littleBytes : Nat → Nat → List UInt8
  | 0, _ => []
  | width + 1, n => UInt8.ofNat n :: littleBytes width (n / 256)

def littleValue : List UInt8 → Nat
  | [] => 0
  | b :: rest => b.toNat + 256 * littleValue rest

@[simp] theorem length_littleBytes (width n : Nat) : (littleBytes width n).length = width := by
  induction width generalizing n with
  | zero => rfl
  | succ width ih => simp [littleBytes, ih]

theorem littleValue_littleBytes (width n : Nat) :
    littleValue (littleBytes width n) = n % Nat.pow 256 width := by
  induction width generalizing n with
  | zero => simp [littleBytes, littleValue, Nat.mod_one]
  | succ width ih =>
    simp only [littleBytes, littleValue, ih, UInt8.toNat_ofNat']
    have power : Nat.pow 256 (width + 1) = 256 * Nat.pow 256 width := Nat.pow_succ'
    rw [power, Nat.mod_mul (x := n) (a := 256)]

theorem littleBytes_littleValue (bytes : List UInt8) :
    littleBytes bytes.length (littleValue bytes) = bytes := by
  induction bytes with
  | nil => rfl
  | cons b rest ih =>
    have bound := b.toNat_lt
    have high : (b.toNat + 256 * littleValue rest) / 256 = littleValue rest := by omega
    have low : UInt8.ofNat (b.toNat + 256 * littleValue rest) = b := by
      apply UInt8.toNat_inj.mp
      simp only [UInt8.toNat_ofNat']
      omega
    simp [littleBytes, littleValue, high, low, ih]

/-- A byte list cut or filled up with zeros to a fixed length. -/
def padded (n : Nat) (bytes : List UInt8) : Vector UInt8 n :=
  ⟨(bytes.take n ++ List.replicate (n - bytes.length) 0).toArray, by simp; omega⟩

theorem toList_padded (n : Nat) (bytes : List UInt8) :
    (padded n bytes).toList = bytes.take n ++ List.replicate (n - bytes.length) 0 := by
  simp [padded, Vector.toList]

end Lockstep.Wire
