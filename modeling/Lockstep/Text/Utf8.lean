/-! Decoding of UTF-8, strict and lossy.

A malformed sequence is a maximal run of bytes that could still have begun a
character. Strict decoding reports where the first one starts; lossy decoding
puts one replacement character in place of each.
-/

set_option autoImplicit false

namespace Lockstep.Text.Utf8

inductive Head where
  | char (c : Char) (width : Nat)
  | malformed (width : Nat)
  | incomplete
  deriving Repr

def isContinuation (b : UInt8) : Bool := 0x80 ≤ b && b ≤ 0xbf

/-- Bytes that may stand second after a given lead byte of a sequence. -/
def secondRange (lead : UInt8) : UInt8 × UInt8 :=
  if lead = 0xe0 then (0xa0, 0xbf)
  else if lead = 0xed then (0x80, 0x9f)
  else if lead = 0xf0 then (0x90, 0xbf)
  else if lead = 0xf4 then (0x80, 0x8f)
  else (0x80, 0xbf)

/-- Length of the sequence that a lead byte begins; 0 for a byte that begins none. -/
def sequenceWidth (lead : UInt8) : Nat :=
  if lead < 0x80 then 1
  else if lead < 0xc2 then 0
  else if lead < 0xe0 then 2
  else if lead < 0xf0 then 3
  else if lead < 0xf5 then 4
  else 0

def extend (point : Nat) (b : UInt8) : Nat := point * 64 + b.toNat % 64

/-- Check the bytes that follow a lead byte against a sequence of `width` bytes. -/
def follow (lead : UInt8) (width : Nat) (rest : List UInt8) : Head :=
  let (low, high) := secondRange lead
  match rest with
  | [] => .incomplete
  | b :: rest =>
    if b < low || high < b then .malformed 1
    else if width = 2 then .char (Char.ofNat (extend (lead.toNat % 32) b)) 2
    else match rest with
      | [] => .incomplete
      | c :: rest =>
        if !isContinuation c then .malformed 2
        else if width = 3 then .char (Char.ofNat (extend (extend (lead.toNat % 16) b) c)) 3
        else match rest with
          | [] => .incomplete
          | d :: _ =>
            if !isContinuation d then .malformed 3
            else .char (Char.ofNat (extend (extend (extend (lead.toNat % 8) b) c) d)) 4

def head (lead : UInt8) (rest : List UInt8) : Head :=
  match sequenceWidth lead with
  | 0 => .malformed 1
  | 1 => .char (Char.ofNat lead.toNat) 1
  | width => follow lead width rest

/-- Where and why a byte list is not UTF-8; `width` is absent when it stops
inside a character. -/
structure Fault where
  validUpTo : Nat
  width : Option Nat
  deriving DecidableEq, Repr

def Fault.message (fault : Fault) : String :=
  match fault.width with
  | some width => s!"invalid utf-8 sequence of {width} bytes from index {fault.validUpTo}"
  | none => s!"incomplete utf-8 byte sequence from index {fault.validUpTo}"

def decodeFrom (index : Nat) : List UInt8 → Except Fault (List Char)
  | [] => .ok []
  | lead :: rest =>
    match head lead rest with
    | .char c width => do
      let cs ← decodeFrom (index + width) (rest.drop (width - 1))
      return c :: cs
    | .malformed width => .error ⟨index, some width⟩
    | .incomplete => .error ⟨index, none⟩
termination_by bytes => bytes.length
decreasing_by simp only [List.length_drop, List.length_cons]; omega

def decode (bytes : List UInt8) : Except Fault String :=
  (decodeFrom 0 bytes).map String.ofList

def lossyChars : List UInt8 → List Char
  | [] => []
  | lead :: rest =>
    match head lead rest with
    | .char c width => c :: lossyChars (rest.drop (width - 1))
    | .malformed width => '\ufffd' :: lossyChars (rest.drop (width - 1))
    | .incomplete => ['\ufffd']
termination_by bytes => bytes.length
decreasing_by all_goals simp only [List.length_drop, List.length_cons]; omega

/-- The text of a byte list, each malformed sequence replaced by U+FFFD. -/
def lossy (bytes : List UInt8) : String := String.ofList (lossyChars bytes)

def encodeChar (c : Char) : List UInt8 := String.utf8EncodeChar c

def encode (s : String) : List UInt8 := s.toList.flatMap encodeChar

end Lockstep.Text.Utf8
