import Lockstep.Text.Utf8

/-! Texts in byte buffers that end with a NUL.

A text that does not fit is cut in front of the first character that would
leave no room for the NUL.
-/

set_option autoImplicit false

namespace Lockstep.Text

/-- Bytes of the leading characters that fit into `room` bytes. -/
def fittingBytes : Nat → List Char → List UInt8
  | _, [] => []
  | room, c :: rest =>
    let bytes := Utf8.encodeChar c
    if bytes.length ≤ room then bytes ++ fittingBytes (room - bytes.length) rest else []

def keptBytes (capacity : Nat) (text : String) : List UInt8 :=
  match capacity with
  | 0 => []
  | room + 1 => fittingBytes room text.toList

/-- A buffer after a text was written into it; an empty buffer stays as it is. -/
def writeTerminated (buffer : List UInt8) (text : String) : List UInt8 :=
  let kept := keptBytes buffer.length text
  kept ++ List.replicate (buffer.length - kept.length) 0

/-- The bytes in front of the first NUL, all of them if there is none. -/
def terminatedBytes (buffer : List UInt8) : List UInt8 := buffer.takeWhile (· != 0)

end Lockstep.Text
