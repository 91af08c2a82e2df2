import Lockstep.Text.Printable

/-! Texts shown with their unprintable characters spelled out.

An escape is a backslash with a letter or sign for the usual controls and
quotes, and otherwise the code point in braces.
-/

set_option autoImplicit false

namespace Lockstep.Text

/-- The code point in lower-case hexadecimal, as `\u{41}`. -/
def codePointEscape (c : Char) : List Char :=
  ['\\', 'u', '\x7b'] ++ Nat.toDigits 16 c.toNat ++ ['\x7d']

structure EscapeStyle where
  singleQuote : Bool
  doubleQuote : Bool
  combining : Bool

def escapeChar (style : EscapeStyle) (c : Char) : List Char :=
  match c with
  | '\x00' => ['\\', '0']
  | '\t' => ['\\', 't']
  | '\n' => ['\\', 'n']
  | '\r' => ['\\', 'r']
  | '\\' => ['\\', '\\']
  | '"' => if style.doubleQuote then ['\\', '"'] else ['"']
  | '\'' => if style.singleQuote then ['\\', '\''] else ['\'']
  | c =>
    if style.combining && isCombining c then codePointEscape c
    else if isPrintable c then [c]
    else codePointEscape c

/-- Spell a text that stands between other characters: a combining mark is
escaped only where it would attach to what stands before the text. -/
def escaped (s : String) : String :=
  match s.toList with
  | [] => ""
  | c :: rest =>
    String.ofList (escapeChar ⟨true, true, true⟩ c ++ rest.flatMap (escapeChar ⟨true, true, false⟩))

def quoted (s : String) : String :=
  String.ofList (['"'] ++ s.toList.flatMap (escapeChar ⟨false, true, true⟩) ++ ['"'])

end Lockstep.Text
