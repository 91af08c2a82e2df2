import Lockstep.Toml.Atom

/-! Quoted texts of documents: basic ones with escapes, literal ones without, on
one line or several.
-/

set_option autoImplicit false

namespace Lockstep.Toml

def namedChar? (digits : List Char) : Option Char :=
  if digits.all isHexadecimal then
    let n := ofDigits 16 digits
    if n.isValidChar then some (Char.ofNat n) else none
  else none

def escape? : List Char → Option (Char × List Char)
  | 'b' :: rest => some ('\x08', rest)
  | 't' :: rest => some ('\t', rest)
  | 'n' :: rest => some ('\n', rest)
  | 'f' :: rest => some ('\x0c', rest)
  | 'r' :: rest => some ('\r', rest)
  | '"' :: rest => some ('"', rest)
  | '\\' :: rest => some ('\\', rest)
  | 'u' :: rest =>
    if 4 ≤ rest.length then (namedChar? (rest.take 4)).map (·, rest.drop 4) else none
  | 'U' :: rest =>
    if 8 ≤ rest.length then (namedChar? (rest.take 8)).map (·, rest.drop 8) else none
  | _ => none

def isBlank (c : Char) : Bool := c == ' ' || c == '\t' || c == '\r'

def isSpace (c : Char) : Bool := isBlank c || c == '\n'

/-- A backslash that ends a line: what follows the blank lines and the
indentation behind it. -/
def continuation? (cs : List Char) : Option (List Char) :=
  match cs.dropWhile isBlank with
  | '\n' :: rest => some (rest.dropWhile isSpace)
  | _ => none

def lineText (quote : Char) (escapes : Bool) : Nat → List Char → Option (List Char × List Char)
  | 0, _ => none
  | _, [] => none
  | fuel + 1, c :: rest =>
    if c == quote then some ([], rest)
    else if c == '\n' || c == '\r' then none
    else if escapes && c == '\\' then do
      let (e, rest) ← escape? rest
      let (cs, rest) ← lineText quote escapes fuel rest
      return (e :: cs, rest)
    else do
      let (cs, rest) ← lineText quote escapes fuel rest
      return (c :: cs, rest)

/-- The rest of a text of several lines, up to its three closing quotes; one or
two more quotes in front of those belong to the text. -/
def blockText (quote : Char) (escapes : Bool) : Nat → List Char → Option (List Char × List Char)
  | 0, _ => none
  | _, [] => none
  | fuel + 1, c :: rest =>
    if c == quote then
      match 1 + (rest.takeWhile (· == quote)).length with
      | 1 => do
        let (cs, rest) ← blockText quote escapes fuel rest
        return (quote :: cs, rest)
      | 2 => do
        let (cs, rest) ← blockText quote escapes fuel (rest.drop 1)
        return (quote :: quote :: cs, rest)
      | run =>
        if run ≤ 5 then some (List.replicate (run - 3) quote, rest.drop (run - 1)) else none
    else if escapes && c == '\\' then
      match continuation? rest with
      | some rest => blockText quote escapes fuel rest
      | none => do
        let (e, rest) ← escape? rest
        let (cs, rest) ← blockText quote escapes fuel rest
        return (e :: cs, rest)
    else do
      let (cs, rest) ← blockText quote escapes fuel rest
      return (c :: cs, rest)

/-- A line break right behind the opening quotes does not count. -/
def dropFirstBreak : List Char → List Char
  | '\n' :: rest => rest
  | '\r' :: '\n' :: rest => rest
  | rest => rest

def spelled : List Char × List Char → String × List Char := Prod.map String.ofList id

def quotedLine? : List Char → Option (String × List Char)
  | '"' :: rest => (lineText '"' true (rest.length + 1) rest).map spelled
  | '\'' :: rest => (lineText '\'' false (rest.length + 1) rest).map spelled
  | _ => none

def quotedText? : List Char → Option (String × List Char)
  | '"' :: '"' :: '"' :: rest =>
    (blockText '"' true (rest.length + 1) (dropFirstBreak rest)).map spelled
  | '\'' :: '\'' :: '\'' :: rest =>
    (blockText '\'' false (rest.length + 1) (dropFirstBreak rest)).map spelled
  | cs => quotedLine? cs

end Lockstep.Toml
