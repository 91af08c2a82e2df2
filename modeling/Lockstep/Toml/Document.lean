import Lockstep.Toml.Quoted

/-! Reading documents.

A document is a list of entries and table headers. Tables come into being by a
header, by a dotted key, or on the way to another table; which of these it was
decides whether a table may still be added to.
-/

set_option autoImplicit false

namespace Lockstep.Toml

inductive Node where
  | value (v : Value)
  -- A table: whether no header has opened it yet, and whether dotted keys made it.
  | table (isImplicit isDotted : Bool) (entries : List (String × Node))
  -- An array of tables, each opened by a header of its own.
  | tables (items : List Node)

namespace Node

mutual

def toValue : Node → Value
  | value v => v
  | table _ _ entries => .table (entryValues entries)
  | tables items => .array (itemValues items)

def entryValues : List (String × Node) → List (String × Value)
  | [] => []
  | (key, node) :: rest => (key, node.toValue) :: entryValues rest

def itemValues : List Node → List Value
  | [] => []
  | node :: rest => node.toValue :: itemValues rest

end

/-- Replace the entry under a key, which comes last if it is new. -/
def setEntry (entries : List (String × Node)) (key : String) (node : Node) : List (String × Node) :=
  match entries with
  | [] => [(key, node)]
  | (k, n) :: rest => if k == key then (key, node) :: rest else (k, n) :: setEntry rest key node

/-- Change the table at the end of a path. Tables on the way are made as
needed; a dotted path does not lead into tables that a header has opened. -/
def changeAt (isDotted : Bool) (change : Node → Option Node) : List String → Node → Option Node
  | [], node => change node
  | key :: path, table i d entries =>
    let enter (child : Node) : Option Node :=
      (changeAt isDotted change path child).map fun n => table i d (setEntry entries key n)
    match entries.lookup key with
    | none => enter (table true isDotted [])
    | some (table ci cd centries) =>
      if isDotted && !ci then none else enter (table ci cd centries)
    | some (tables items) =>
      match items.getLast? with
      | some last =>
        (changeAt isDotted change path last).map fun n =>
          table i d (setEntry entries key (tables (items.dropLast ++ [n])))
      | none => none
    | some (value _) => none
  | _ :: _, _ => none

/-- Add an entry to a table that has no such key. A table that dotted keys made
takes entries by dotted keys only, any other table by plain keys only. -/
def addEntry (viaDots : Bool) (key : String) (v : Value) : Node → Option Node
  | table i d entries =>
    if d == viaDots && (entries.lookup key).isNone then
      some (table i d (entries ++ [(key, value v)]))
    else none
  | _ => none

def openTable (key : String) : Node → Option Node
  | table i d entries =>
    match entries.lookup key with
    | none => some (table i d (entries ++ [(key, table false false [])]))
    | some (table true false centries) =>
      some (table i d (setEntry entries key (table false false centries)))
    | _ => none
  | _ => none

def appendTable (key : String) : Node → Option Node
  | table i d entries =>
    match entries.lookup key with
    | none => some (table i d (entries ++ [(key, tables [table false false []])]))
    | some (tables items) =>
      some (table i d (setEntry entries key (tables (items ++ [table false false []]))))
    | _ => none
  | _ => none

end Node

def insert (base key : List String) (v : Value) (root : Node) : Option Node :=
  match key.getLast? with
  | none => none
  | some last =>
    let inner := key.dropLast
    root.changeAt false (fun table =>
      table.changeAt true (Node.addEntry (!inner.isEmpty) last v) inner) base

def skipSpace : Bool → List Char → List Char
  | _, [] => []
  | true, c :: rest => skipSpace (c != '\n') rest
  | false, c :: rest =>
    if isSpace c then skipSpace false rest
    else if c == '#' then skipSpace true rest
    else c :: rest

/-- What follows a line on which nothing but blanks and a comment is left. -/
def endLine? (cs : List Char) : Option (List Char) :=
  match cs.dropWhile isBlank with
  | [] => some []
  | '\n' :: rest => some rest
  | '#' :: rest => some ((rest.dropWhile (· != '\n')).drop 1)
  | _ => none

def isBare (c : Char) : Bool := c.isAlphanum || c == '_' || c == '-'

def simpleKey? (cs : List Char) : Option (String × List Char) :=
  match cs with
  | '"' :: _ | '\'' :: _ => quotedLine? cs
  | _ =>
    let name := cs.takeWhile isBare
    if name.isEmpty then none else some (.ofList name, cs.drop name.length)

def dottedKey? : Nat → List Char → Option (List String × List Char)
  | 0, _ => none
  | fuel + 1, cs => do
    let (name, rest) ← simpleKey? (cs.dropWhile isBlank)
    match rest.dropWhile isBlank with
    | '.' :: rest => do
      let (names, rest) ← dottedKey? fuel rest
      return (name :: names, rest)
    | rest => return ([name], rest)

def maxDepth : Nat := 80

def endsAtom (c : Char) : Bool := isSpace c || c == ',' || c == ']' || c == '\x7d' || c == '#'

/-- An unquoted word; a date and a time may have one blank between them. -/
def atomText (cs : List Char) : List Char × List Char :=
  let word := cs.takeWhile (!endsAtom ·)
  let rest := cs.drop word.length
  match date? word, rest with
  | some [], ' ' :: c :: _ =>
    if isDecimal c then
      let time := (rest.drop 1).takeWhile (!endsAtom ·)
      (word ++ ' ' :: time, rest.drop (1 + time.length))
    else (word, rest)
  | _, _ => (word, rest)

mutual

/-- A value, with how deep it may still nest. -/
def value? : Nat → Nat → List Char → Option (Value × List Char)
  | 0, _, _ => none
  | fuel + 1, depth, cs =>
    match cs, depth with
    | '"' :: _, _ | '\'' :: _, _ => (quotedText? cs).map fun (s, rest) => (.text s, rest)
    | '[' :: rest, depth + 1 => do
      let (items, rest) ← arrayItems? fuel depth rest
      return (.array items, rest)
    | '\x7b' :: rest, depth + 1 =>
      match rest.dropWhile isBlank with
      | '\x7d' :: rest => some (.table [], rest)
      | rest => do
        let (node, rest) ← inlineEntries? fuel depth (.table false false []) rest
        return (node.toValue, rest)
    | cs, _ =>
      let (word, rest) := atomText cs
      (atom? word).map (·, rest)

/-- Items of an array up to its closing bracket; a comma may follow the last. -/
def arrayItems? : Nat → Nat → List Char → Option (List Value × List Char)
  | 0, _, _ => none
  | fuel + 1, depth, cs =>
    match skipSpace false cs with
    | ']' :: rest => some ([], rest)
    | cs => do
      let (item, rest) ← value? fuel depth cs
      match skipSpace false rest with
      | ',' :: rest => do
        let (items, rest) ← arrayItems? fuel depth rest
        return (item :: items, rest)
      | ']' :: rest => some ([item], rest)
      | _ => none

/-- Entries of an inline table up to its closing brace, all on one line. -/
def inlineEntries? : Nat → Nat → Node → List Char → Option (Node × List Char)
  | 0, _, _, _ => none
  | fuel + 1, depth, node, cs => do
    let (key, rest) ← dottedKey? (cs.length + 1) cs
    match rest with
    | '=' :: rest => do
      let (v, rest) ← value? fuel depth (rest.dropWhile isBlank)
      let node ← insert [] key v node
      match rest.dropWhile isBlank with
      | ',' :: rest => inlineEntries? fuel depth node rest
      | '\x7d' :: rest => some (node, rest)
      | _ => none
    | _ => none

end

/-- The entries and headers that follow, with the table that entries go to. -/
def statements? : Nat → List String → Node → List Char → Option Node
  | 0, _, _, _ => none
  | fuel + 1, base, root, cs =>
    match skipSpace false cs with
    | [] => some root
    | '[' :: '[' :: rest => do
      let (key, rest) ← dottedKey? (rest.length + 1) rest
      match key.getLast?, rest with
      | some last, ']' :: ']' :: rest =>
        let root ← root.changeAt false (Node.appendTable last) key.dropLast
        statements? fuel key root (← endLine? rest)
      | _, _ => none
    | '[' :: rest => do
      let (key, rest) ← dottedKey? (rest.length + 1) rest
      match key.getLast?, rest with
      | some last, ']' :: rest =>
        let root ← root.changeAt false (Node.openTable last) key.dropLast
        statements? fuel key root (← endLine? rest)
      | _, _ => none
    | cs => do
      let (key, rest) ← dottedKey? (cs.length + 1) cs
      match rest with
      | '=' :: rest =>
        let (v, rest) ← value? (rest.length + 1) maxDepth (rest.dropWhile isBlank)
        let root ← insert base key v root
        statements? fuel base root (← endLine? rest)
      | _ => none

/-- Whether all characters may stand in a document: of the controls only the
tab, the line feed, and the carriage return in front of a line feed. -/
def isLegal : List Char → Bool
  | [] => true
  | '\r' :: '\n' :: rest => isLegal rest
  | c :: rest =>
    (c == '\t' || c == '\n' || (' ' ≤ c && c != '\x7f')) && isLegal rest

def dropMark : List Char → List Char
  | '\ufeff' :: rest => rest
  | rest => rest

def parse? (text : String) : Option Value :=
  let cs := dropMark text.toList
  if isLegal cs then
    (statements? (cs.length + 1) [] (.table false false []) cs).map Node.toValue
  else none

end Lockstep.Toml
