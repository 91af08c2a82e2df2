/-! Command lines: switches in short and long form, then operands by position.

Words are read from left to right. A word that asks for information ends the
reading at once, and so does the first word that does not fit.
-/

set_option autoImplicit false

namespace Lockstep.Command

/-- What a switch does to what was read so far; nothing comes of a switch that
was given before, or of a value that does not fit. -/
inductive Effect (σ : Type) where
  | inform
  | plain (apply : σ → Option σ)
  -- Needs a value, attached or in the next word.
  | valued (apply : String → σ → Option σ)

structure Switch (σ : Type) where
  short : Option Char
  long : String
  effect : Effect σ

structure Usage (σ : Type) where
  switches : List (Switch σ)
  operands : List (String → σ → Option σ)

inductive Reading (σ : Type) where
  | informed
  | refused
  | accepted (settings : σ)

def informing (σ : Type) : List (Switch σ) :=
  [⟨some 'h', "help", .inform⟩, ⟨some 'V', "version", .inform⟩]

inductive Word where
  -- Only operands follow.
  | divider
  | long (name : List Char) (attached : Option (List Char))
  | short (letters : List Char)
  | value (text : String)
  deriving DecidableEq, Repr

def splitAttached : List Char → List Char × Option (List Char)
  | [] => ([], none)
  | '=' :: rest => ([], some rest)
  | c :: rest =>
    let (name, attached) := splitAttached rest
    (c :: name, attached)

/-- A hyphen starts switches unless nothing follows it. -/
def Word.ofText (text : String) : Word :=
  match text.toList with
  | ['-', '-'] => divider
  | '-' :: '-' :: rest =>
    let (name, attached) := splitAttached rest
    long name attached
  | '-' :: c :: rest => short (c :: rest)
  | _ => value text

inductive Letters (σ : Type) where
  | informed
  | refused
  | settled (settings : σ)
  -- The last letter needs a value.
  | wanting (apply : String → σ → Option σ) (settings : σ)

def Letters.ofResult {σ : Type} : Option σ → Letters σ
  | some settings => settled settings
  | none => refused

namespace Usage

variable {σ : Type}

/-- Read letters; a letter that needs a value takes all that follow it. -/
def readLetters (u : Usage σ) : List Char → σ → Letters σ
  | [], settings => .settled settings
  | c :: rest, settings =>
    match u.switches.find? (·.short == some c) with
    | none => .refused
    | some switch =>
      match switch.effect with
      | .inform => .informed
      | .plain apply =>
        match apply settings with
        | some settings => u.readLetters rest settings
        | none => .refused
      | .valued apply =>
        match rest with
        | [] => .wanting apply settings
        | '=' :: value => .ofResult (apply (String.ofList value) settings)
        | value => .ofResult (apply (String.ofList value) settings)

def readOperands : List (String → σ → Option σ) → List String → σ → Reading σ
  | _, [], settings => .accepted settings
  | [], _ :: _, _ => .refused
  | apply :: operands, text :: rest, settings =>
    match apply text settings with
    | some settings => readOperands operands rest settings
    | none => .refused

def readValue (apply : String → σ → Option σ) (text : String) (settings : σ) : Option σ :=
  match Word.ofText text with
  | .value _ => apply text settings
  | _ => none

/-- Read words while switches may come. The first argument holds the operands
that are still open. -/
def readWords (u : Usage σ) : List (String → σ → Option σ) → List String → σ → Reading σ
  | _, [], settings => .accepted settings
  | operands, text :: rest, settings =>
    match Word.ofText text with
    | .divider => readOperands operands rest settings
    | .value _ =>
      match operands with
      | [] => .refused
      | apply :: operands =>
        match apply text settings with
        | some settings => u.readWords operands rest settings
        | none => .refused
    | .long name attached =>
      match u.switches.find? (·.long == String.ofList name) with
      | none => .refused
      | some switch =>
        match switch.effect, attached with
        | .inform, none => .informed
        | .plain apply, none =>
          match apply settings with
          | some settings => u.readWords operands rest settings
          | none => .refused
        | .valued apply, some value =>
          match apply (String.ofList value) settings with
          | some settings => u.readWords operands rest settings
          | none => .refused
        | .valued apply, none =>
          match rest with
          | [] => .refused
          | value :: rest =>
            match readValue apply value settings with
            | some settings => u.readWords operands rest settings
            | none => .refused
        | _, some _ => .refused
    | .short letters =>
      match u.readLetters letters settings with
      | .informed => .informed
      | .refused => .refused
      | .settled settings => u.readWords operands rest settings
      | .wanting apply settings =>
        match rest with
        | [] => .refused
        | value :: rest =>
          match readValue apply value settings with
          | some settings => u.readWords operands rest settings
          | none => .refused

def read (u : Usage σ) (words : List String) (settings : σ) : Reading σ :=
  u.readWords u.operands words settings

end Usage

def once {α : Type} (old : Option α) (new : Option α) : Option (Option α) :=
  match old, new with
  | none, some a => some (some a)
  | _, _ => none

def path? (text : String) : Option String := if text.isEmpty then none else some text

/-- A 64-bit count in decimal; a plus sign may stand in front. -/
def count? (text : String) : Option Nat :=
  let digits := match text.toList with
    | '+' :: rest => rest
    | all => all
  if digits.isEmpty || !digits.all Char.isDigit then none
  else
    let n := digits.foldl (fun n c => n * 10 + (c.toNat - '0'.toNat)) 0
    if n < UInt64.size then some n else none

structure SharedArguments where
  config : Option String
  robotParameters : Option String
  userParameters : Option String
  verbose : Bool
  json : Bool
  deriving DecidableEq, Repr

def SharedArguments.none : SharedArguments := ⟨.none, .none, .none, false, false⟩

def raise (flag : Bool) : Option Bool := if flag then none else some true

def sharedSwitches {σ : Type} (get : σ → SharedArguments) (set : SharedArguments → σ → σ) :
    List (Switch σ) :=
  let valued (f : String → SharedArguments → Option SharedArguments) : Effect σ :=
    .valued fun text s => (f text (get s)).map (set · s)
  let plain (f : SharedArguments → Option SharedArguments) : Effect σ :=
    .plain fun s => (f (get s)).map (set · s)
  [⟨some 'c', "config", valued fun text a =>
      (once a.config (path? text)).map fun v => { a with config := v }⟩,
   ⟨none, "params", valued fun text a =>
      (once a.robotParameters (path? text)).map fun v => { a with robotParameters := v }⟩,
   ⟨none, "user-params", valued fun text a =>
      (once a.userParameters (path? text)).map fun v => { a with userParameters := v }⟩,
   ⟨some 'v', "verbose", plain fun a => (raise a.verbose).map fun v => { a with verbose := v }⟩,
   ⟨none, "json", plain fun a => (raise a.json).map fun v => { a with json := v }⟩]

end Lockstep.Command
