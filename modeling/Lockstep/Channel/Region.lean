import Lockstep.Channel.World

/-! Creating, attaching and removing shared regions.

Only the creator of a region removes its name, and only while the name is still
bound to the region it created.
-/

set_option autoImplicit false

namespace Lockstep.Channel

structure RegionHandle where
  name : String
  id : Nat
  size : Nat
  -- Whether this process created the region.
  owned : Bool
  deriving DecidableEq, Repr

/-- The directory that regions are kept in, and the one above it. The rules for
names let these pass, though no region can have them. -/
def directoryNames : List String := ["/.", "/.."]

def requireName (name : String) : Except Error Unit :=
  match nameFault? name with
  | some fault => .error (.invalidName name fault)
  | none => .ok ()

section

variable {α σ : Type}

/-- Bind a name to a fresh, zeroed region of `size` bytes. A name that is taken
is an error, or with `overwrite` loses its old region; a directory keeps its name. -/
def createObject [Inhabited α] (name : String) (size : Nat) (overwrite : Bool) :
    Act α σ Error Nat := do
  Act.ofExcept (requireName name)
  if name ∈ directoryNames ∨ ((← Act.space).regionNames name).isSome then
    if !overwrite then throw (.regionExists name)
    Act.note .warn "Shared memory object already exists, reclaiming it" [("name", .text name)]
    if name ∈ directoryNames then throw (.system .isDirectory)
    Act.setSpace ((← Act.space).unbindRegion name)
  let (id, s) := (← Act.space).addRegion name ⟨size, default⟩
  Act.setSpace s
  Act.note .debug "Created shared memory object" [("name", .text name), ("size", .number size)]
  return id

def openObject (name : String) (expected : Nat) : Act α σ Error Nat := do
  Act.ofExcept (requireName name)
  if name ∈ directoryNames then throw (.system .invalidArgument)
  let s ← Act.space
  match s.regionNames name with
  | none => throw (.regionNotFound name)
  | some id =>
    let actual := (s.regions[id]?.map (·.size)).getD 0
    if actual ≠ expected then throw (.sizeMismatch name expected actual)
    return id

/-- Unbind a name if it is still bound to the given region; say whether it was. -/
def unlinkObjectIf (name : String) (id : Nat) : Act α σ Error Bool := do
  match (← Act.space).regionNames name with
  | none =>
    if name ∈ directoryNames then foreign
    return false
  | some current =>
    if current = id then
      Act.setSpace ((← Act.space).unbindRegion name)
      return true
    foreign
    return false
where
  foreign := Act.note .warn "Shared memory name now belongs to a newer object, not unlinking"
    [("name", .text name)]

/-- Create the region for a value of `valueSize` bytes. The system is taken to give the
memory: sizing the object and mapping it do not fail once the name is bound to it. -/
def createRegion [Inhabited α] (name : String) (valueSize : Nat) (overwrite : Bool) :
    Act α σ Error RegionHandle := do
  let size := regionSizeFor valueSize
  let id ← createObject name size overwrite
  Act.note .info "Shared region created" [("name", .text name), ("size", .number size)]
  return ⟨name, id, size, true⟩

/-- Attach to a region that the peer created. Mapping it does not fail, as in `createRegion`. -/
def attachRegion (name : String) (valueSize : Nat) : Act α σ Error RegionHandle := do
  let size := regionSizeFor valueSize
  let id ← openObject name size
  Act.note .info "Shared region attached" [("name", .text name), ("size", .number size)]
  return ⟨name, id, size, false⟩

/-- Whether a newer creator has taken over the name of a region of ours. -/
def RegionHandle.reclaimed (r : RegionHandle) (s : Space α) : Bool :=
  r.owned && match s.regionNames r.name with
    | some current => current != r.id
    | none => false

def RegionHandle.destroy (r : RegionHandle) : Act α σ Error Bool := do
  if !r.owned then return false
  let unlinked ← unlinkObjectIf r.name r.id
  if unlinked then Act.note .debug "Shared region unlinked" [("name", .text r.name)]
  return unlinked

end

/-- How the system spells a name: leading slashes do not count, and there is
only one directory. -/
def systemName (name : String) : Except Error String :=
  let base := name.toList.dropWhile (· == '/')
  if base.isEmpty || base.contains '/' || base.contains '\x00' then
    .error (.system .invalidArgument)
  else if 255 < (String.ofList base).utf8ByteSize then .error (.system .nameTooLong)
  else .ok (String.ofList ('/' :: base))

/-- What any spelling of a name refers to. A directory is none of the regions, so
it gets the number that no region has yet. -/
def regionIdentity? {α : Type} (name : String) (s : Space α) : Except Error (Option Nat) := do
  let spelled ← systemName name
  return if spelled ∈ directoryNames then some s.regions.size else s.regionNames spelled

def unlinkRegion {α : Type} (name : String) (s : Space α) : Except Error (Bool × Space α) := do
  let spelled ← systemName name
  if spelled ∈ directoryNames then throw (.system .isDirectory)
  return ((s.regionNames spelled).isSome, s.unbindRegion spelled)

end Lockstep.Channel
