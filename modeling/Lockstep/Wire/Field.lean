import Lockstep.Number.Scalar
import Lockstep.Wire.Little

/-! Fixed layouts of values in memory.

A layout lists the fields of a type in order. Each field is placed at the next
multiple of its alignment, and the size of the whole is a multiple of the
largest alignment; bytes between fields belong to no field. From the list come
the offsets, the bytes, and access to single leaves by path.
-/

set_option autoImplicit false

namespace Lockstep.Wire

inductive Leaf where
  | u32 (n : UInt32)
  | i32 (n : Int32)
  | u64 (n : UInt64)
  | f32 (x : Single)
  | f64 (x : Double)
  | bytes (b : List UInt8)
  deriving DecidableEq, Repr

/-- Equality up to the payload of a NaN. -/
def Leaf.agrees : Leaf → Leaf → Bool
  | f32 x, f32 y => x == y || (x.isNaN && y.isNaN)
  | f64 x, f64 y => x == y || (x.isNaN && y.isNaN)
  | a, b => a == b

inductive Segment where
  | field (name : String)
  | index (i : Nat)
  deriving DecidableEq, Repr

abbrev Path := List Segment

def Segment.suffix : Segment → String
  | field name => "." ++ name
  | index i => s!"[{i}]"

/-- A path as text: fields with dots between them, indices in brackets. -/
def Path.text : Path → String
  | .field name :: rest => name ++ String.join (rest.map Segment.suffix)
  | path => String.join (path.map Segment.suffix)

def Path.ofPart (part : String) : Path :=
  match part.splitOn "[" with
  | [] => []
  | name :: indices =>
    .field name :: indices.map fun i => .index ((i.takeWhile Char.isDigit).toString.toNat?.getD 0)

def Path.ofText (text : String) : Path := (text.splitOn ".").flatMap Path.ofPart

structure Placement where
  name : String
  offset : Nat
  size : Nat
  deriving DecidableEq, Repr

class Layout (α : Type) where
  size : Nat
  align : Nat
  -- The bytes in order; a byte that belongs to no field is `none`.
  encode : α → List (Option UInt8)
  -- Read a value from the bytes at the front.
  decode : List UInt8 → α
  -- Every leaf with the path to it, in order.
  leaves : α → List (Path × Leaf)
  -- Replace the leaf at a path, if there is one of that type.
  assign : Path → Leaf → α → Option α
  placements : List Placement

@[reducible] def Layout.ofLeaf {α : Type} (size : Nat) (wrap : α → Leaf) (unwrap : Leaf → Option α)
    (toNat : α → Nat) (ofNat : Nat → α) : Layout α where
  size := size
  align := size
  encode a := (littleBytes size (toNat a)).map some
  decode bytes := ofNat (littleValue (bytes.take size))
  leaves a := [([], wrap a)]
  assign path leaf _ := if path.isEmpty then unwrap leaf else none
  placements := []

instance : Layout UInt32 :=
  .ofLeaf 4 .u32 (fun | .u32 n => some n | _ => none) UInt32.toNat UInt32.ofNat

instance : Layout Int32 :=
  .ofLeaf 4 .i32 (fun | .i32 n => some n | _ => none) (fun n => n.toUInt32.toNat)
    (fun n => (UInt32.ofNat n).toInt32)

instance : Layout UInt64 :=
  .ofLeaf 8 .u64 (fun | .u64 n => some n | _ => none) UInt64.toNat UInt64.ofNat

instance : Layout Single :=
  .ofLeaf 4 .f32 (fun | .f32 x => some x | _ => none) (fun x => x.bits.toNat) Single.ofNatBits

instance : Layout Double :=
  .ofLeaf 8 .f64 (fun | .f64 x => some x | _ => none) (fun x => x.bits.toNat) Double.ofNatBits

/-- Raw bytes are one leaf; shorter data is filled up with zeros. -/
instance (n : Nat) : Layout (Vector UInt8 n) where
  size := n
  align := 1
  encode b := b.toList.map some
  decode bytes := padded n bytes
  leaves b := [([], .bytes b.toList)]
  assign path leaf _ := match path, leaf with
    | [], .bytes b => if b.length ≤ n then some (padded n b) else none
    | _, _ => none
  placements := []

instance {α : Type} [layout : Layout α] (n : Nat) : Layout (Vector α n) where
  size := n * layout.size
  align := layout.align
  encode v := v.toList.flatMap layout.encode
  decode bytes := Vector.ofFn fun i : Fin n => layout.decode (bytes.drop (i * layout.size))
  leaves v := v.toList.zipIdx.flatMap fun (a, i) =>
    (layout.leaves a).map fun (path, leaf) => (.index i :: path, leaf)
  assign path leaf v := match path with
    | .index i :: rest =>
      if h : i < n then (layout.assign rest leaf v[i]).map fun a => v.set i a h else none
    | _ => none
  placements := []

structure Field (σ : Type) where
  name : String
  part : Type
  layout : Layout part
  get : σ → part
  set : part → σ → σ

def Field.of {σ τ : Type} [layout : Layout τ] (name : String) (get : σ → τ) (set : τ → σ → σ) :
    Field σ :=
  ⟨name, τ, layout, get, set⟩

def alignUp (offset align : Nat) : Nat := (offset + align - 1) / align * align

def placed {σ : Type} : Nat → List (Field σ) → List (Nat × Field σ)
  | _, [] => []
  | next, f :: rest =>
    let offset := alignUp next f.layout.align
    (offset, f) :: placed (offset + f.layout.size) rest

/-- Layout of a composite type from its fields; `minAlign` may raise its alignment. -/
@[reducible] def Layout.ofFields {σ : Type} [Inhabited σ] (minAlign : Nat)
    (fields : List (Field σ)) : Layout σ :=
  let align := fields.foldl (fun a f => max a f.layout.align) minAlign
  let fieldsAt := placed 0 fields
  let finish := fieldsAt.foldl (fun _ (offset, f) => offset + f.layout.size) 0
  let size := alignUp finish align
  let pad (cells : List (Option UInt8)) (offset : Nat) :=
    cells ++ List.replicate (offset - cells.length) none
  { size := size
    align := align
    encode := fun s =>
      let cells := fieldsAt.foldl
        (fun cells (offset, f) => pad cells offset ++ f.layout.encode (f.get s)) []
      pad cells size
    decode := fun bytes =>
      fieldsAt.foldl (fun s (offset, f) => f.set (f.layout.decode (bytes.drop offset)) s) default
    leaves := fun s => fields.flatMap fun f =>
      (f.layout.leaves (f.get s)).map fun (path, leaf) => (.field f.name :: path, leaf)
    assign := fun path leaf s => match path with
      | .field name :: rest =>
        match fields.find? (·.name == name) with
        | some f => (f.layout.assign rest leaf (f.get s)).map fun part => f.set part s
        | none => none
      | _ => none
    placements := fieldsAt.map fun (offset, f) => ⟨f.name, offset, f.layout.size⟩ }

def leafAt? {α : Type} [layout : Layout α] (path : Path) (a : α) : Option Leaf :=
  ((layout.leaves a).find? (·.1 == path)).map (·.2)

/-- Leaves in which two values of a type differ, with the new ones. -/
def changes {α : Type} [layout : Layout α] (before after : α) : List (Path × Leaf) :=
  ((layout.leaves before).zip (layout.leaves after)).filterMap fun ((_, old), path, new) =>
    if old.agrees new then none else some (path, new)

/-- Bytes of a value laid over others, which show through between the fields. -/
def overlay {α : Type} [layout : Layout α] (a : α) (under : List UInt8) : List UInt8 :=
  (layout.encode a).zipWith (fun cell old => cell.getD old) under

end Lockstep.Wire
