import GraphicsBuffers.Arithmetic
import GraphicsBuffers.Format
import GraphicsBuffers.Usage

/-!
What is known of a buffer: its size, format and use, and where each of its planes lies. `layOut`
places the planes of a format one after the other.
-/

namespace GraphicsBuffers

/-- One entry for each plane that a buffer may have. -/
abbrev Planes (α : Type) := Vector α 4

namespace Planes

variable {α : Type} [OfNat α 0]

def zero : Planes α := Vector.replicate 4 0

/-- The entry of plane `p`, and zero where there is none. -/
def entry (v : Planes α) (p : Nat) : α := v[p]?.getD 0

def put (v : Planes α) (p : Nat) (a : α) : Planes α := v.setIfInBounds p a

/-- Keeps the first `n` entries and zeroes the rest. -/
def keep (v : Planes α) (n : Nat) : Planes α := v.mapIdx fun i a => if i < n then a else 0

theorem entry_zero (p : Nat) : (zero : Planes α).entry p = 0 := by
  unfold entry zero
  rw [Vector.getElem?_replicate]
  split <;> rfl

theorem entry_put_self (v : Planes α) {p : Nat} (a : α) (h : p < 4) : (v.put p a).entry p = a := by
  simp [entry, put, h]

theorem entry_put_other (v : Planes α) {p q : Nat} (a : α) (h : p ≠ q) :
    (v.put p a).entry q = v.entry q := by
  simp [entry, put, h]

theorem entry_keep (v : Planes α) (n p : Nat) :
    (v.keep n).entry p = if p < n then v.entry p else 0 := by
  unfold entry keep
  rw [Vector.getElem?_mapIdx]
  by_cases hp : p < 4
  · simp only [Vector.getElem?_eq_getElem hp, Option.map_some, Option.getD_some]
  · simp [Vector.getElem?_eq_none (Nat.le_of_not_lt hp)]

theorem ext_entry {v w : Planes α} (h : ∀ p < 4, v.entry p = w.entry p) : v = w := by
  apply Vector.ext
  intro p hp
  have := h p hp
  simpa [entry, Vector.getElem?_eq_getElem hp] using this

theorem ext_split {v w : Planes α} {n : Nat} (hlow : ∀ p < n, v.entry p = w.entry p)
    (hhigh : ∀ p, n ≤ p → v.entry p = w.entry p) : v = w :=
  ext_entry fun p _ => (Nat.lt_or_ge p n).elim (hlow p) (hhigh p)

end Planes

structure Metadata where
  width : UInt32 := 0
  height : UInt32 := 0
  format : Format := ⟨0⟩
  useFlags : UseFlags := .empty
  numPlanes : Nat := 0
  strides : Planes UInt32 := Planes.zero
  offsets : Planes UInt32 := Planes.zero
  sizes : Planes UInt64 := Planes.zero
  totalSize : UInt64 := 0
  modifier : UInt64 := 0
deriving DecidableEq, Repr

namespace Metadata

def setStride (m : Metadata) (p : Nat) (stride : UInt32) : Metadata :=
  { m with strides := m.strides.put p stride }

def setSize (m : Metadata) (p : Nat) (size : UInt64) : Metadata :=
  { m with sizes := m.sizes.put p size }

def setOffset (m : Metadata) (p : Nat) (offset : UInt32) : Metadata :=
  { m with offsets := m.offsets.put p offset }

/-- The bytes of one row of the first plane at `width` pixels. -/
def strideFromWidth (format : Format) (width : UInt32) : Except Error UInt32 := do
  match ← format.planes with
  | [] => .error .formatWithoutPlanes
  | first :: _ => checked32 .times ⟨"width", width.toNat⟩ ⟨"bytes_per_pixel", first.bytes⟩

/-- The bytes of one row of a chroma plane, from the stride of the first plane. -/
def chromaStride (format : Format) (first shape : PlaneShape) (stride : UInt32) :
    Except Error UInt32 := do
  let scaled ← checked32 .times ⟨"stride", stride.toNat⟩ ⟨"bytes_per_pixel", shape.bytes⟩
  let row := (ceilDiv scaled.toNat (first.bytes * shape.horizontal)).toUInt32
  if format = .yvu420Android then align32 row 16 else pure row

/-- Places plane `p` at `offset` and the planes after it behind it; the result is where the last
one ends. A plane's stride and size are recorded before its offset is found to fit. -/
def layPlanes (format : Format) (first : PlaneShape) (stride height : UInt32) :
    Nat → UInt64 → List PlaneShape → EStateM Error Metadata UInt64
  | _, offset, [] => pure offset
  | p, offset, shape :: rest => do
    let row ← ofExcept (if p = 0 then .ok stride else chromaStride format first shape stride)
    let rows := ceilDiv height.toNat shape.vertical
    let size ← ofExcept (checked64 .times ⟨"row_bytes", row.toNat⟩ ⟨"rows", rows⟩)
    modify fun m => (m.setStride p row).setSize p size
    let start ← ofExcept (narrow offset)
    modify fun m => m.setOffset p start
    let next ← ofExcept (checked64 .plus ⟨"offset", offset.toNat⟩ ⟨"plane_size", size.toNat⟩)
    layPlanes format first stride height (p + 1) next rest

/-- Drops what is recorded of planes past the last, and sets the plane count and total size. -/
def finish (m : Metadata) (count : Nat) (total : UInt64) : Metadata :=
  { m with
    strides := m.strides.keep count
    offsets := m.offsets.keep count
    sizes := m.sizes.keep count
    numPlanes := count
    totalSize := total }

/-- Records a linear layout whose first plane has `stride` bytes a row and `height` rows. Where it
fails, the planes placed so far stay recorded. -/
def layOut (format : Format) (stride height : UInt32) : EStateM Error Metadata Unit := do
  let shapes ← ofExcept format.planes
  let first := shapes.headD ⟨1, 1, 1⟩
  let total ← layPlanes format first stride height 0 0 shapes
  modify fun m => m.finish shapes.length total

/-- The metadata with a linear layout recorded. -/
def laidOut (m : Metadata) (format : Format) (stride height : UInt32) : Except Error Metadata :=
  match layOut format stride height m with
  | .ok _ m => .ok m
  | .error e _ => .error e

/-- The metadata of a buffer whose planes are not placed yet. -/
def unplaced (width height : UInt32) (format : Format) (useFlags : UseFlags) :
    Except Error Metadata := do
  let shapes ← format.planes
  pure { width, height, format, useFlags, numPlanes := shapes.length }

end Metadata

end GraphicsBuffers
