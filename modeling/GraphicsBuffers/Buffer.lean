import GraphicsBuffers.Host
import GraphicsBuffers.Vendor

/-!
Buffer objects and mappings, and what a buffer holds on behalf of the backend that made it.
-/

namespace GraphicsBuffers

/-- A vendor library's handle for a buffer, and the context whose device it belongs to. -/
structure Import where
  context : Context
  handle : Nat
deriving DecidableEq, Repr

structure Backing where
  /-- One descriptor for each plane. -/
  descriptors : List Descriptor
  /-- Present where the buffer can be mapped. -/
  imported : Option Import
  mapStride : UInt32
deriving DecidableEq, Repr

/-- What is attached to a buffer: a backing, or a value that the backend does not know. -/
inductive BufferState
  | backing (b : Backing)
  | foreign (value : UInt32)
deriving DecidableEq, Repr

structure Buffer where
  metadata : Metadata := {}
  /-- The inode behind each plane. -/
  inodes : Planes UInt64 := Planes.zero
  state : Option BufferState := none
deriving DecidableEq, Repr

namespace Buffer

def backing? (b : Buffer) : Option Backing :=
  match b.state with
  | some (.backing k) => some k
  | _ => none

def import? (b : Buffer) : Option Import := b.backing?.bind Backing.imported

end Buffer

/-- Lets go of what was attached to a buffer: its handle is freed, and its context released. -/
def Host.discard (h : Host) : Option BufferState → Host
  | some (.backing ⟨_, some i, _⟩) =>
    (Vendor.free i.context.library i.handle h).release i.context
  | _ => h

/-- One more holder of the context whose device the handle belongs to, if there is a handle. -/
def Host.holdFor (h : Host) : Option Import → Host
  | some i => h.hold i.context
  | none => h

/-- A view of a buffer's pixels from the CPU. -/
structure Mapping where
  address : UInt64 := 0
  length : UInt64 := 0
  flags : MapFlags := ⟨0⟩
  token : Option Nat := none
deriving DecidableEq, Repr

/-- Memory that was allocated elsewhere, one descriptor for each plane, and how its planes lie. -/
structure ImportData where
  descriptors : List Descriptor
  strides : Planes UInt32
  offsets : Planes UInt32
  modifier : UInt64
  width : UInt32
  height : UInt32
  format : Format
  useFlags : UseFlags
deriving DecidableEq, Repr

namespace ImportData

def tooFewDescriptors : Error := .invalidArgument "missing plane descriptors"

def planeOutside : Error := .invalidArgument "plane exceeds buffer size"

/-- Where plane `p` of `count` ends: at the next plane's offset, unless there is no next plane or
its offset is 0, in which case it ends with its descriptor. -/
def planeEnd (data : ImportData) (count p : Nat) (size : UInt64) : UInt64 :=
  if p + 1 = count ∨ data.offsets.entry (p + 1) = 0 then size
  else (data.offsets.entry (p + 1)).toUInt64

theorem planeEnd_last (data : ImportData) {count p : Nat} (size : UInt64) (h : p + 1 = count) :
    data.planeEnd count p size = size := by
  simp [planeEnd, h]

theorem planeEnd_next (data : ImportData) {count p : Nat} (size : UInt64) (h : p + 1 < count)
    (hpos : 0 < (data.offsets.entry (p + 1)).toNat) :
    data.planeEnd count p size = (data.offsets.entry (p + 1)).toUInt64 := by
  have hzero : data.offsets.entry (p + 1) ≠ 0 := fun h0 => by
    rw [h0] at hpos
    exact absurd hpos (Nat.lt_irrefl 0)
  exact if_neg (not_or.mpr ⟨Nat.ne_of_lt h, hzero⟩)

/-- The bytes of plane `p`, from its offset to `stop`. -/
def planeSize (data : ImportData) (p : Nat) (stop : UInt64) : UInt64 :=
  stop - (data.offsets.entry p).toUInt64

/-- Records plane `p`, from its offset to `stop`, and the size of all planes so far. -/
def recordPlane (data : ImportData) (p : Nat) (stop total : UInt64) (m : Metadata) : Metadata :=
  let m := m.setStride p (data.strides.entry p)
  let m := m.setOffset p (data.offsets.entry p)
  let m := m.setSize p (data.planeSize p stop)
  { m with totalSize := total }

section

variable (data : ImportData) (p : Nat) (stop total : UInt64) (m : Metadata)

theorem recordPlane_strides : (data.recordPlane p stop total m).strides =
    m.strides.put p (data.strides.entry p) := rfl

theorem recordPlane_offsets : (data.recordPlane p stop total m).offsets =
    m.offsets.put p (data.offsets.entry p) := rfl

theorem recordPlane_sizes : (data.recordPlane p stop total m).sizes =
    m.sizes.put p (data.planeSize p stop) := rfl

theorem recordPlane_numPlanes : (data.recordPlane p stop total m).numPlanes = m.numPlanes := rfl

theorem recordPlane_modifier : (data.recordPlane p stop total m).modifier = m.modifier := rfl

theorem recordPlane_self (hp : p < 4) :
    (data.recordPlane p stop total m).strides.entry p = data.strides.entry p ∧
      (data.recordPlane p stop total m).offsets.entry p = data.offsets.entry p ∧
      (data.recordPlane p stop total m).sizes.entry p = data.planeSize p stop := by
  rw [recordPlane_strides, recordPlane_offsets, recordPlane_sizes]
  exact ⟨Planes.entry_put_self _ _ hp, Planes.entry_put_self _ _ hp, Planes.entry_put_self _ _ hp⟩

theorem recordPlane_other {q : Nat} (hpq : p ≠ q) :
    (data.recordPlane p stop total m).strides.entry q = m.strides.entry q ∧
      (data.recordPlane p stop total m).offsets.entry q = m.offsets.entry q ∧
      (data.recordPlane p stop total m).sizes.entry q = m.sizes.entry q := by
  rw [recordPlane_strides, recordPlane_offsets, recordPlane_sizes]
  exact ⟨Planes.entry_put_other _ _ hpq, Planes.entry_put_other _ _ hpq,
    Planes.entry_put_other _ _ hpq⟩

end

/-- Records plane `p`, from its offset to `stop`, unless the size of all planes so far overflows. -/
def placePlane (data : ImportData) (p : Nat) (stop : UInt64) (m : Metadata) : Option Metadata :=
  (sum? m.totalSize (data.planeSize p stop)).map fun total => data.recordPlane p stop total m

/-- Records the planes from `p` on, each of which must lie within its descriptor. Nothing comes of
it where the sizes overflow, which stops the process. -/
def placePlanes (data : ImportData) (count : Nat) :
    Nat → List Descriptor → Metadata → Option (Except Error Metadata)
  | _, [], m => some (.ok m)
  | p, d :: rest, m =>
    match d.size with
    | .error e => some (.error e)
    | .ok size =>
      let stop := planeEnd data count p size
      if stop < (data.offsets.entry p).toUInt64 ∨ size < stop then some (.error planeOutside)
      else (data.placePlane p stop m).bind (placePlanes data count (p + 1) rest)

/-- The metadata of the buffer that the data describes. -/
def metadata (data : ImportData) : Option (Except Error Metadata) :=
  match Metadata.unplaced data.width data.height data.format data.useFlags with
  | .error e => some (.error e)
  | .ok m =>
    if data.descriptors.length < m.numPlanes then some (.error tooFewDescriptors)
    else
      placePlanes data m.numPlanes 0 (data.descriptors.take m.numPlanes)
        { m with modifier := data.modifier }

end ImportData

end GraphicsBuffers
