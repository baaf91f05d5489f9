import GraphicsBuffers.Buffer
import GraphicsBuffers.Capability

/-!
What a client may ask of a session, and the answers it gets.
-/

namespace GraphicsBuffers

structure BufferRequest where
  width : UInt32
  height : UInt32
  format : Format
  useFlags : UseFlags
deriving DecidableEq, Repr

/-- The fields of a buffer's metadata that are to be overwritten. -/
structure MetadataEdit where
  width : Option UInt32 := none
  height : Option UInt32 := none
  format : Option Format := none
  useFlags : Option UseFlags := none
  numPlanes : Option Nat := none
  strides : Option (Planes UInt32) := none
  offsets : Option (Planes UInt32) := none
  sizes : Option (Planes UInt64) := none
  totalSize : Option UInt64 := none
  modifier : Option UInt64 := none
deriving Repr

def MetadataEdit.apply (e : MetadataEdit) (m : Metadata) : Metadata where
  width := e.width.getD m.width
  height := e.height.getD m.height
  format := e.format.getD m.format
  useFlags := e.useFlags.getD m.useFlags
  numPlanes := e.numPlanes.getD m.numPlanes
  strides := e.strides.getD m.strides
  offsets := e.offsets.getD m.offsets
  sizes := e.sizes.getD m.sizes
  totalSize := e.totalSize.getD m.totalSize
  modifier := e.modifier.getD m.modifier

/-- One operation of a client. What it works on is given by the numbers of slots. -/
inductive Operation
  | script (s : Script)
  | setNodes (nodes : List Node)
  | makeMemory (descriptor : Nat) (size : UInt64)
  | makeStream (descriptor : Nat) (code : Int32)
  | openDriver (driver : Nat)
  | dropDriver (driver : Nat)
  | dropBuffer (buffer : Nat)
  | releaseContext (slot : Nat)
  | defaultBuffer (buffer : Nat) (m : Metadata)
  | inspectBuffer (buffer : Nat)
  | editMetadata (buffer : Nat) (edit : MetadataEdit)
  | attachForeign (buffer : Nat)
  | detachBuffer (buffer : Nat)
  | hasBacking (buffer : Nat)
  | backendDestroy (buffer : Nat)
  | backendPlane (buffer plane : Nat)
  | setToken (mapping token : Nat)
  | inspectMapping (mapping : Nat)
  | create (driver buffer : Nat) (request : BufferRequest)
  | importBuffer (driver buffer : Nat) (descriptors : List Nat) (data : ImportData)
  | backendCreate (driver buffer : Nat) (request : BufferRequest)
  | backendImport (driver buffer : Nat) (descriptors : List Nat) (data : ImportData)
  | destroy (driver buffer : Nat)
  | plane (driver buffer plane : Nat)
  | map (driver buffer mapping : Nat) (flags : MapFlags)
  | unmap (driver buffer mapping : Nat)
  | context (driver : Nat) (mapOnly : Bool) (slot : Option Nat) (format : Format)
  | close (driver : Nat)
  | name (driver : Nat)
  | resolve (driver : Nat) (format : Format) (flags : UseFlags)
  | attachForeignToDriver (driver : Nat)
  | detachDriver (driver : Nat)
  | combinations (driver : Nat)
  | best (driver : Nat) (format : Format) (flags : UseFlags)
  | addCombination (driver : Nat) (format : Format) (arrangement : Arrangement) (flags : UseFlags)
  | addCombinations (driver : Nat) (formats : List Format) (arrangement : Arrangement)
      (flags : UseFlags)
  | widen (driver : Nat) (format : Format) (arrangement : Arrangement) (flags : UseFlags)
  | widenLinear (driver : Nat)
deriving Repr

inductive SlotKind
  | driver | descriptor | buffer | mapping
deriving DecidableEq, Repr

inductive Answer
  | done
  | ended
  | truth (b : Bool)
  | number (n : Nat)
  | name (s : String)
  | descriptor (buffer : Nat)
  | plane (d : Descriptor)
  | metadata (m : Metadata)
  | buffer (b : Buffer)
  | mapping (m : Mapping)
  | context (device : Nat) (supports : Bool)
  | resolved (format : Format) (flags : UseFlags)
  | combinations (table : List Combination)
  | best (c : Option Combination)
  | failed (e : Error)
  | failedOnBuffer (e : Error) (b : Buffer)
  | failedOnMapping (e : Error) (m : Mapping)
  /-- The operation names a slot that holds nothing. -/
  | vacant (kind : SlotKind)
  /-- The operation stopped the process, and no other follows. -/
  | stopped
deriving DecidableEq, Repr

end GraphicsBuffers
