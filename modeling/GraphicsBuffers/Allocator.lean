import GraphicsBuffers.Backend
import GraphicsBuffers.Discovery
import GraphicsBuffers.Policy

/-!
The backend that allocates through a vendor library. Its device context is created when it is first
needed, and lives as long as the driver or any buffer that was imported on its device.
-/

namespace GraphicsBuffers

structure Allocator where
  nodes : NodeSource
  library : LibrarySource
deriving DecidableEq, Repr

namespace Allocator

/-- The GPU drivers without display hardware of their own. -/
def displaylessDrivers : List String :=
  ["v3d", "vc4", "etnaviv", "panfrost", "lima", "freedreno"]

def defaultLibrary : String := "libgbm_mesa_wrapper.so"

def defaultSymbol : String := "get_gbm_ops"

/-- How a backend is to be set up. A supplied search or a linked library stands in for what would
be found by default. -/
structure Settings where
  displayless : List String := displaylessDrivers
  library : String := defaultLibrary
  symbol : String := defaultSymbol
  suppliedSearch : Bool := false
  linkedLibrary : Bool := false
deriving DecidableEq, Repr

def Settings.build (s : Settings) : Except Error Allocator :=
  if s.library = "" then .error (.invalidArgument "empty wrapper library name")
  else if s.symbol = "" then .error (.invalidArgument "empty wrapper symbol name")
  else .ok {
    nodes := if s.suppliedSearch then .supplied else .directory s.displayless
    library := if s.linkedLibrary then .linked else .shared s.library s.symbol }

/-! ### The device context -/

/-- Selects the nodes, loads the library and creates a device, in this order. -/
def createContext (a : Allocator) (mapOnly : Bool) : HostM Context := do
  let nodes ← Discovery.findNodes a.nodes mapOnly
  let library ← Vendor.load a.library
  let (device, h) := Vendor.createDevice library (some nodes.device) (← get)
  set h
  match device with
  | some device => pure ⟨library, device⟩
  | none =>
    HostM.log .error "Unable to create gbm_mesa driver"
    HostM.record (.unload library)
    throw .deviceNotCreated

/-- Attaches a context to the driver, in place of what was attached before. -/
def publish (c : Context) (s : Focus) : Focus :=
  { s with
    driver.state := some (.context c)
    host := (s.host.hold c).detach s.driver.state }

/-- The driver's context, which is created if there is none. A failed creation leaves nothing
behind. -/
def context (a : Allocator) (mapOnly : Bool) : FocusM Context := do
  match (← get).driver.context? with
  | some c => pure c
  | none =>
    let c ← FocusM.onHost (createContext a mapOnly)
    modify (publish c)
    FocusM.log .info "gbm_mesa device context created"
    pure c

def contextFailed : Error := .invalidArgument "failed to init gbm driver"

/-- The driver's context for an operation that needs one. -/
def requireContext (a : Allocator) (mapOnly : Bool) : FocusM Context := do
  match ← attempt (context a mapOnly) with
  | .ok c => pure c
  | .error e =>
    FocusM.log .error s!"Failed to init gbm driver: {e.message}"
    throw contextFailed

def close (d : Driver) (h : Host) : Driver × Host :=
  match d.state with
  | none => (d, h)
  | some state =>
    ({ d with state := none },
      (h.detach (some state)).log .debug "gbm_mesa device context released by driver")

/-! ### Buffers -/

/-- Some systems run out of memory that can be scanned out. The request is then repeated without,
unless scanning out is required. -/
def allocOrFallBack (c : Context) (plan : Plan) : HostM Vendor.Allocation := do
  match ← attempt (Vendor.alloc c.library c.device plan.request) with
  | .ok a => pure a
  | .error e =>
    if plan.scanoutRequired then throw e
    else
      HostM.log .error s!"Failed to allocate for scanout, trying non-scanout: {e.message}"
      Vendor.alloc c.library c.device { plan.request with scanout := false }

def allocPlanned (c : Context) (plan : Plan) : HostM Vendor.Allocation :=
  HostM.explain (allocOrFallBack c plan) fun e => s!"Failed to allocate buffer: {e.message}"

/-- Width, height and format under which the vendor library knows a buffer. One in a format that
it has no equivalent for is a single row of bytes. -/
def geometry (native : Bool) (m : Metadata) : Except Error (UInt32 × UInt32 × Format) := do
  if native then pure (m.width, m.height, m.format)
  else pure (← narrow m.totalSize, 1, .r8)

/-- Imports a buffer on the context's device, so that it can be mapped. -/
def importOn (c : Context) (d : Descriptor) (stride : UInt32) (modifier : UInt64)
    (refused : String) : FocusM Import := do
  let s ← get
  let m := s.buffer.metadata
  let (width, height, format) ← ofExcept (geometry (s.host.supports m.format) m)
  let (handle, h) := Vendor.importBuffer c.library c.device
    ⟨d, width, height, stride, modifier, format⟩ s.host
  set { s with host := h }
  match handle with
  | some handle => pure ⟨c, handle⟩
  | none =>
    FocusM.log .error refused
    throw .importRefused

/-- Records the inodes of the descriptors, from plane `p` on. -/
def noteInodes : Nat → List Descriptor → FocusM Unit
  | _, [] => pure ()
  | p, d :: rest => do
    let inode ← FocusM.onHost (HostM.inspect d)
    modify fun s => { s with buffer.inodes := s.buffer.inodes.put p inode }
    noteInodes (p + 1) rest

/-- Attaches a backing to the buffer in focus, in place of what was attached before. -/
def attach (k : Backing) (s : Focus) : Focus :=
  { s with
    host := (s.host.holdFor k.imported).discard s.buffer.state
    buffer.state := some (.backing k) }

/-- Lets go of a backing that is not attached after all. -/
def withdraw (k : Backing) (s : Focus) : Focus :=
  { s with host := (s.host.holdFor k.imported).discard (some (.backing k)) }

/-- Attaches a backing to the buffer in focus once its inodes are recorded. -/
def settle (k : Backing) : FocusM Unit := do
  match ← attempt (noteInodes 0 k.descriptors) with
  | .ok () => modify (attach k)
  | .error e =>
    modify (withdraw k)
    throw e

/-- Records how the allocated planes lie. -/
def recordLayout (plan : Plan) (a : Vendor.Allocation) (format : Format) : FocusM Unit := do
  match plan.blob with
  | some layout => modify fun s => { s with buffer.metadata := layout }
  | none => FocusM.onMetadata (Metadata.layOut format a.stride plan.request.height)
  modify fun s => { s with buffer.metadata.modifier := a.modifier }

/-- Allocates memory for the buffer in focus, in the given context, and records how its planes lie
there. -/
def allocateMemory (c : Context) (flags : UseFlags) : FocusM Vendor.Allocation := do
  let s ← get
  let m := s.buffer.metadata
  let (plan, notes) ← ofExcept (Plan.draw m flags (s.host.supports m.format))
  notes.forM (FocusM.log .debug)
  let a ← FocusM.onHost (allocPlanned c plan)
  recordLayout plan a m.format
  let m := (← get).buffer.metadata
  FocusM.log .debug
    s!"Allocated: {m.width}x{m.height}, stride: {a.stride}, map_stride: {a.mapStride}"
  pure a

/-- The handle of allocated memory, if it is to be mapped. -/
def importAllocated (c : Context) (flags : UseFlags) (a : Vendor.Allocation) :
    FocusM (Option Import) := do
  if flags.intersects .software then
    let m := (← get).buffer.metadata
    some <$> importOn c a.descriptor (m.strides.entry 0) a.modifier
      "Failed to import allocated buffer for mapping"
  else pure none

/-- A descriptor for each plane, all of the same allocated memory. -/
def copyPlanes (d : Descriptor) : FocusM (List Descriptor) := do
  let m := (← get).buffer.metadata
  FocusM.onHost ((List.replicate m.numPlanes d).mapM HostM.duplicate)

def allocateOn (c : Context) (flags : UseFlags) : FocusM Unit := do
  let a ← allocateMemory c flags
  let descriptors ← copyPlanes a.descriptor
  let imported ← importAllocated c flags a
  settle ⟨descriptors, imported, a.mapStride⟩

def create (a : Allocator) (flags : UseFlags) : FocusM Unit := do
  let c ← requireContext a false
  allocateOn c flags

def bufferNotEmpty : Error := .invalidArgument "bo isn't empty"

/-- The handle of imported memory, if it is to be mapped. -/
def importForMapping (a : Allocator) (data : ImportData) : FocusM (Option Import) := do
  if data.useFlags.intersects .software then
    let c ← requireContext a true
    match data.descriptors with
    | [] => throw ImportData.tooFewDescriptors
    | d :: _ =>
      some <$> importOn c d (data.strides.entry 0) data.modifier "Failed to import buffer into gbm"
  else pure none

def importData (a : Allocator) (data : ImportData) : FocusM Unit := do
  let b := (← get).buffer
  if b.state.isSome then
    FocusM.log .error "bo_import: bo isn't empty"
    throw bufferNotEmpty
  else if data.descriptors.length < b.metadata.numPlanes then throw ImportData.tooFewDescriptors
  else
    let descriptors ←
      FocusM.onHost ((data.descriptors.take b.metadata.numPlanes).mapM HostM.duplicate)
    let imported ← importForMapping a data
    settle ⟨descriptors, imported, 0⟩

def destroy (b : Buffer) (h : Host) : Buffer × Host :=
  ({ b with state := none }, h.discard b.state)

def noBacking : Error := .invalidArgument "bo has no backend state"

def planeDescriptor (b : Buffer) (plane : Nat) : HostM Descriptor :=
  match b.backing? with
  | none => throw noBacking
  | some k =>
    match k.descriptors[plane]? with
    | some d => HostM.duplicate d
    | none => throw Backend.planeOutOfRange

/-- What the buffer in focus was imported as, which mapping relies on. -/
def mappable (complaint : String) : FocusM Import := do
  match (← get).buffer.backing? with
  | none => throw .noBufferHandle
  | some k =>
    match k.imported with
    | some i => pure i
    | none =>
      FocusM.log .error complaint
      throw .noBufferHandle

def map (a : Allocator) (flags : MapFlags) : FocusM Mapping := do
  let _ ← requireContext a true
  let i ← mappable "bo_map: buffer was not imported for CPU access"
  let s ← get
  let m := s.buffer.metadata
  let (width, height, _) ← ofExcept (geometry (s.host.supports m.format) m)
  let place ← FocusM.onHost (Vendor.map i.context.library i.handle width height)
  pure ⟨place.address, m.totalSize, flags, some place.token⟩

def unmap (a : Allocator) (m : Mapping) : FocusM Mapping := do
  let _ ← requireContext a true
  let i ← mappable "bo_unmap: buffer has no gbm handle"
  match m.token with
  | none =>
    FocusM.log .error "bo_unmap: mapping has no token"
    throw .noMappingToken
  | some token =>
    modify fun s => { s with host := Vendor.unmap i.context.library i.handle token s.host }
    pure { m with token := none }

def mapStride (b : Buffer) : UInt32 := (b.backing?.map Backing.mapStride).getD 0

def backend (a : Allocator) : Backend where
  name := "gbm_mesa"
  register table := .ok (Policy.register table)
  close := close
  create _ _ _ flags := create a flags
  importData := importData a
  destroy := destroy
  planeDescriptor := planeDescriptor
  map := map a
  unmap := unmap a
  mapStride := mapStride
  resolve := Policy.resolve

end Allocator

end GraphicsBuffers
