import GraphicsBuffers.Session.Basic
import GraphicsBuffers.Session.Operation

/-!
One operation of a session. An operation on an empty slot changes nothing, and one that fails keeps
what it did to its driver and, where the buffer was there before, to its buffer.
-/

namespace GraphicsBuffers.Session

def backend (s : Session) : Backend := Allocator.backend s.allocator

/-! ### The contents of slots -/

def onDriver (s : Session) (driver : Nat) (act : Driver → Session × Answer) :
    Session × Answer :=
  match s.drivers.get? driver with
  | some d => act d
  | none => (s, .vacant .driver)

def onBuffer (s : Session) (buffer : Nat) (act : Buffer → Session × Answer) :
    Session × Answer :=
  match s.buffers.get? buffer with
  | some b => act b
  | none => (s, .vacant .buffer)

def onMapping (s : Session) (mapping : Nat) (act : Mapping → Session × Answer) :
    Session × Answer :=
  match s.mappings.get? mapping with
  | some m => act m
  | none => (s, .vacant .mapping)

def onDescriptors (s : Session) (slots : List Nat) (act : List Descriptor → Session × Answer) :
    Session × Answer :=
  match slots.mapM s.descriptors.get? with
  | some ds => act ds
  | none => (s, .vacant .descriptor)

section

variable {s : Session} {p : Session → Prop} {q : Session × Answer → Prop}
  {driver buffer mapping : Nat} {slots : List Nat}

theorem onDriver_result {act : Driver → Session × Answer} (hs : q (s, .vacant .driver))
    (h : ∀ d, s.drivers.get? driver = some d → q (act d)) : q (s.onDriver driver act) := by
  unfold onDriver
  cases hd : s.drivers.get? driver with
  | none => exact hs
  | some d => exact h d hd

theorem onBuffer_result {act : Buffer → Session × Answer} (hs : q (s, .vacant .buffer))
    (h : ∀ b, s.buffers.get? buffer = some b → q (act b)) : q (s.onBuffer buffer act) := by
  unfold onBuffer
  cases hb : s.buffers.get? buffer with
  | none => exact hs
  | some b => exact h b hb

theorem onMapping_result {act : Mapping → Session × Answer} (hs : q (s, .vacant .mapping))
    (h : ∀ m, s.mappings.get? mapping = some m → q (act m)) : q (s.onMapping mapping act) := by
  unfold onMapping
  cases hm : s.mappings.get? mapping with
  | none => exact hs
  | some m => exact h m hm

theorem onDescriptors_result {act : List Descriptor → Session × Answer}
    (hs : q (s, .vacant .descriptor))
    (h : ∀ ds, slots.mapM s.descriptors.get? = some ds → q (act ds)) :
    q (s.onDescriptors slots act) := by
  unfold onDescriptors
  cases hds : slots.mapM s.descriptors.get? with
  | none => exact hs
  | some ds => exact h ds hds

theorem onDriver_of {act : Driver → Session × Answer} (hs : p s)
    (h : ∀ d, s.drivers.get? driver = some d → p (act d).1) : p (s.onDriver driver act).1 :=
  onDriver_result (q := fun r => p r.1) hs h

theorem onBuffer_of {act : Buffer → Session × Answer} (hs : p s)
    (h : ∀ b, s.buffers.get? buffer = some b → p (act b).1) : p (s.onBuffer buffer act).1 :=
  onBuffer_result (q := fun r => p r.1) hs h

theorem onMapping_of {act : Mapping → Session × Answer} (hs : p s)
    (h : ∀ m, s.mappings.get? mapping = some m → p (act m).1) :
    p (s.onMapping mapping act).1 :=
  onMapping_result (q := fun r => p r.1) hs h

theorem onDescriptors_of {act : List Descriptor → Session × Answer} (hs : p s)
    (h : ∀ ds, slots.mapM s.descriptors.get? = some ds → p (act ds).1) :
    p (s.onDescriptors slots act).1 :=
  onDescriptors_result (q := fun r => p r.1) hs h

end

/-! ### Operations on a driver and a buffer -/

/-- Takes over the host and the driver from an operation. -/
def resume (s : Session) (driver : Nat) (f : Focus) : Session :=
  { s with host := f.host, drivers := s.drivers.put driver f.driver }

/-- Takes over the buffer as well, which is the one that the slot held. -/
def resumeBuffer (s : Session) (driver buffer : Nat) (f : Focus) : Session :=
  let s := s.resume driver f
  { s with buffers := s.buffers.put buffer f.buffer }

/-- Runs an operation that makes a new buffer. -/
def makeBuffer (s : Session) (driver buffer : Nat) (d : Driver) (act : FocusM Unit) :
    Session × Answer :=
  match act { host := s.host, driver := d } with
  | .ok _ f => ((s.resume driver f).storeBuffer buffer f.buffer, .buffer f.buffer)
  | .error e f => (s.resume driver f, .failed e)

/-- Makes a buffer of memory from elsewhere, unless the check of how it lies stops the process. -/
def importBuffer (s : Session) (driver buffer : Nat) (d : Driver) (data : ImportData) :
    Session × Answer :=
  match s.backend.importBuffer data with
  | some act => s.makeBuffer driver buffer d act
  | none => (s, .stopped)

theorem importBuffer_result {s : Session} {q : Session × Answer → Prop} {driver buffer : Nat}
    {d : Driver} {data : ImportData} (hs : data.metadata = none → q (s, .stopped))
    (h : ∀ m, data.metadata = some m →
      q (s.makeBuffer driver buffer d (s.backend.wrapBuffer data m))) :
    q (s.importBuffer driver buffer d data) := by
  unfold importBuffer Backend.importBuffer
  cases hm : data.metadata with
  | none => exact hs hm
  | some m => exact h m hm

/-- Runs an operation on a buffer that is there. -/
def changeBuffer (s : Session) (driver buffer : Nat) (d : Driver) (b : Buffer)
    (act : FocusM Unit) : Session × Answer :=
  match act ⟨s.host, d, b⟩ with
  | .ok _ f => (s.resumeBuffer driver buffer f, .buffer f.buffer)
  | .error e f => (s.resumeBuffer driver buffer f, .failedOnBuffer e f.buffer)

def destroyBuffer (s : Session) (buffer : Nat) (b : Buffer) : Session × Buffer :=
  let (b, host) := s.backend.destroy b s.host
  ({ s with host, buffers := s.buffers.put buffer b }, b)

def storeMapping (s : Session) (mapping : Nat) (m : Mapping) : Session :=
  { s with mappings := s.mappings.put mapping m }

def mapBuffer (s : Session) (driver buffer mapping : Nat) (flags : MapFlags) (d : Driver)
    (b : Buffer) : Session × Answer :=
  match s.backend.mapBuffer flags ⟨s.host, d, b⟩ with
  | .ok m f => ((s.resumeBuffer driver buffer f).storeMapping mapping m, .mapping m)
  | .error e f => (s.resumeBuffer driver buffer f, .failed e)

def unmapBuffer (s : Session) (driver buffer mapping : Nat) (d : Driver) (b : Buffer)
    (m : Mapping) : Session × Answer :=
  match s.backend.unmapBuffer m ⟨s.host, d, b⟩ with
  | .ok m f => ((s.resumeBuffer driver buffer f).storeMapping mapping m, .mapping m)
  | .error e f => (s.resumeBuffer driver buffer f, .failedOnMapping e m)

def editMetadata (s : Session) (buffer : Nat) (b : Buffer) (m : Metadata) : Session :=
  { s with buffers := s.buffers.put buffer { b with metadata := m } }

/-- Attaches a client's own value to a buffer, or nothing, in place of what was attached. -/
def replaceState (s : Session) (buffer : Nat) (b : Buffer) (state : Option BufferState) :
    Session :=
  { s with
    buffers := s.buffers.put buffer { b with state }
    host := s.host.discard b.state }

/-- Runs an action that comes up with a descriptor of a plane. -/
def exportPlane (s : Session) (act : HostM Descriptor) : Session × Answer :=
  match act s.host with
  | .ok d host => ({ s with host }, .plane d)
  | .error e host => ({ s with host }, .failed e)

/-! ### Operations on a driver -/

def openDriver (s : Session) (driver : Nat) : Session × Answer :=
  match s.backend.openDriver s.host with
  | .ok d host => ({ s with host }.storeDriver driver d, .name s.backend.name)
  | .error e host => ({ s with host }, .failed e)

def closeDriver (s : Session) (driver : Nat) (d : Driver) : Session :=
  let (d, host) := s.backend.close d s.host
  { s with host, drivers := s.drivers.put driver d }

/-- Attaches a client's own value to a driver, or nothing, in place of what was attached. -/
def replaceDriverState (s : Session) (driver : Nat) (d : Driver) (state : Option DriverState) :
    Session :=
  { s with
    drivers := s.drivers.put driver { d with state }
    host := s.host.detach d.state }

/-- The driver's context, which stays held if it is given a slot. -/
def takeContext (s : Session) (driver : Nat) (mapOnly : Bool) (slot : Option Nat)
    (format : Format) (d : Driver) : Session × Answer :=
  match Allocator.context s.allocator mapOnly { host := s.host, driver := d } with
  | .error e f => (s.resume driver f, .failed e)
  | .ok c f =>
    let s := s.resume driver f
    let answer := Answer.context c.device (s.host.supports format)
    match slot with
    | some slot => (s.storeContext slot c, answer)
    | none => (s, answer)

def setCombinations (s : Session) (driver : Nat) (d : Driver) (table : List Combination) :
    Session :=
  { s with drivers := s.drivers.put driver { d with combinations := table } }

/-! ### The step -/

/-- The values that a client attaches as its own. -/
def foreignBufferValue : UInt32 := 7

def foreignDriverValue : UInt64 := 9

def step (s : Session) : Operation → Session × Answer
  | .script answers => ({ s with host := s.host.apply answers }, .done)
  | .setNodes nodes => ({ s with host.directory.nodes := some nodes }, .done)
  | .makeMemory descriptor size =>
    let (d, host) := s.host.createMemory size
    ({ s with host }.storeDescriptor descriptor d, .descriptor d.buffer)
  | .makeStream descriptor code =>
    let d := Descriptor.stream code
    (s.storeDescriptor descriptor d, .descriptor d.buffer)
  | .openDriver driver => s.openDriver driver
  | .dropDriver driver => (s.dropDriver driver, .truth (s.drivers.get? driver).isSome)
  | .dropBuffer buffer => (s.dropBuffer buffer, .truth (s.buffers.get? buffer).isSome)
  | .releaseContext slot => (s.dropContext slot, .truth (s.contexts.get? slot).isSome)
  | .defaultBuffer buffer m =>
    (s.storeBuffer buffer { metadata := m }, .buffer { metadata := m })
  | .inspectBuffer buffer => s.onBuffer buffer fun b => (s, .buffer b)
  | .editMetadata buffer edit => s.onBuffer buffer fun b =>
    let m := edit.apply b.metadata
    (s.editMetadata buffer b m, .metadata m)
  | .attachForeign buffer => s.onBuffer buffer fun b =>
    (s.replaceState buffer b (some (.foreign foreignBufferValue)),
      .number foreignBufferValue.toNat)
  | .detachBuffer buffer => s.onBuffer buffer fun b =>
    (s.replaceState buffer b none, .truth b.state.isSome)
  | .hasBacking buffer => s.onBuffer buffer fun b => (s, .truth b.backing?.isSome)
  | .backendDestroy buffer => s.onBuffer buffer fun b => ((s.destroyBuffer buffer b).1, .done)
  | .backendPlane buffer plane => s.onBuffer buffer fun b =>
    s.exportPlane (s.backend.planeDescriptor b plane)
  | .setToken mapping token => s.onMapping mapping fun m =>
    let m := { m with token := if token = 0 then none else some token }
    (s.storeMapping mapping m, .mapping m)
  | .inspectMapping mapping => s.onMapping mapping fun m => (s, .mapping m)
  | .create driver buffer r => s.onDriver driver fun d =>
    s.makeBuffer driver buffer d (s.backend.createBuffer r.width r.height r.format r.useFlags)
  | .importBuffer driver buffer slots data => s.onDriver driver fun d =>
    s.onDescriptors slots fun ds => s.importBuffer driver buffer d { data with descriptors := ds }
  | .backendCreate driver buffer r => s.onDriver driver fun d => s.onBuffer buffer fun b =>
    s.changeBuffer driver buffer d b (s.backend.create r.width r.height r.format r.useFlags)
  | .backendImport driver buffer slots data => s.onDriver driver fun d =>
    s.onDescriptors slots fun ds => s.onBuffer buffer fun b =>
      s.changeBuffer driver buffer d b (s.backend.importData { data with descriptors := ds })
  | .destroy driver buffer => s.onDriver driver fun _ => s.onBuffer buffer fun b =>
    let (s, b) := s.destroyBuffer buffer b
    (s, .buffer b)
  | .plane driver buffer plane => s.onDriver driver fun _ => s.onBuffer buffer fun b =>
    s.exportPlane (s.backend.bufferPlane b plane)
  | .map driver buffer mapping flags => s.onDriver driver fun d => s.onBuffer buffer fun b =>
    s.mapBuffer driver buffer mapping flags d b
  | .unmap driver buffer mapping => s.onDriver driver fun d => s.onBuffer buffer fun b =>
    s.onMapping mapping fun m => s.unmapBuffer driver buffer mapping d b m
  | .context driver mapOnly slot format => s.onDriver driver fun d =>
    s.takeContext driver mapOnly slot format d
  | .close driver => s.onDriver driver fun d => (s.closeDriver driver d, .done)
  | .name driver => s.onDriver driver fun _ => (s, .name s.backend.name)
  | .resolve driver format flags => s.onDriver driver fun _ =>
    let (format, flags) := s.backend.resolve format flags
    (s, .resolved format flags)
  | .attachForeignToDriver driver => s.onDriver driver fun d =>
    (s.replaceDriverState driver d (some (.foreign foreignDriverValue)),
      .number foreignDriverValue.toNat)
  | .detachDriver driver => s.onDriver driver fun d =>
    (s.replaceDriverState driver d none, .truth d.state.isSome)
  | .combinations driver => s.onDriver driver fun d => (s, .combinations d.combinations)
  | .best driver format flags => s.onDriver driver fun d =>
    (s, .best (Combination.best? d.combinations format flags))
  | .addCombination driver format arrangement flags => s.onDriver driver fun d =>
    let table := Combination.add d.combinations format arrangement flags
    (s.setCombinations driver d table, .number table.length)
  | .addCombinations driver formats arrangement flags => s.onDriver driver fun d =>
    let table := Combination.addAll d.combinations formats arrangement flags
    (s.setCombinations driver d table, .number table.length)
  | .widen driver format arrangement flags => s.onDriver driver fun d =>
    let table := Combination.widen d.combinations format arrangement flags
    (s.setCombinations driver d table, .combinations (table.filter fun c => c.format = format))
  | .widenLinear driver => s.onDriver driver fun d =>
    let table := Combination.widenLinear d.combinations
    (s.setCombinations driver d table, .combinations table)

end GraphicsBuffers.Session
