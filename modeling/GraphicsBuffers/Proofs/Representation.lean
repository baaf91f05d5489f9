import GraphicsBuffers.Proofs.Shape

/-!
What a buffer has to show from when a driver made it until it is destroyed: the descriptors of its
planes, their inodes, and the handle that it is mapped through. Clients can do anything meanwhile,
except write to the buffer themselves.
-/

namespace GraphicsBuffers

/-- Where the memory of a buffer is from: it was allocated between two hosts, or it was given. -/
inductive Source
  | allocated (before after : Host)
  | given (ds : List Descriptor)

/-- The backing of a buffer with `count` planes in memory from the source. Allocated planes share
one descriptor. -/
def Source.Backs : Source → Nat → Backing → Prop
  | .allocated h h', count, k => ∃ request al, Granted h.answers.allocs (added h h') request al ∧
      k.descriptors = List.replicate count al.descriptor ∧ k.mapStride = al.mapStride
  | .given ds, count, k => count ≤ ds.length ∧ k.descriptors = ds.take count ∧ k.mapStride = 0

theorem Source.Backs.length {source : Source} {count : Nat} {k : Backing}
    (h : source.Backs count k) : k.descriptors.length = count := by
  cases source with
  | allocated =>
    obtain ⟨_, _, -, hd, -⟩ := h
    rw [hd, List.length_replicate]
  | given ds =>
    obtain ⟨hle, hd, -⟩ := h
    rw [hd, List.length_take, Nat.min_eq_left hle]

/-- How a buffer was made: for which use, of what, and what was attached to it then. -/
structure Making where
  flags : UseFlags
  source : Source
  state : Option BufferState

namespace Buffer

/-- The buffer has what it was made with: a descriptor for each plane, whose inodes are noted, and a
handle if it is to be mapped. -/
structure Represents (b : Buffer) (m : Making) (k : Backing) : Prop where
  made : m.state = some (.backing k)
  state : b.state = some (.backing k)
  source : m.source.Backs b.metadata.numPlanes k
  inodes : ∀ p d, k.descriptors[p]? = some d → b.inodes.entry p = d.inode
  handle : k.imported.isSome = m.flags.intersects .software

/-- The buffer has what it was made with until it is destroyed, and keeps its shape even then. -/
structure Kept (b : Buffer) (use : UseFlags) (m : Making) (live : Bool) : Prop where
  shaped : b.Shaped
  useFlags : b.metadata.useFlags = use
  holds : live = true → ∃ k, b.Represents m k
  empty : live = false → b.state = none

variable {b b' : Buffer} {use : UseFlags} {m : Making} {k : Backing} {live : Bool}

theorem Represents.length (h : b.Represents m k) :
    k.descriptors.length = b.metadata.numPlanes := h.source.length

theorem Represents.relaid (h : b.Represents m k) (hr : b.Relaid b') (hb : b.Shaped) :
    b'.Represents m k := by
  refine ⟨h.made, hr.state.trans h.state, ?_, ?_, h.handle⟩
  · rw [hr.metadata.numPlanes hb.metadata]
    exact h.source
  · rw [hr.inodes]
    exact h.inodes

theorem Kept.relaid (h : b.Kept use m live) (hr : b.Relaid b') : b'.Kept use m live := by
  refine ⟨hr.shaped h.shaped, hr.metadata.useFlags.trans h.useFlags, fun hl => ?_, fun hl => ?_⟩
  · obtain ⟨k, hk⟩ := h.holds hl
    exact ⟨k, hk.relaid hr h.shaped⟩
  · rw [hr.state]
    exact h.empty hl

theorem Kept.destroy (h : b.Kept use m live) : Kept { b with state := none } use m false :=
  ⟨⟨h.shaped.metadata, h.shaped.inodes⟩, h.useFlags, nofun, fun _ => rfl⟩

end Buffer

/-! ### One operation -/

namespace Allocator

variable (a : Allocator) {f : Focus} {k : Backing}

theorem settled_shaped (hf : f.buffer.Shaped)
    (hk : k.descriptors.length = f.buffer.metadata.numPlanes) :
    (settled k f).buffer.Shaped ∧
      ∀ p d, k.descriptors[p]? = some d → (settled k f).buffer.inodes.entry p = d.inode := by
  have hle := hf.metadata.numPlanes_le
  refine ⟨⟨hf.metadata, fun p hp => ?_⟩, fun p d hd => ?_⟩
  · have hp : f.buffer.metadata.numPlanes ≤ p := hp
    exact (inodesFrom_other _ (Or.inr (by omega))).trans (hf.inodes p hp)
  · have hp := (List.getElem?_eq_some_iff.mp hd).1
    have hnoted := inodesFrom_at (p := 0) f.buffer.inodes hd (by omega)
    rwa [Nat.zero_add] at hnoted

/-- The buffer in focus was made. Whatever is added to the host from then on does not change where
its memory is from. -/
def Furnished (use flags : UseFlags) (source : Host → Source) (f : Focus) : Prop :=
  ∀ h, (∃ es, h.events = f.host.events ++ es) →
    f.buffer.Kept use ⟨flags, source h, f.buffer.state⟩ true

/-- What is allocated for a buffer is there from the start. -/
theorem create_furnishes (flags : UseFlags) (hf : f.buffer.Shaped) :
    Yields (create a flags) f
      (fun _ f' => Furnished f.buffer.metadata.useFlags flags (.allocated f.host) f')
      (fun _ _ => True) := by
  apply ((create_made a flags f).and (create_ends a flags hf)).imp_ok
  intro _ f' h
  obtain ⟨hmade, hhandle⟩ := h
  obtain ⟨plan, al, imported, f₁, f₂, hb, hbuffer, ⟨es, he⟩, rfl⟩ := hmade.attached
  generalize hk : (⟨List.replicate f₂.buffer.metadata.numPlanes al.descriptor, imported,
    al.mapStride⟩ : Backing) = k at hhandle ⊢
  obtain ⟨m, hplaced, hb₁⟩ := hb.placed
  have hrelaid : f.buffer.Relaid f₂.buffer := by
    rw [hbuffer, hb₁]
    exact ⟨hplaced.relaid.modifier _, rfl, rfl⟩
  have hlength : k.descriptors.length = f₂.buffer.metadata.numPlanes := by
    rw [← hk, List.length_replicate]
  obtain ⟨hshaped, hinodes⟩ := settled_shaped (hrelaid.shaped hf) hlength
  intro h hes
  have hsource : (Source.allocated f.host h).Backs f₂.buffer.metadata.numPlanes k := by
    obtain ⟨es₁, he₁, -⟩ := settled_extends k f₂
    obtain ⟨es₂, he₂⟩ := hes
    rw [he₁, he, List.append_assoc, List.append_assoc] at he₂
    have he₂ : (Focus.mk h f₂.driver f₂.buffer).host.events = f₁.host.events ++ _ := he₂
    obtain ⟨scanout, hg⟩ := hb.granted he₂
    exact ⟨_, al, hg, by rw [← hk], by rw [← hk]⟩
  have himport := congrArg Option.isSome (attach_import k (notedFrom 0 k.descriptors f₂))
  exact ⟨hshaped, hrelaid.metadata.useFlags,
    fun _ => ⟨k, rfl, rfl, hsource, hinodes, himport.symm.trans hhandle⟩, nofun⟩

theorem importData_furnishes (data : ImportData) (hf : f.buffer.Shaped) :
    Yields (importData a data) f
      (fun _ f' => Furnished f.buffer.metadata.useFlags data.useFlags
        (fun _ => .given data.descriptors) f')
      (fun _ _ => True) := by
  apply (importData_ends a data f).imp_ok
  intro _ f' h
  obtain ⟨-, hcount, imported, f₁, hhandle, hb, rfl⟩ := h
  rw [← hb] at hf hcount ⊢
  obtain ⟨hshaped, hinodes⟩ := settled_shaped (f := f₁)
    (k := ⟨data.descriptors.take f₁.buffer.metadata.numPlanes, imported, 0⟩) hf
    (by rw [List.length_take, Nat.min_eq_left hcount])
  exact fun h _ => ⟨hshaped, rfl,
    fun _ => ⟨_, rfl, rfl, ⟨hcount, rfl, rfl⟩, hinodes, hhandle⟩, nofun⟩

theorem createBuffer_furnishes (width height : UInt32) (format : Format) (flags : UseFlags)
    (f : Focus) :
    Yields ((backend a).createBuffer width height format flags) f
      (fun _ f' => Furnished flags flags (.allocated f.host) f') (fun _ _ => True) := by
  unfold Backend.createBuffer
  simp only [yields_bind, yields_ofExcept, yields_modify]
  refine ⟨fun m hm => ?_, fun _ _ => trivial⟩
  obtain ⟨hshaped, rfl⟩ := Metadata.unplaced_shaped hm
  have hnew : (onNew m f).buffer.Shaped := ⟨hshaped, fun p _ => Planes.entry_zero p⟩
  exact create_furnishes a m.useFlags hnew

theorem wrapBuffer_furnishes {data : ImportData} {described : Except Error Metadata}
    (hd : data.metadata = some described) (f : Focus) :
    Yields ((backend a).wrapBuffer data described) f
      (fun _ f' => Furnished data.useFlags data.useFlags (fun _ => .given data.descriptors) f')
      (fun _ _ => True) := by
  unfold Backend.wrapBuffer
  simp only [yields_bind, yields_ofExcept, yields_modify]
  refine ⟨fun m hm => ?_, fun _ _ => trivial⟩
  rw [hm] at hd
  obtain ⟨m₀, hm₀, hr⟩ := ImportData.metadata_relays hd
  have hflags : m.useFlags = data.useFlags :=
    hr.useFlags.trans (Metadata.unplaced_shaped hm₀).2
  rw [← hflags]
  have hnew : (onNew m f).buffer.Shaped := ⟨hr.shaped, fun p _ => Planes.entry_zero p⟩
  have himport := importData_furnishes a data hnew
  rwa [← hflags] at himport

end Allocator

/-! ### The operations of a session -/

/-- The slot of the buffer that the operation may change. -/
def Operation.target? : Operation → Option Nat
  | .dropBuffer buffer | .defaultBuffer buffer _ | .editMetadata buffer _ => some buffer
  | .attachForeign buffer | .detachBuffer buffer | .backendDestroy buffer => some buffer
  | .create _ buffer _ | .importBuffer _ buffer _ _ | .destroy _ buffer => some buffer
  | .backendCreate _ buffer _ | .backendImport _ buffer _ _ => some buffer
  | _ => none

/-- The operation leaves the buffer in the slot without what was attached to it. -/
def Operation.Empties (n : Nat) : Operation → Prop
  | .destroy _ buffer | .backendDestroy buffer | .detachBuffer buffer => buffer = n
  | _ => False

def Answer.Fails : Answer → Prop
  | .failed _ | .failedOnBuffer .. | .failedOnMapping .. | .vacant _ | .stopped => True
  | _ => False

namespace Session

/-- The slot holds the same buffer in both sessions. -/
def Spares (s : Session) (n : Nat) (t : Session) : Prop := t.buffers.get? n = s.buffers.get? n

variable {s : Session} {n driver buffer : Nat} {d : Driver} {b : Buffer} {act : FocusM Unit}

theorem makeBuffer_spares (h : n ≠ buffer) :
    s.Spares n (s.makeBuffer driver buffer d act).1 := by
  unfold makeBuffer
  cases act { host := s.host, driver := d } with
  | ok _ f => exact Slots.get?_put_other _ _ h
  | error e f => rfl

theorem changeBuffer_spares (h : n ≠ buffer) :
    s.Spares n (s.changeBuffer driver buffer d b act).1 := by
  unfold changeBuffer
  cases act ⟨s.host, d, b⟩ with
  | ok _ f => exact Slots.get?_put_other _ _ h
  | error e f => exact Slots.get?_put_other _ _ h

theorem mapBuffer_spares (hb : s.buffers.get? buffer = some b) (mapping : Nat)
    (flags : MapFlags) (n : Nat) :
    s.Spares n (s.mapBuffer driver buffer mapping flags d b).1 := by
  have h := Allocator.mapBuffer_keeps s.allocator flags ⟨s.host, d, b⟩
  unfold mapBuffer backend
  cases hr : (Allocator.backend s.allocator).mapBuffer flags ⟨s.host, d, b⟩ with
  | ok m f => exact get?_put_same (hb.trans (congrArg some (h.of_ok hr).symm)) n
  | error e f => exact get?_put_same (hb.trans (congrArg some (h.of_error hr).symm)) n

theorem unmapBuffer_spares (hb : s.buffers.get? buffer = some b) (mapping : Nat) (m : Mapping)
    (n : Nat) : s.Spares n (s.unmapBuffer driver buffer mapping d b m).1 := by
  have h := Allocator.unmapBuffer_keeps s.allocator m ⟨s.host, d, b⟩
  unfold unmapBuffer backend
  cases hr : (Allocator.backend s.allocator).unmapBuffer m ⟨s.host, d, b⟩ with
  | ok m f => exact get?_put_same (hb.trans (congrArg some (h.of_ok hr).symm)) n
  | error e f => exact get?_put_same (hb.trans (congrArg some (h.of_error hr).symm)) n

theorem exportPlane_spares (s : Session) (act : HostM Descriptor) (n : Nat) :
    s.Spares n (s.exportPlane act).1 := by
  unfold exportPlane
  cases act s.host with
  | ok d host => rfl
  | error e host => rfl

/-- A buffer changes only where the operation is about it, and mapping does not change it either. -/
theorem step_spares (s : Session) {op : Operation} (hop : op.target? ≠ some n) :
    s.Spares n (s.step op).1 := by
  have hne {m : Nat} (h : op.target? = some m) : n ≠ m := fun hm => hop (hm ▸ h)
  cases op with
  | script | setNodes | makeMemory | makeStream => rfl
  | openDriver driver =>
    unfold step openDriver
    cases s.backend.openDriver s.host <;> rfl
  | dropDriver driver =>
    simp only [step, dropDriver]
    split <;> rfl
  | releaseContext slot =>
    simp only [step, dropContext]
    split <;> rfl
  | dropBuffer buffer => exact Slots.get?_erase_other _ (hne rfl)
  | defaultBuffer buffer m => exact Slots.get?_put_other _ _ (hne rfl)
  | inspectBuffer | hasBacking =>
    exact onBuffer_of rfl fun _ _ => rfl
  | backendPlane => exact onBuffer_of rfl fun _ _ => s.exportPlane_spares _ n
  | editMetadata buffer | attachForeign buffer | detachBuffer buffer | backendDestroy buffer =>
    exact onBuffer_of rfl fun _ _ =>
      Slots.get?_put_other _ _ (hne rfl)
  | setToken | inspectMapping =>
    exact onMapping_of rfl fun _ _ => rfl
  | create driver buffer r =>
    exact onDriver_of rfl fun _ _ =>
      makeBuffer_spares (hne rfl)
  | importBuffer driver buffer slots data =>
    exact onDriver_of rfl fun _ _ => onDescriptors_of rfl fun _ _ =>
      importBuffer_result (q := fun r => s.Spares n r.1) (fun _ => rfl) fun _ _ =>
        makeBuffer_spares (hne rfl)
  | backendCreate driver buffer r =>
    exact onDriver_of rfl fun _ _ =>
      onBuffer_of rfl fun _ _ => changeBuffer_spares (hne rfl)
  | backendImport driver buffer slots data =>
    exact onDriver_of rfl fun _ _ =>
      onDescriptors_of rfl fun _ _ => onBuffer_of rfl fun _ _ => changeBuffer_spares (hne rfl)
  | destroy driver buffer =>
    exact onDriver_of rfl fun _ _ =>
      onBuffer_of rfl fun _ _ => Slots.get?_put_other _ _ (hne rfl)
  | plane =>
    exact onDriver_of rfl fun _ _ => onBuffer_of rfl fun _ _ => s.exportPlane_spares _ n
  | map driver buffer mapping flags =>
    exact onDriver_of rfl fun _ _ =>
      onBuffer_of rfl fun _ hb => mapBuffer_spares hb mapping flags n
  | unmap driver buffer mapping =>
    exact onDriver_of rfl fun _ _ =>
      onBuffer_of rfl fun _ hb => onMapping_of rfl fun m _ => unmapBuffer_spares hb mapping m n
  | context driver mapOnly slot format =>
    refine onDriver_of rfl fun d _ => ?_
    unfold takeContext
    cases Allocator.context s.allocator mapOnly { host := s.host, driver := d } with
    | ok c f => cases slot <;> rfl
    | error e f => rfl
  | close | attachForeignToDriver | detachDriver | name | resolve | combinations | best
  | addCombination | addCombinations | widen | widenLinear =>
    exact onDriver_of rfl fun _ _ => rfl

/-- If the operation failed, the slot still holds the buffer, some of whose planes may have been
placed anew. -/
def Survives (n : Nat) (b : Buffer) (r : Session × Answer) : Prop :=
  r.2.Fails → ∃ b', r.1.buffers.get? n = some b' ∧ b.Relaid b'

theorem changeBuffer_survives (h : Yields act ⟨s.host, d, b⟩ (fun _ _ => True)
      (fun _ f => Unfailing s.host.answers.inspections → b.Relaid f.buffer))
    (hi : Unfailing s.host.answers.inspections) :
    Survives n b (s.changeBuffer driver n d b act) := by
  unfold changeBuffer
  cases hr : act ⟨s.host, d, b⟩ with
  | ok _ f => exact fun hfail => hfail.elim
  | error e f => exact fun _ => ⟨_, Slots.get?_put_self _ _ _, h.of_error hr hi⟩

theorem step_survives {op : Operation} (hop : op.target? = some n)
    (hb : s.buffers.get? n = some b) (hs : b.Shaped)
    (hi : Unfailing s.host.answers.inspections) : Survives n b (s.step op) := by
  have hstays {answer : Answer} : Survives n b (s, answer) := fun _ => ⟨b, hb, hs.relaid⟩
  have hmake (driver : Nat) (d : Driver) (act : FocusM Unit) :
      Survives n b (s.makeBuffer driver n d act) := by
    unfold makeBuffer
    cases act { host := s.host, driver := d } with
    | ok _ f => exact fun hfail => hfail.elim
    | error e f => exact fun _ => ⟨b, hb, hs.relaid⟩
  cases op with
  | dropBuffer | defaultBuffer => exact fun hfail => hfail.elim
  | editMetadata | attachForeign | detachBuffer | backendDestroy =>
    exact onBuffer_result hstays fun _ _ hfail => hfail.elim
  | destroy =>
    exact onDriver_result hstays fun _ _ => onBuffer_result hstays fun _ _ hfail => hfail.elim
  | create driver buffer r =>
    cases hop
    exact onDriver_result hstays fun d _ => hmake driver d _
  | importBuffer driver buffer slots data =>
    cases hop
    exact onDriver_result hstays fun d _ => onDescriptors_result hstays fun ds _ =>
      importBuffer_result (fun _ => hstays) fun _ _ => hmake driver d _
  | backendCreate driver buffer r =>
    cases hop
    refine onDriver_result hstays fun d _ => onBuffer_result hstays fun b' hb' => ?_
    cases hb.symm.trans hb'
    exact changeBuffer_survives
      ((Allocator.create_ends s.allocator r.useFlags hs).imp_error fun _ _ h => h) hi
  | backendImport driver buffer slots data =>
    cases hop
    refine onDriver_result hstays fun d _ => onDescriptors_result hstays fun ds _ =>
      onBuffer_result hstays fun b' hb' => ?_
    cases hb.symm.trans hb'
    refine changeBuffer_survives
      ((Allocator.importData_ends s.allocator _ _).imp_error fun _ f h hi => ?_) hi
    rw [h hi]
    exact hs.relaid
  | _ => cases hop

/-! ### The making of a buffer -/

/-- The operation is to make a new buffer in slot `n`, for a use and of a source. -/
inductive Makes (s : Session) (n : Nat) : Operation → UseFlags → Source → Prop
  | create (driver : Nat) (r : BufferRequest) : Makes s n (.create driver n r) r.useFlags
      (.allocated s.host (s.step (.create driver n r)).1.host)
  | importBuffer (driver : Nat) (data : ImportData) {slots : List Nat} {ds : List Descriptor}
      (h : slots.mapM s.descriptors.get? = some ds) :
      Makes s n (.importBuffer driver n slots data) data.useFlags (.given ds)

/-- The operation is to give other memory to the buffer in slot `n`. -/
inductive Remakes (s : Session) (n : Nat) : Operation → UseFlags → Source → Prop
  | create (driver : Nat) (r : BufferRequest) : Remakes s n (.backendCreate driver n r) r.useFlags
      (.allocated s.host (s.step (.backendCreate driver n r)).1.host)
  | importData (driver : Nat) (data : ImportData) {slots : List Nat} {ds : List Descriptor}
      (h : slots.mapM s.descriptors.get? = some ds) :
      Remakes s n (.backendImport driver n slots data) data.useFlags (.given ds)

/-- If the operation answers with a buffer, this is in the slot, and has what it was made with. -/
def Delivers (n : Nat) (use flags : UseFlags) (source : Host → Source) (r : Session × Answer) :
    Prop :=
  ∀ b, r.2 = .buffer b → r.1.buffers.get? n = some b ∧
    b.Kept use ⟨flags, source r.1.host, b.state⟩ true

variable {use flags : UseFlags} {source : Host → Source}

theorem makeBuffer_delivers (h : Yields act { host := s.host, driver := d }
      (fun _ f => Allocator.Furnished use flags source f) (fun _ _ => True)) :
    Delivers n use flags source (s.makeBuffer driver n d act) := by
  unfold makeBuffer
  cases hr : act { host := s.host, driver := d } with
  | ok _ f =>
    intro b hb
    cases hb
    obtain ⟨es, he, -⟩ := f.host.discard_extends ((s.buffers.get? n).bind Buffer.state)
    exact ⟨Slots.get?_put_self _ _ _, h.of_ok hr _ ⟨es, he⟩⟩
  | error e f => nofun

theorem changeBuffer_delivers (h : Yields act ⟨s.host, d, b⟩
      (fun _ f => Allocator.Furnished use flags source f) (fun _ _ => True)) :
    Delivers n use flags source (s.changeBuffer driver n d b act) := by
  unfold changeBuffer
  cases hr : act ⟨s.host, d, b⟩ with
  | ok _ f =>
    intro b' hb
    cases hb
    exact ⟨Slots.get?_put_self _ _ _, h.of_ok hr _ ⟨[], (List.append_nil _).symm⟩⟩
  | error e f => nofun

theorem step_makes {op : Operation} {source : Source} (hm : s.Makes n op flags source)
    (ha : (s.step op).2 = .buffer b) :
    (s.step op).1.buffers.get? n = some b ∧ b.Kept flags ⟨flags, source, b.state⟩ true := by
  cases hm with
  | create driver r =>
    have h : Delivers n r.useFlags r.useFlags (.allocated s.host)
        (s.step (.create driver n r)) :=
      onDriver_result nofun fun d _ =>
        makeBuffer_delivers (Allocator.createBuffer_furnishes s.allocator _ _ _ _ _)
    exact h b ha
  | @importBuffer driver data slots ds hds =>
    have h : Delivers n data.useFlags data.useFlags (fun _ => .given ds)
        (s.step (.importBuffer driver n slots data)) :=
      onDriver_result nofun fun d _ => onDescriptors_result nofun fun ds' hds' => by
        cases hds.symm.trans hds'
        exact importBuffer_result (fun _ => nofun) fun _ hd =>
          makeBuffer_delivers (Allocator.wrapBuffer_furnishes s.allocator hd _)
    exact h b ha

theorem step_remakes {op : Operation} {source : Source} {b₀ : Buffer}
    (hm : s.Remakes n op flags source) (hb : s.buffers.get? n = some b₀) (hs : b₀.Shaped)
    (ha : (s.step op).2 = .buffer b) :
    (s.step op).1.buffers.get? n = some b ∧
      b.Kept b₀.metadata.useFlags ⟨flags, source, b.state⟩ true := by
  cases hm with
  | create driver r =>
    have h : Delivers n b₀.metadata.useFlags r.useFlags (.allocated s.host)
        (s.step (.backendCreate driver n r)) :=
      onDriver_result nofun fun d _ => onBuffer_result nofun fun b₁ hb₁ => by
        cases hb.symm.trans hb₁
        exact changeBuffer_delivers (Allocator.create_furnishes s.allocator r.useFlags hs)
    exact h b ha
  | @importData driver data slots ds hds =>
    have h : Delivers n b₀.metadata.useFlags data.useFlags (fun _ => .given ds)
        (s.step (.backendImport driver n slots data)) :=
      onDriver_result nofun fun d _ => onDescriptors_result nofun fun ds' hds' =>
        onBuffer_result nofun fun b₁ hb₁ => by
          cases hds.symm.trans hds'
          cases hb.symm.trans hb₁
          exact changeBuffer_delivers (Allocator.importData_furnishes s.allocator _ hs)
    exact h b ha

/-! ### Runs -/

/-- Slot `n` holds a buffer that a driver made for the use, and that nobody but drivers and the
backend has written to. It has what it was made with last, unless it was emptied since. Where an
operation on it failed, it was not for an inode that could not be found out. -/
inductive Tracked (n : Nat) : Session → UseFlags → Making → Bool → Prop
  | made {s : Session} {op : Operation} {flags : UseFlags} {source : Source} {b : Buffer}
      (hs : Reachable s) (hm : s.Makes n op flags source) (ha : (s.step op).2 = .buffer b) :
      Tracked n (s.step op).1 flags ⟨flags, source, b.state⟩ true
  | remade {s : Session} {use : UseFlags} {m : Making} {live : Bool}
      (h : Tracked n s use m live) {op : Operation} {flags : UseFlags} {source : Source}
      {b : Buffer} (hm : s.Remakes n op flags source) (ha : (s.step op).2 = .buffer b) :
      Tracked n (s.step op).1 use ⟨flags, source, b.state⟩ true
  | emptied {s : Session} {use : UseFlags} {m : Making} {live : Bool}
      (h : Tracked n s use m live) {op : Operation} (hop : op.Empties n)
      (ha : ¬(s.step op).2.Fails) : Tracked n (s.step op).1 use m false
  | kept {s : Session} {use : UseFlags} {m : Making} {live : Bool}
      (h : Tracked n s use m live) (op : Operation)
      (hop : op.target? = some n →
        (s.step op).2.Fails ∧ Unfailing s.host.answers.inspections) :
      Tracked n (s.step op).1 use m live

variable {m : Making} {live : Bool}

/-- Other buffers have no part in it. -/
theorem Tracked.aside (h : Tracked n s use m live) (op : Operation) (hop : op.target? ≠ some n) :
    Tracked n (s.step op).1 use m live := h.kept op fun htarget => absurd htarget hop

theorem Tracked.reachable (h : Tracked n s use m live) : Reachable s := by
  induction h with
  | made hs => exact hs.step _
  | remade _ _ _ ih | emptied _ _ _ ih | kept _ _ _ ih => exact ih.step _

/-- Unless the operation failed, nothing is attached to the buffer any more. -/
def Emptied (n : Nat) (b : Buffer) (r : Session × Answer) : Prop :=
  ¬r.2.Fails → r.1.buffers.get? n = some { b with state := none }

theorem step_empties {op : Operation} (hop : op.Empties n) (hb : s.buffers.get? n = some b) :
    Emptied n b (s.step op) := by
  have hvacant (kind : SlotKind) : Emptied n b (s, .vacant kind) := fun h => (h trivial).elim
  cases op with
  | destroy driver buffer =>
    cases hop
    refine onDriver_result (hvacant _) fun _ _ => onBuffer_result (hvacant _) fun b' hb' _ => ?_
    cases hb.symm.trans hb'
    exact Slots.get?_put_self _ _ _
  | backendDestroy buffer | detachBuffer buffer =>
    cases hop
    refine onBuffer_result (hvacant _) fun b' hb' _ => ?_
    cases hb.symm.trans hb'
    exact Slots.get?_put_self _ _ _
  | _ => exact hop.elim

theorem Tracked.kept_buffer (h : Tracked n s use m live) :
    ∃ b, s.buffers.get? n = some b ∧ b.Kept use m live := by
  induction h with
  | made _ hm ha => exact ⟨_, step_makes hm ha⟩
  | remade _ hm ha ih =>
    obtain ⟨b, hb, hk⟩ := ih
    obtain ⟨hget, hk'⟩ := step_remakes hm hb hk.shaped ha
    rw [hk.useFlags] at hk'
    exact ⟨_, hget, hk'⟩
  | emptied _ hop ha ih =>
    obtain ⟨b, hb, hk⟩ := ih
    exact ⟨_, step_empties hop hb ha, hk.destroy⟩
  | @kept t _ _ _ _ op hop ih =>
    obtain ⟨b, hb, hk⟩ := ih
    by_cases htarget : op.target? = some n
    · obtain ⟨hfails, hi⟩ := hop htarget
      obtain ⟨b', hb', hr⟩ := step_survives htarget hb hk.shaped hi hfails
      exact ⟨b', hb', hk.relaid hr⟩
    · exact ⟨b, (t.step_spares htarget).trans hb, hk⟩

/-- A driver that is asked for a plane of the buffer answers with its descriptor in the list, if the
system duplicates what it is asked to, and fails if there is none. However often it is asked, nothing
changes but the answers of the system that are left. -/
def Exports (s : Session) (n : Nat) (ds : List Descriptor) : Prop :=
  ∀ driver p, (s.drivers.get? driver).isSome →
    (∃ k, (s.step (.plane driver n p)).1 = { s with host := s.host.copied k }) ∧
    match ds[p]? with
    | some d => Unfailing s.host.answers.duplicates → (s.step (.plane driver n p)).2 = .plane d
    | none => ∃ e, (s.step (.plane driver n p)).2 = .failed e

theorem plane_step (hd : (s.drivers.get? driver).isSome) (hb : s.buffers.get? n = some b)
    (p : Nat) : s.step (.plane driver n p) = s.exportPlane (s.backend.bufferPlane b p) := by
  obtain ⟨d, hd⟩ := Option.isSome_iff_exists.mp hd
  simp only [step, onDriver, hd, onBuffer, hb]

/-- Asking for what is not there fails at once. -/
theorem exportPlane_throw (s : Session) (e : Error) :
    s.exportPlane (throw e) = (s, .failed e) := rfl

/-- A descriptor that is there is duplicated. -/
theorem exportPlane_duplicate (s : Session) (d : Descriptor) :
    (s.exportPlane (HostM.duplicate d)).1 = { s with host := s.host.copied 1 } ∧
      (Unfailing s.host.answers.duplicates → (s.exportPlane (HostM.duplicate d)).2 = .plane d) := by
  have hcopy := duplicate_yields d s.host
  unfold exportPlane
  cases hr : HostM.duplicate d s.host with
  | ok copy h =>
    obtain ⟨rfl, rfl, -⟩ := hcopy.of_ok hr
    exact ⟨rfl, fun _ => rfl⟩
  | error e h =>
    obtain ⟨code, rfl, rfl, hfails⟩ := hcopy.of_error hr
    have hfault : faultWithin 1 s.host.answers.duplicates = some code := by
      rw [faultWithin_succ, hfails, Option.some_or]
    exact ⟨rfl, fun hu => (hu.not_fault hfault).elim⟩

theorem exports_backing {k : Backing} (hb : s.buffers.get? n = some b)
    (hs : b.state = some (.backing k)) (hl : k.descriptors.length = b.metadata.numPlanes) :
    s.Exports n k.descriptors := by
  intro driver p hd
  rw [plane_step hd hb]
  by_cases hp : b.metadata.numPlanes ≤ p
  · have hplane : s.backend.bufferPlane b p = throw Backend.planeOutOfRange := if_pos hp
    rw [List.getElem?_eq_none (hl ▸ hp), hplane, exportPlane_throw]
    exact ⟨⟨0, rfl⟩, _, rfl⟩
  · have hlt : p < k.descriptors.length := by omega
    have hplane : s.backend.bufferPlane b p = HostM.duplicate k.descriptors[p] := by
      simp [Backend.bufferPlane, hp, backend, Allocator.backend, Allocator.planeDescriptor,
        Buffer.backing?, hs, hlt]
    rw [List.getElem?_eq_getElem hlt, hplane]
    obtain ⟨hstep, hanswer⟩ := s.exportPlane_duplicate k.descriptors[p]
    exact ⟨⟨1, hstep⟩, hanswer⟩

theorem exports_nothing (hb : s.buffers.get? n = some b) (hs : b.state = none) :
    s.Exports n [] := by
  intro driver p hd
  have hfails : ∃ e, s.backend.bufferPlane b p = throw e := by
    unfold Backend.bufferPlane
    split
    · exact ⟨_, rfl⟩
    · exact ⟨Allocator.noBacking, by
        simp [backend, Allocator.backend, Allocator.planeDescriptor, Buffer.backing?, hs]⟩
  obtain ⟨e, he⟩ := hfails
  rw [plane_step hd hb, he, exportPlane_throw]
  exact ⟨⟨0, rfl⟩, e, rfl⟩

theorem import_held (hs : Reachable s) (hb : s.buffers.get? n = some b) {i : Import}
    (hi : b.import? = some i) : i.context ∈ s.host.held := by
  have hm : i ∈ s.imports := List.mem_filterMap.mpr ⟨b, Slots.mem_values hb, hi⟩
  exact hs.balanced.held.mem_iff.mpr (mem_contexts _ i hm)

/-- Whatever happens in between, a buffer has what it was made with, until it is destroyed: a
descriptor for each plane of its format, to be had any time, whose inode is noted, and a handle with
its context if the buffer is to be mapped. After that there is no plane to be had. -/
theorem Tracked.represents (h : Tracked n s use m live) :
    ∃ b, s.buffers.get? n = some b ∧ b.Shaped ∧ b.metadata.useFlags = use ∧
      (live = true → ∃ k, b.Represents m k ∧ (∀ i ∈ k.imported, i.context ∈ s.host.held) ∧
        k.descriptors.length = b.metadata.numPlanes ∧ s.Exports n k.descriptors) ∧
      (live = false → b.state = none ∧ s.Exports n []) := by
  obtain ⟨b, hb, hk⟩ := h.kept_buffer
  refine ⟨b, hb, hk.shaped, hk.useFlags, fun hl => ?_, fun hl => ?_⟩
  · obtain ⟨k, hr⟩ := hk.holds hl
    refine ⟨k, hr, fun i hi => ?_, hr.length, exports_backing hb hr.state hr.length⟩
    refine import_held h.reachable hb ?_
    rw [Buffer.import?, Buffer.backing?, hr.state]
    exact hi
  · have hs := hk.empty hl
    exact ⟨hs, exports_nothing hb hs⟩

/-- A buffer of two planes that travels as bytes. -/
def planarRequest : BufferRequest := ⟨64, 4, .nv12, .softwareReadOften⟩

def opened : Session := (start ⟨.supplied, .linked⟩ {}).1

/-- The buffer is mapped, another is created, and their driver is closed. -/
def planar : Session :=
  opened.run [.create 0 0 planarRequest, .map 0 0 0 ⟨0⟩, .create 0 1 planarRequest, .close 0]

theorem planar_tracked : ∃ m, Tracked 0 planar .softwareReadOften m true := by
  have ha : (opened.step (.create 0 0 planarRequest)).2 =
      .buffer (((opened.step (.create 0 0 planarRequest)).1.buffers.get? 0).getD {}) := by
    decide +kernel
  have hmade := Tracked.made (.start ⟨.supplied, .linked⟩ rfl rfl) (.create 0 planarRequest) ha
  exact ⟨_, ((hmade.aside (.map 0 0 0 ⟨0⟩) (by decide)).aside (.create 0 1 planarRequest)
    (by decide)).aside (.close 0) (by decide)⟩

theorem represents_of_planar : ∃ m b k, Tracked 0 planar .softwareReadOften m true ∧
    planar.buffers.get? 0 = some b ∧ b.Represents m k ∧ k.descriptors.length = 2 ∧
    planar.Exports 0 k.descriptors := by
  obtain ⟨m, h⟩ := planar_tracked
  obtain ⟨b, hb, -, -, hlive, -⟩ := h.represents
  obtain ⟨k, hr, -, hl, he⟩ := hlive rfl
  have htwo : (planar.buffers.get? 0).map (fun b => b.metadata.numPlanes) = some 2 := by
    decide +kernel
  rw [hb] at htwo
  exact ⟨m, b, k, h, hb, hr, hl.trans (Option.some.inj htwo), he⟩

end Session

end GraphicsBuffers
