import GraphicsBuffers.Proofs.Provenance

/-!
The size at which a buffer is mapped, whatever happens between its import and then. Sizes are
computed anew from the metadata, which operations rewrite.
-/

namespace GraphicsBuffers

/-! ### The operations of a driver -/

namespace Allocator

variable (a : Allocator) {f : Focus} {bs : List Buffer}

theorem log_still (level : LogLevel) (text : String) (h : Host) : Still h (h.log level text) :=
  (Idles.log h level text).still

theorem create_faithful (flags : UseFlags) (hf : f.Faithful bs)
    (ho : Owned f.host (f.buffer :: bs)) :
    Yields (create a flags) f (fun _ f' => f'.Faithful bs)
      (fun _ f' => (f.buffer.import? = none ∨
        f.host.supports f.buffer.metadata.format = true ∨
        f'.buffer.metadata.totalSize = f.buffer.metadata.totalSize) → f'.Faithful bs) := by
  apply (create_made a flags f).imp
  · exact fun _ f' h => h.faithful hf ho fun hn => absurd rfl hn
  · exact fun e f' h hr => h.faithful hf ho fun _ => hr

/-- Whether it has a new handle or none, the buffer in focus is faithful once it has its backing, and
without it. -/
theorem importForMapping_faithful (data : ImportData) (hf : f.Faithful bs)
    (ho : Owned f.host (f.buffer :: bs)) :
    Yields (importForMapping a data) f
      (fun i f' => f'.Faithful bs ∧
        ∀ k : Backing, k.imported = i → (settled k f').Faithful bs)
      (fun _ f' => f'.Faithful bs) := by
  unfold importForMapping
  split
  · rw [yields_bind]
    apply (requireContext_idles a true f).imp
    · intro c f₁ h
      obtain ⟨hidle, hb⟩ := h
      obtain ⟨es, ht, -⟩ := id hidle
      have hf₁ : f₁.Faithful bs := Focus.Faithful.still hf hidle.still hb
      cases data.descriptors with
      | nil => exact hf₁
      | cons d rest =>
        rw [yields_map]
        apply (importOn_offers c f₁ d _ _ _).imp
        · intro i f₂ h
          obtain ⟨rfl, request, hoffered⟩ := h
          have hspared := hoffered.spares hf₁ (by rw [hb]; exact ht.owned ho)
          rw [← hoffered.buffer] at hspared
          exact ⟨hspared, fun k hk =>
            hoffered.faithful (hf.tail.still hidle.still) (ht.owned ho.tail) hk⟩
        · intro e f₂ h
          rcases h with ⟨-, rfl⟩ | ⟨-, request, hoffered⟩
          · exact hf₁
          · exact hf₁.still hoffered.still hoffered.buffer
    · exact fun _ f₁ h => Focus.Faithful.still hf h.1.still h.2
  · exact ⟨hf, fun k hk => (hf.tail.still (settled_still k f)).bare hk⟩

theorem importData_faithful (data : ImportData) (hf : f.Faithful bs)
    (ho : Owned f.host (f.buffer :: bs)) :
    Yields (importData a data) f (fun _ f' => f'.Faithful bs) (fun _ f' => f'.Faithful bs) := by
  unfold importData
  simp only [yields_bind, yields_get]
  split
  · simp only [yields_bind, yields_log, yields_throw]
    exact hf.still (log_still _ _ _) rfl
  split
  · exact hf
  rename_i hp
  have hcopied (n : Nat) : (f.copied n).Faithful bs := hf.still (f.host.copied_still n) rfl
  simp only [yields_bind]
  apply (takeDescriptors_yields (Nat.le_of_not_lt hp)).imp
  · rintro _ _ ⟨rfl, rfl, -⟩
    apply (importForMapping_faithful a data (hcopied _) ho).imp
    · intro i f' h
      obtain ⟨hf', hsettled⟩ := h
      apply (settle_yields _ f').imp
      · rintro _ _ ⟨rfl, -⟩
        exact hsettled _ rfl
      · rintro _ _ ⟨n, inodes, code, rfl, rfl, -⟩
        exact hf'.keep (withdraw_still _ f' n inodes)
          (Or.inr ⟨rfl, Focus.known_congr (withdraw_supported _ _) rfl⟩)
    · exact fun _ _ h => h
  · rintro _ _ ⟨n, code, rfl, rfl, -⟩
    exact hcopied n

theorem mapBuffer_faithful (flags : MapFlags) (hf : f.Faithful bs) :
    Yields ((backend a).mapBuffer flags) f (fun _ f' => f'.Faithful bs)
      (fun _ f' => f'.Faithful bs) := by
  apply (mapBuffer_maps a f flags).imp
  · intro m f' h
    obtain ⟨-, i, hm⟩ := h
    exact hm.faithful hf
  · intro e f' h
    rcases h with ⟨hidle, hb⟩ | ⟨i, hm⟩
    · exact hf.still hidle.still hb
    · exact hm.faithful hf

theorem unmapBuffer_faithful (m : Mapping) (hf : f.Faithful bs) :
    Yields ((backend a).unmapBuffer m) f (fun _ f' => f'.Faithful bs)
      (fun _ f' => f'.Faithful bs) := by
  change Yields (unmap a m >>= _) f _ _
  unfold unmap
  simp only [yields_bind]
  apply (requireContext_idles a true f).imp
  · intro c f₁ h
    have hf₁ : f₁.Faithful bs := hf.still h.1.still h.2
    apply (mappable_yields _ f₁).imp
    · intro i f₂ h
      obtain ⟨rfl, hi⟩ := h
      cases m.token with
      | none =>
        simp only [yields_bind, yields_log, yields_throw]
        exact hf₁.still (log_still _ _ _) rfl
      | some token =>
        simp only [yields_bind, yields_modify, yields_pure]
        refine hf₁.still ⟨.record _ ?_, fun _ => rfl⟩ rfl
        exact ⟨rfl, rfl⟩
    · intro e f₂ h
      obtain ⟨hb, hs⟩ := h
      exact hf₁.still (Idles.of_appends (fun _ he => he.aside) hs.host).still hb
  · exact fun _ f₁ h => hf.still h.1.still h.2

/-- A new buffer has no handle yet. -/
theorem onNew_faithful (hf : GraphicsBuffers.Faithful f.host bs) (m : Metadata) :
    (onNew m f).Faithful bs := hf.bare rfl

theorem createBuffer_faithful (width height : UInt32) (format : Format) (flags : UseFlags)
    (hf : GraphicsBuffers.Faithful f.host bs) (ho : Owned f.host bs) :
    Yields ((backend a).createBuffer width height format flags) f (fun _ f' => f'.Faithful bs)
      (fun _ f' => GraphicsBuffers.Faithful f'.host bs) := by
  apply (createBuffer_made a flags f width height format).imp
  · intro _ f' h
    obtain ⟨m, -, hmade⟩ := h
    exact hmade.faithful (onNew_faithful hf m) (ho.bare rfl) fun hn => absurd rfl hn
  · intro e f' h
    rcases h with rfl | ⟨m, -, hmade⟩
    · exact hf
    · exact (hmade.faithful (onNew_faithful hf m) (ho.bare rfl) fun _ => Or.inl rfl).tail

theorem wrapBuffer_faithful (data : ImportData) (described : Except Error Metadata)
    (hf : GraphicsBuffers.Faithful f.host bs) (ho : Owned f.host bs) :
    Yields ((backend a).wrapBuffer data described) f (fun _ f' => f'.Faithful bs)
      (fun _ f' => GraphicsBuffers.Faithful f'.host bs) := by
  unfold Backend.wrapBuffer
  simp only [yields_bind, yields_ofExcept, yields_modify]
  refine ⟨fun m _ => ?_, fun _ _ => hf⟩
  exact (importData_faithful a data (onNew_faithful hf m) (ho.bare rfl)).imp (fun _ _ h => h)
    fun _ _ h => h.tail

end Allocator

/-! ### The operations of a session -/

namespace Session

/-- The host is faithful to all buffers. -/
def Faithful (s : Session) : Prop := GraphicsBuffers.Faithful s.host s.buffers.values

/-- An operation that neither changes what the library supports nor edits metadata. Where it fails to
allocate memory anew for a buffer whose handle was imported as bytes, the buffer has as many bytes as
before. -/
def Careful (s : Session) : Operation → Prop
  | .script answers => ∀ f, (s.host.apply answers).supports f = s.host.supports f
  | .editMetadata .. => False
  | .backendCreate driver buffer r => ∀ b, s.buffers.get? buffer = some b → b.import?.isSome →
      s.host.supports b.metadata.format = false → ∀ e b',
      (s.step (.backendCreate driver buffer r)).2 = .failedOnBuffer e b' →
      b'.metadata.totalSize = b.metadata.totalSize
  | _ => True

/-- What careful operations lead to, from one driver on a host where nothing happened yet. -/
inductive Undisturbed : Session → Prop
  | start (a : Allocator) {h : Host} (he : h.events = []) (hh : h.held = []) :
      Undisturbed (start a h).1
  | step {s : Session} (h : Undisturbed s) (op : Operation) (hc : s.Careful op) :
      Undisturbed (s.step op).1

variable {s : Session} {b : Buffer} {d : Driver} {driver buffer : Nat}

theorem Undisturbed.reachable (h : Undisturbed s) : Reachable s := by
  induction h with
  | start a he hh => exact .start a he hh
  | step _ op _ ih => exact ih.step op

theorem Balanced.owned (hs : s.Balanced) : Owned s.host s.buffers.values := by
  obtain ⟨l, ht, hl⟩ := hs.traced
  intro hd b hb i hi
  have hm : i ∈ s.imports := List.mem_filterMap.mpr ⟨b, hb, hi⟩
  rw [((ht.handles hd).1 _ _).mpr (hl.imports.mem_iff.mpr hm)]
  exact Option.some_ne_none _

/-! ### Storing and dropping -/

/-- A buffer comes to a slot, whatever the slot held. -/
theorem faithful_put {h : Host} (hf : GraphicsBuffers.Faithful h (b :: s.buffers.values)) :
    Faithful { s with host := h, buffers := s.buffers.put buffer b } :=
  hf.sub fun _ hb => Slots.mem_cons_of_put hb

theorem discard_still (h : Host) (state : Option BufferState) : Still h (h.discard state) :=
  .of_releases (h.discard_extends state) (h.discard_supported state)

theorem storeBuffer_faithful (hf : GraphicsBuffers.Faithful s.host (b :: s.buffers.values))
    (buffer : Nat) : (s.storeBuffer buffer b).Faithful :=
  faithful_put (hf.still (discard_still _ _))

theorem dropBuffer_faithful (hf : s.Faithful) (buffer : Nat) : (s.dropBuffer buffer).Faithful :=
  (hf.still (discard_still _ _)).sub fun _ hb => Slots.mem_values_of_erase hb

/-- What is attached to a buffer gives way to something without a handle. -/
theorem replace_faithful (hf : s.Faithful) (state : Option BufferState) (hn : b.import? = none)
    (buffer : Nat) :
    Faithful { s with host := s.host.discard state, buffers := s.buffers.put buffer b } :=
  faithful_put ((hf.still (discard_still _ _)).bare hn)

/-- Drivers and contexts come and go without any effect on buffers. -/
theorem Faithful.still {t : Session} (hf : s.Faithful) (hs : Still s.host t.host)
    (hb : t.buffers = s.buffers) : t.Faithful := by
  unfold Faithful
  rw [hb]
  exact GraphicsBuffers.Faithful.still hf hs

theorem close_still (d : Driver) (h : Host) : Still h (Allocator.close d h).2 :=
  .of_releases (Allocator.close_extends d h) (Allocator.close_supported d h)

theorem detach_still (h : Host) (state : Option DriverState) : Still h (h.detach state) :=
  .of_releases (h.detach_extends state) (h.detach_supported state)

theorem storeDriver_still (s : Session) (driver : Nat) (d : Driver) :
    Still s.host (s.storeDriver driver d).host := by
  unfold storeDriver
  dsimp only
  split
  · exact close_still _ _
  · exact .refl _

theorem dropDriver_faithful (hf : s.Faithful) (driver : Nat) : (s.dropDriver driver).Faithful := by
  unfold dropDriver
  split
  · exact hf.still (close_still _ _) rfl
  · exact hf

theorem dropContext_faithful (hf : s.Faithful) (slot : Nat) : (s.dropContext slot).Faithful := by
  unfold dropContext
  split
  · exact hf.still (.of_releases (Host.release_extends _ _) (Host.release_supported _ _)) rfl
  · exact hf

theorem storeContext_faithful (hf : s.Faithful) (slot : Nat) (c : Context) :
    (s.storeContext slot c).Faithful := by
  have hhold : Still s.host (s.host.hold c) := .silent rfl fun _ => rfl
  refine hf.still ?_ rfl
  unfold storeContext
  dsimp only
  split
  · exact hhold.trans (.of_releases (Host.release_extends _ _) (Host.release_supported _ _))
  · exact hhold

theorem openDriver_faithful (hf : s.Faithful) (driver : Nat) : (s.openDriver driver).1.Faithful :=
  have hlog := Allocator.log_still _ _ _
  hf.still (hlog.trans (storeDriver_still { s with host := _ } driver _)) rfl

/-! ### Operations on a driver and a buffer -/

theorem makeBuffer_faithful {act : FocusM Unit} (h : Yields act { host := s.host, driver := d }
      (fun _ f => f.Faithful s.buffers.values)
      (fun _ f => GraphicsBuffers.Faithful f.host s.buffers.values)) :
    (s.makeBuffer driver buffer d act).1.Faithful := by
  unfold makeBuffer
  cases hr : act { host := s.host, driver := d } with
  | ok _ f => exact storeBuffer_faithful (s := s.resume driver f) (h.of_ok hr) buffer
  | error e f => exact h.of_error hr

theorem resumeBuffer_faithful {f : Focus} (hf : f.Faithful s.buffers.values) :
    (s.resumeBuffer driver buffer f).Faithful :=
  faithful_put (s := s.resume driver f) hf

theorem changeBuffer_faithful {act : FocusM Unit} (h : Yields act ⟨s.host, d, b⟩
      (fun _ f => f.Faithful s.buffers.values) (fun e f =>
        (s.changeBuffer driver buffer d b act).2 = .failedOnBuffer e f.buffer →
          f.Faithful s.buffers.values)) :
    (s.changeBuffer driver buffer d b act).1.Faithful := by
  unfold changeBuffer at h ⊢
  cases hr : act ⟨s.host, d, b⟩ with
  | ok _ f => exact resumeBuffer_faithful (h.of_ok hr)
  | error e f =>
    -- What the run ends with is what the session answers with.
    refine resumeBuffer_faithful (h.of_error hr ?_)
    rw [hr]

theorem focus_faithful (hf : s.Faithful) (hb : s.buffers.get? buffer = some b) (d : Driver) :
    (Focus.mk s.host d b).Faithful s.buffers.values :=
  Faithful.cons hf (hf.known b (Slots.mem_values hb))

theorem mapBuffer_faithful (hf : s.Faithful) (hb : s.buffers.get? buffer = some b) (mapping : Nat)
    (flags : MapFlags) : (s.mapBuffer driver buffer mapping flags d b).1.Faithful := by
  have h := Allocator.mapBuffer_faithful s.allocator flags (focus_faithful hf hb d)
  unfold mapBuffer backend
  cases hr : (Allocator.backend s.allocator).mapBuffer flags ⟨s.host, d, b⟩ with
  | ok m f => exact resumeBuffer_faithful (h.of_ok hr)
  | error e f => exact resumeBuffer_faithful (h.of_error hr)

theorem unmapBuffer_faithful (hf : s.Faithful) (hb : s.buffers.get? buffer = some b) (mapping : Nat)
    (m : Mapping) : (s.unmapBuffer driver buffer mapping d b m).1.Faithful := by
  have h := Allocator.unmapBuffer_faithful s.allocator m (focus_faithful hf hb d)
  unfold unmapBuffer backend
  cases hr : (Allocator.backend s.allocator).unmapBuffer m ⟨s.host, d, b⟩ with
  | ok m f => exact resumeBuffer_faithful (h.of_ok hr)
  | error e f => exact resumeBuffer_faithful (h.of_error hr)

theorem takeContext_faithful (hf : s.Faithful) (mapOnly : Bool) (slot : Option Nat)
    (format : Format) (d : Driver) : (s.takeContext driver mapOnly slot format d).1.Faithful := by
  have h := Allocator.context_idles s.allocator mapOnly ⟨s.host, d, {}⟩
  unfold takeContext
  cases hr : Allocator.context s.allocator mapOnly ⟨s.host, d, {}⟩ with
  | error e f => exact hf.still (h.of_error hr).1.still rfl
  | ok c f =>
    have hresume : (s.resume driver f).Faithful := hf.still (h.of_ok hr).1.still rfl
    cases slot with
    | none => exact hresume
    | some slot => exact storeContext_faithful hresume slot c

theorem exportPlane_faithful (hf : s.Faithful) {act : HostM Descriptor}
    (h : Adds Event.IsLog act) : (s.exportPlane act).1.Faithful := by
  have hadds := h s.host
  have hstill {h' : Host} (hh : Appends Event.IsLog s.host h') : Still s.host h' :=
    (Idles.of_appends (fun _ he => he.aside) hh).still
  unfold exportPlane
  cases hr : act s.host with
  | ok d h' => exact hf.still (hstill (hadds.of_ok hr)) rfl
  | error e h' => exact hf.still (hstill (hadds.of_error hr)) rfl

/-- Only what a careful client does not do takes a handle's geometry away. -/
theorem createOn_faithful (hf : s.Faithful) (ho : Owned s.host s.buffers.values)
    (hd : s.drivers.get? driver = some d) (hb : s.buffers.get? buffer = some b)
    {r : BufferRequest} (hc : s.Careful (.backendCreate driver buffer r)) :
    (s.changeBuffer driver buffer d b
      (s.backend.create r.width r.height r.format r.useFlags)).1.Faithful := by
  have hcreate : Yields (Allocator.create s.allocator r.useFlags) ⟨s.host, d, b⟩ _ _ :=
    Allocator.create_faithful s.allocator r.useFlags (focus_faithful hf hb d)
      (ho.cons (Slots.mem_values hb))
  refine changeBuffer_faithful (hcreate.imp (fun _ _ h => h) fun e f h he => h ?_)
  have hstep : (s.step (.backendCreate driver buffer r)).2 = .failedOnBuffer e f.buffer := by
    simpa only [step, onDriver, hd, onBuffer, hb] using he
  cases hi : b.import? with
  | none => exact Or.inl rfl
  | some i =>
    cases hn : s.host.supports b.metadata.format with
    | true => exact Or.inr (Or.inl rfl)
    | false => exact Or.inr (Or.inr (hc b hb (by rw [hi]; rfl) hn e f.buffer hstep))

theorem step_faithful (hf : s.Faithful) (ho : Owned s.host s.buffers.values) (op : Operation)
    (hc : s.Careful op) : (s.step op).1.Faithful := by
  cases op with
  | script answers => exact hf.still (.silent rfl hc) rfl
  | setNodes | makeMemory => exact hf.still (.silent rfl fun _ => rfl) rfl
  | makeStream => exact hf
  | openDriver driver => exact openDriver_faithful hf driver
  | dropDriver driver => exact dropDriver_faithful hf driver
  | dropBuffer buffer => exact dropBuffer_faithful hf buffer
  | releaseContext slot => exact dropContext_faithful hf slot
  | defaultBuffer buffer m => exact storeBuffer_faithful (hf.bare rfl) buffer
  | inspectBuffer | hasBacking => exact onBuffer_of hf fun _ _ => hf
  | backendPlane buffer plane =>
    exact onBuffer_of hf fun b _ =>
      exportPlane_faithful hf (Allocator.planeDescriptor_adds b plane)
  | editMetadata => exact hc.elim
  | attachForeign buffer | detachBuffer buffer | backendDestroy buffer =>
    exact onBuffer_of hf fun b _ => replace_faithful hf b.state rfl buffer
  | setToken | inspectMapping => exact onMapping_of hf fun _ _ => hf
  | create driver buffer r =>
    exact onDriver_of hf fun d _ =>
      makeBuffer_faithful (Allocator.createBuffer_faithful s.allocator _ _ _ _ hf ho)
  | importBuffer driver buffer slots data =>
    exact onDriver_of hf fun d _ => onDescriptors_of hf fun ds _ =>
      importBuffer_result (q := fun r => r.1.Faithful) (fun _ => hf) fun m _ =>
        makeBuffer_faithful (Allocator.wrapBuffer_faithful s.allocator _ m hf ho)
  | backendCreate driver buffer r =>
    exact onDriver_of hf fun d hd => onBuffer_of hf fun b hb => createOn_faithful hf ho hd hb hc
  | backendImport driver buffer slots data =>
    exact onDriver_of hf fun d _ => onDescriptors_of hf fun ds _ => onBuffer_of hf fun b hb =>
      changeBuffer_faithful ((Allocator.importData_faithful s.allocator _
        (focus_faithful hf hb d) (ho.cons (Slots.mem_values hb))).imp (fun _ _ h => h)
        fun _ _ h _ => h)
  | destroy driver buffer =>
    exact onDriver_of hf fun _ _ => onBuffer_of hf fun b _ =>
      replace_faithful hf b.state rfl buffer
  | plane driver buffer plane =>
    exact onDriver_of hf fun _ _ => onBuffer_of hf fun b _ =>
      exportPlane_faithful hf (Allocator.bufferPlane_adds s.allocator b plane)
  | map driver buffer mapping flags =>
    exact onDriver_of hf fun d _ => onBuffer_of hf fun b hb =>
      mapBuffer_faithful hf hb mapping flags
  | unmap driver buffer mapping =>
    exact onDriver_of hf fun d _ => onBuffer_of hf fun b hb => onMapping_of hf fun m _ =>
      unmapBuffer_faithful hf hb mapping m
  | context driver mapOnly slot format =>
    exact onDriver_of hf fun d _ => takeContext_faithful hf mapOnly slot format d
  | close driver => exact onDriver_of hf fun d _ => hf.still (close_still d s.host) rfl
  | name | resolve | combinations | best => exact onDriver_of hf fun _ _ => hf
  | attachForeignToDriver | detachDriver =>
    exact onDriver_of hf fun d _ => hf.still (detach_still s.host d.state) rfl
  | addCombination | addCombinations | widen | widenLinear => exact onDriver_of hf fun _ _ => hf

/-! ### Runs -/

theorem start_faithful (a : Allocator) {h : Host} (he : h.events = []) :
    (start a h).1.Faithful := by
  have hempty : Faithful { allocator := a, host := h } := by
    refine ⟨?_, fun b hb => by cases hb⟩
    rw [he]
    intro pre e post hes
    simp at hes
  exact openDriver_faithful hempty 0

theorem Undisturbed.faithful (h : Undisturbed s) : s.Faithful := by
  induction h with
  | start a he _ => exact start_faithful a he
  | step h op hc ih => exact step_faithful ih h.reachable.balanced.owned op hc

theorem map_length {mapping : Nat} {flags : MapFlags} {m : Mapping}
    (hb : s.buffers.get? buffer = some b)
    (hm : (s.step (.map driver buffer mapping flags)).2 = .mapping m) :
    m.length = b.metadata.totalSize := by
  simp only [step, onDriver] at hm
  split at hm
  · rename_i d hd
    simp only [onBuffer, hb] at hm
    have h := Allocator.mapBuffer_maps s.allocator ⟨s.host, d, b⟩ flags
    unfold mapBuffer backend at hm
    cases hr : (Allocator.backend s.allocator).mapBuffer flags ⟨s.host, d, b⟩ with
    | ok m' f =>
      rw [hr] at hm
      cases hm
      exact (h.of_ok hr).1
    | error e f =>
      rw [hr] at hm
      cases hm
  · cases hm

/-- Whatever careful clients do between the import of a buffer and a call to map it, the call has
the size that the buffer was imported with; and a mapping is as long as its buffer. -/
theorem Undisturbed.map_geometry (h : Undisturbed s) :
    (∀ pre library n width height post,
      s.host.events = pre ++ .call (.map library n width height) :: post →
      ∃ request, Came pre library n request ∧ request.width = width ∧ request.height = height ∧
        width.toNat < 0x80000000 ∧ height.toNat < 0x80000000) ∧
    ∀ driver buffer mapping flags b m, s.buffers.get? buffer = some b →
      (s.step (.map driver buffer mapping flags)).2 = .mapping m →
      m.length = b.metadata.totalSize := by
  constructor
  · intro pre library n width height post he
    exact h.faithful.agrees pre _ post he
  · intro driver buffer mapping flags b m hb hm
    exact map_length hb hm

/-- Two rows of three-byte pixels that are not native. -/
def bytesRequest : BufferRequest := ⟨100, 2, .bgr888, .softwareReadOften⟩

/-- A buffer is mapped, and again when its driver has another context. -/
def remapped : Session :=
  (start ⟨.supplied, .linked⟩ {}).1.run
    [.create 0 0 bytesRequest, .map 0 0 0 ⟨0⟩, .close 0, .map 0 0 1 ⟨0⟩]

theorem map_geometry_of_remapped :
    remapped.host.events.filterMap Event.mapped? =
      [(⟨.linked, 1⟩, 1, 600, 1), (⟨.linked, 1⟩, 1, 600, 1)] ∧
    ∃ pre request, Came pre ⟨.linked, 1⟩ 1 request ∧ request.width = 600 := by
  have h : Undisturbed remapped :=
    ((((Undisturbed.start ⟨.supplied, .linked⟩ rfl rfl).step
      (.create 0 0 bytesRequest) trivial).step (.map 0 0 0 ⟨0⟩) trivial).step
        (.close 0) trivial).step (.map 0 0 1 ⟨0⟩) trivial
  have hm : .call (.map ⟨.linked, 1⟩ 1 600 1) ∈ remapped.host.events := by decide +kernel
  obtain ⟨pre, post, he⟩ := List.append_of_mem hm
  obtain ⟨hsize, -⟩ := h.map_geometry
  obtain ⟨request, hc, hwidth, -⟩ := hsize pre _ _ _ _ post he
  exact ⟨by decide +kernel, pre, request, hc, hwidth⟩

/-- A buffer is imported as bytes; then memory is allocated for it anew, which the library refuses
to import, and it is mapped. -/
def halfMade : Session :=
  (start ⟨.supplied, .linked⟩ {}).1.run [.create 0 0 ⟨100, 1, .bgr888, .softwareReadOften⟩,
    .script { answers := { imports := [false] } },
    .backendCreate 0 0 ⟨100, 1, .bgr888, .softwareReadOften ∪ .cameraWrite⟩, .map 0 0 0 ⟨0⟩]

/-- The handle is still that of the old memory, but it is mapped at the size of the new. -/
theorem map_of_half_made : Reachable halfMade ∧
    halfMade.host.events.filterMap Event.mapped? = [(⟨.linked, 1⟩, 1, 4096, 1)] ∧
    (origin halfMade.host.events 1).map ImportRequest.width = some 300 ∧
    DistinctHandles halfMade.host.events :=
  ⟨(Reachable.start ⟨.supplied, .linked⟩ rfl rfl).run _, by decide +kernel, by decide +kernel,
    by decide +kernel⟩

end Session

end GraphicsBuffers
