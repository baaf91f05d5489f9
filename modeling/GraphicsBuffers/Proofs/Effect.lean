import GraphicsBuffers.Proofs.Attempt

/-!
What an operation of the allocator can do to the host, the driver and the buffer that it works on.
Every operation comes down to one of the forms of `Effect`, and what all operations keep is shown
form by form.
-/

namespace GraphicsBuffers

/-- A message, or a call on the context's device, or on the handle of the buffer, that leaves nothing
to give back. -/
def Event.Concerns (c : Context) (o : Option Import) : Event → Prop
  | .log .. => True
  | .call (.alloc library device _) => (⟨library, device⟩ : Context) = c
  | .call (.importBuffer library device _ none) => (⟨library, device⟩ : Context) = c
  | .call (.map library handle _ _) | .call (.unmap library handle _) =>
    ∃ i ∈ o, i.context.library = library ∧ i.handle = handle
  | .call _ => False

/-- Only events with `p` are added; the driver stays as it is, and so does what is attached to the
buffer. -/
structure Stays (p : Event → Prop) (f f' : Focus) : Prop where
  host : Appends p f.host f'.host
  driver : f'.driver = f.driver
  state : f'.buffer.state = f.buffer.state

namespace Stays

variable {p q : Event → Prop} {f f' f'' : Focus}

theorem refl (f : Focus) : Stays p f f := ⟨.refl _, rfl, rfl⟩

theorem trans (h₁ : Stays p f f') (h₂ : Stays p f' f'') : Stays p f f'' :=
  ⟨h₁.host.trans h₂.host, h₂.driver.trans h₁.driver, h₂.state.trans h₁.state⟩

theorem mono (hpq : ∀ e, p e → q e) (h : Stays p f f') : Stays q f f' :=
  ⟨h.host.mono hpq, h.driver, h.state⟩

theorem onHost {h : Host} (hh : Appends p f.host h) : Stays p f { f with host := h } :=
  ⟨hh, rfl, rfl⟩

theorem log {level : LogLevel} {text : String} (hl : p (.log level text)) :
    Stays p f { f with host := f.host.log level text } := onHost (.log level text hl)

theorem copied (f : Focus) (n : Nat) : Stays p f { f with host := f.host.copied n } :=
  onHost (.copied _ n)

theorem inspected (f : Focus) (n : Nat) (inodes : Planes UInt64) :
    Stays p f { f with host := f.host.inspected n, buffer.inodes := inodes } :=
  ⟨.inspected _ n, rfl, rfl⟩

theorem import_eq (h : Stays p f f') : f'.buffer.import? = f.buffer.import? := by
  simp only [Buffer.import?, Buffer.backing?, h.state]

end Stays

theorem concerns_of_log {c : Context} {o : Option Import} (e : Event) (h : e.IsLog) :
    e.Concerns c o := by
  cases e with
  | log => exact trivial
  | call => exact h.elim

/-- How an operation comes by the driver's context, or fails to. -/
inductive Requires (a : Allocator) (mapOnly : Bool) (f : Focus) : Option Context → Focus → Prop
  | shared {c : Context} (hc : f.driver.context? = some c) : Requires a mapOnly f (some c) f
  | created {c : Context} {h h' : Host} (hn : f.driver.context? = none)
      (ha : Attempted a mapOnly f.host h (some c)) (hl : Appends Event.IsLog (h.hold c) h') :
      Requires a mapOnly f (some c) { f with host := h', driver.state := some (.context c) }
  | failed {h h' : Host} (hn : f.driver.context? = none)
      (ha : Attempted a mapOnly f.host h none) (hl : Appends Event.IsLog h h') :
      Requires a mapOnly f none { f with host := h' }

/-- The operation came by the context, and then did no more than what concerns it or the buffer's
handle. -/
def Works (a : Allocator) (mapOnly : Bool) (f : Focus) (c : Context) (f' : Focus) : Prop :=
  ∃ f₁, Requires a mapOnly f (some c) f₁ ∧
    Stays (Event.Concerns c f₁.buffer.import?) f₁ f'

/-- Nothing, or one handle that the library gave out for the context's device. -/
inductive Obtains (c : Context) (f : Focus) : Option Import → Focus → Prop
  | nothing {f' : Focus} (h : Stays Event.IsLog f f') : Obtains c f none f'
  | handle {f' : Focus} (request : ImportRequest) (n : Nat) (driver : f'.driver = f.driver)
      (state : f'.buffer.state = f.buffer.state) (held : f'.host.held = f.host.held)
      (loads : f'.host.loads = f.host.loads)
      (system : f'.host.answers.Follows f.host.answers)
      (events : f'.host.events = f.host.events ++
        [.call (.importBuffer c.library c.device request (some n))]) :
      Obtains c f (some ⟨c, n⟩) f'

/-- The focus once `n` duplicates have been asked for. -/
def Focus.copied (f : Focus) (n : Nat) : Focus := { f with host := f.host.copied n }

/-- What an operation does with the focus, by the context that it demands (`some true` to map only)
and the error that it fails with. Some descriptors may be duplicated ahead of the demand. -/
inductive Effect (a : Allocator) (f : Focus) : Option Bool → Option Error → Focus → Prop
  | idle {r : Option Error} {f' : Focus} (h : Stays Event.IsLog f f') : Effect a f none r f'
  | wrapped {k : Backing} {f' : Focus} (hk : k.imported = none) (h : Stays Event.IsLog f f') :
      Effect a f none none (Allocator.attach k f')
  | failed {mapOnly : Bool} {n : Nat} {f' : Focus} (h : Requires a mapOnly (f.copied n) none f') :
      Effect a f (some mapOnly) (some Allocator.contextFailed) f'
  | worked {mapOnly : Bool} {n : Nat} {c : Context} {r : Option Error} {f' : Focus}
      (h : Works a mapOnly (f.copied n) c f') : Effect a f (some mapOnly) r f'
  | attached {mapOnly : Bool} {n : Nat} {c : Context} {k : Backing} {f₁ f₂ : Focus}
      (h : Works a mapOnly (f.copied n) c f₁) (ho : Obtains c f₁ k.imported f₂) :
      Effect a f (some mapOnly) none (Allocator.attach k f₂)
  /-- The backing cannot be attached after all, for an inode that cannot be found out. -/
  | withdrawn {mapOnly : Bool} {n : Nat} {c : Context} {k : Backing} {code : Int32} {f₁ f₂ : Focus}
      (h : Works a mapOnly (f.copied n) c f₁) (ho : Obtains c f₁ k.imported f₂)
      (hc : some code ∈ f.host.answers.inspections) :
      Effect a f (some mapOnly) (some (.io (.numbered code))) (Allocator.withdraw k f₂)

/-- Looking at descriptors leaves a new handle as it is. -/
theorem Obtains.inspected {c : Context} {f f' : Focus} {o : Option Import} (h : Obtains c f o f')
    (n : Nat) (inodes : Planes UInt64) :
    Obtains c f o { f' with host := f'.host.inspected n, buffer.inodes := inodes } := by
  cases h with
  | nothing hs => exact .nothing (hs.trans (.inspected f' n inodes))
  | handle request number driver state held loads system events =>
    exact .handle request number driver state held loads
      (system.trans (Appends.inspected (p := Event.IsLog) f'.host n).system) events

theorem Obtains.system {c : Context} {f f' : Focus} {o : Option Import} (h : Obtains c f o f') :
    f'.host.answers.Follows f.host.answers := by
  cases h with
  | nothing hs => exact hs.host.system
  | handle _ _ _ _ _ _ system => exact system

theorem Requires.buffer {a : Allocator} {mapOnly : Bool} {f f' : Focus} {r : Option Context}
    (h : Requires a mapOnly f r f') : f'.buffer = f.buffer := by
  cases h <;> rfl

theorem Requires.system {a : Allocator} {mapOnly : Bool} {f f' : Focus} {r : Option Context}
    (h : Requires a mapOnly f r f') : f'.host.answers.Follows f.host.answers := by
  cases h with
  | shared => exact .refl _
  | @created c h₁ h₂ hn ha hl =>
    have hheld : (h₁.hold c).answers.Follows f.host.answers := ha.system
    exact hheld.trans hl.system
  | failed hn ha hl => exact ha.system.trans hl.system

theorem Requires.context {a : Allocator} {mapOnly : Bool} {f f' : Focus} {c : Context}
    (h : Requires a mapOnly f (some c) f') : f'.driver.context? = some c := by
  cases h with
  | shared hc => exact hc
  | created => rfl

namespace Vendor

theorem importBuffer_keeps (library : Library) (device : Nat) (request : ImportRequest)
    (h : Host) :
    (importBuffer library device request h).2.held = h.held ∧
      (importBuffer library device request h).2.loads = h.loads ∧
      (importBuffer library device request h).2.supported = h.supported ∧
      (importBuffer library device request h).2.answers.allocs = h.answers.allocs ∧
      (importBuffer library device request h).2.answers.Follows h.answers ∧
      (importBuffer library device request h).2.events = h.events ++
        [.call (.importBuffer library device request
          (importBuffer library device request h).1)] := by
  unfold importBuffer
  dsimp only
  split <;> exact ⟨rfl, rfl, rfl, rfl, .of_eq rfl rfl, rfl⟩

theorem alloc_adds (c : Context) (o : Option Import) (request : AllocRequest) :
    Adds (Event.Concerns c o) (alloc c.library c.device request) := by
  unfold alloc
  refine (Adds.ofExcept _).bind fun _ => (Adds.ofExcept _).bind fun _ => ?_
  refine (Adds.record (by exact rfl)).bind fun _ => Adds.get.bind fun h => ?_
  refine Adds.bind (Adds.modify ?_) fun _ => ?_
  · exact fun h => ⟨rfl, rfl, rfl, fun hn => absurd (hn (.call (.alloc _ _ request)) rfl) nofun,
      .of_eq rfl rfl, [], by simp, by simp⟩
  split
  · exact .throw _
  split
  · intro h
    exact ⟨rfl, rfl, rfl, fun _ => rfl, .of_eq rfl rfl, [], by simp, by simp⟩
  · exact (Adds.log trivial).bind fun _ => .throw _

theorem map_adds (c : Context) (i : Import) (width height : UInt32) :
    Adds (Event.Concerns c (some i)) (map i.context.library i.handle width height) := by
  unfold map
  refine (Adds.ofExcept _).bind fun _ => (Adds.ofExcept _).bind fun _ => ?_
  refine Adds.get.bind fun h => Adds.get.bind fun h' => Adds.bind (Adds.modify ?_) fun _ => ?_
  · exact fun h => ⟨rfl, rfl, rfl, fun _ => rfl, .of_eq rfl rfl, [], by simp, by simp⟩
  refine (Adds.record ?_).bind fun _ => .ofExcept _
  exact ⟨i, rfl, rfl, rfl⟩

end Vendor

namespace Allocator

variable (a : Allocator) {f : Focus}

/-! ### The context -/

theorem detach_no_context {d : Driver} (hn : d.context? = none) (h : Host) :
    h.detach d.state = h := by
  unfold Driver.context? at hn
  unfold Host.detach
  split <;> simp_all

theorem close_no_context (d : Driver) (h : Host) : (close d h).1.context? = none := by
  unfold close Driver.context?
  cases hs : d.state <;> simp [hs]

theorem context_requires (mapOnly : Bool) (f : Focus) :
    Yields (context a mapOnly) f (fun c f' => Requires a mapOnly f (some c) f')
      (fun _ f' => Requires a mapOnly f none f') := by
  unfold context
  simp only [yields_bind, yields_get]
  cases hc : f.driver.context? with
  | some c => exact Requires.shared hc
  | none =>
    simp only [yields_bind, yields_onHost]
    apply (createContext_attempted a mapOnly f.host).imp
    · intro c h ha
      simp only [yields_modify, yields_log, yields_pure, publish, detach_no_context hc]
      exact .created hc ha (.log .info _ trivial)
    · exact fun e h ha => .failed hc ha (.refl h)

theorem requireContext_requires (mapOnly : Bool) (f : Focus) :
    Yields (requireContext a mapOnly) f (fun c f' => Requires a mapOnly f (some c) f')
      (fun e f' => e = contextFailed ∧ Requires a mapOnly f none f') := by
  unfold requireContext
  rw [yields_bind, yields_attempt]
  apply (context_requires a mapOnly f).imp
  · exact fun c f' h => h
  · intro e f' h
    rw [yields_bind, yields_log, yields_throw]
    cases h with
    | failed hn ha hl => exact ⟨rfl, .failed hn ha (hl.trans (.log .error _ trivial))⟩

/-! ### Memory and handles -/

theorem allocPlanned_adds (c : Context) (o : Option Import) (plan : Plan) :
    Adds (Event.Concerns c o) (allocPlanned c plan) := by
  refine Adds.explain (fun _ => trivial) ?_
  refine (Vendor.alloc_adds c o _).attempt.bind fun found => ?_
  cases found with
  | ok a => exact .pure a
  | error e =>
    dsimp only
    split
    · exact .throw e
    · exact (Adds.log trivial).bind fun _ => Vendor.alloc_adds c o _

theorem recordLayout_stays (p : Event → Prop) (plan : Plan) (al : Vendor.Allocation)
    (format : Format) (f : Focus) :
    Yields (recordLayout plan al format) f (fun _ f' => Stays p f f')
      (fun _ f' => Stays p f f') := by
  unfold recordLayout
  cases plan.blob with
  | some layout => exact ⟨.refl _, rfl, rfl⟩
  | none =>
    simp only [yields_bind, yields_onMetadata, yields_modify]
    unfold Yields
    cases Metadata.layOut format al.stride plan.request.height f.buffer.metadata <;>
      exact ⟨.refl _, rfl, rfl⟩

theorem notes_noted (notes : List String) (f : Focus) :
    notes.forM (FocusM.log .debug) f = .ok ⟨⟩ { f with host := f.host.noted notes } := by
  induction notes generalizing f with
  | nil =>
    rw [Host.noted, List.map_nil, List.append_nil]
    rfl
  | cons note notes ih =>
    change (FocusM.log .debug note >>= fun _ => notes.forM (FocusM.log .debug)) f = _
    have hlog : FocusM.log .debug note f =
        .ok ⟨⟩ { f with host := f.host.log .debug note } := rfl
    rw [bind_of_ok hlog, ih]
    simp [Host.noted, Host.log]

theorem notes_append {p : Event → Prop} (hp : ∀ level text, p (.log level text))
    (notes : List String) (f : Focus) :
    Yields (notes.forM (FocusM.log .debug)) f
      (fun _ f' => ∃ h, f' = { f with host := h } ∧ Appends p f.host h) (fun _ _ => False) := by
  rw [yields_of_ok (notes_noted notes f)]
  exact ⟨f.host.noted notes, rfl, .noted hp f.host notes⟩

theorem allocateMemory_stays (c : Context) (flags : UseFlags) (f : Focus) :
    Yields (allocateMemory c flags) f
      (fun _ f' => Stays (Event.Concerns c f.buffer.import?) f f')
      (fun _ f' => Stays (Event.Concerns c f.buffer.import?) f f') := by
  unfold allocateMemory
  simp only [yields_bind, yields_get, yields_ofExcept]
  refine ⟨?_, fun _ _ => .refl f⟩
  rintro ⟨plan, notes⟩ -
  simp only [yields_onHost]
  apply (notes_append (p := Event.Concerns c f.buffer.import?) (fun _ _ => trivial) notes f).imp
  · rintro _ f₁ ⟨h, hf₁, hh⟩
    have h₁ : Stays (Event.Concerns c f.buffer.import?) f f₁ := hf₁ ▸ .onHost hh
    apply (allocPlanned_adds c f.buffer.import? plan f₁.host).imp
    · intro al h hh
      have h₂ := h₁.trans (Stays.onHost hh)
      apply (recordLayout_stays _ plan al _ _).imp
      · intro _ f₃ h₃
        simp only [yields_log, yields_pure]
        exact (h₂.trans h₃).trans (Stays.log trivial)
      · exact fun _ f₃ h₃ => h₂.trans h₃
    · exact fun _ h hh => h₁.trans (Stays.onHost hh)
  · exact fun _ _ h => h.elim

theorem importOn_obtains (c : Context) (o : Option Import) (d : Descriptor) (stride : UInt32)
    (modifier : UInt64) (refused : String) (f : Focus) :
    Yields (importOn c d stride modifier refused) f (fun i f' => Obtains c f (some i) f')
      (fun _ f' => Stays (Event.Concerns c o) f f') := by
  unfold importOn
  simp only [yields_bind, yields_get, yields_ofExcept]
  refine ⟨?_, fun _ _ => .refl f⟩
  rintro ⟨width, height, format⟩ -
  generalize (⟨d, width, height, stride, modifier, format⟩ : ImportRequest) = request
  obtain ⟨hheld, hloads, hsupported, hallocs, hsystem, hevents⟩ :=
    Vendor.importBuffer_keeps c.library c.device request f.host
  generalize Vendor.importBuffer c.library c.device request f.host = made
    at hheld hloads hsupported hallocs hsystem hevents ⊢
  obtain ⟨n, h⟩ := made
  cases n with
  | some n => exact .handle request n rfl rfl hheld hloads hsystem hevents
  | none =>
    have hh : Stays (Event.Concerns c o) f { f with host := h } :=
      .onHost ⟨hheld, hloads, hsupported, fun _ => hallocs, hsystem, _, hevents,
        by simp [Event.Concerns]⟩
    exact hh.trans (Stays.log trivial)

theorem importAllocated_obtains (c : Context) (o : Option Import) (flags : UseFlags)
    (al : Vendor.Allocation) (f : Focus) :
    Yields (importAllocated c flags al) f (fun i f' => Obtains c f i f')
      (fun _ f' => Stays (Event.Concerns c o) f f') := by
  unfold importAllocated
  split
  · simp only [yields_bind, yields_get, yields_map]
    exact importOn_obtains c o _ _ _ _ f
  · exact Obtains.nothing (.refl f)

/-! ### Duplicates and inodes -/

/-- A descriptor for each plane of the buffer, all of the same memory. -/
theorem copyPlanes_yields (d : Descriptor) (f : Focus) :
    let planes := f.buffer.metadata.numPlanes
    Yields (copyPlanes d) f
      (fun ds f' => ds = List.replicate planes d ∧ f' = f.copied planes ∧
        faultWithin planes f.host.answers.duplicates = none)
      (fun e f' => ∃ n code, e = .io (.numbered code) ∧ f' = f.copied n ∧
        faultWithin planes f.host.answers.duplicates = some code) := by
  unfold copyPlanes
  simp only [yields_bind, yields_get, yields_onHost]
  apply (duplicates_yields (List.replicate f.buffer.metadata.numPlanes d) f.host).imp
  · rintro _ _ ⟨rfl, rfl, hnone⟩
    rw [List.length_replicate] at hnone ⊢
    exact ⟨rfl, rfl, hnone⟩
  · rintro _ _ ⟨n, code, rfl, rfl, hsome⟩
    rw [List.length_replicate] at hsome
    exact ⟨n, code, rfl, rfl, hsome⟩

/-- The inodes once those of the descriptors are recorded, from plane `p` on. -/
def inodesFrom : Nat → List Descriptor → Planes UInt64 → Planes UInt64
  | _, [], inodes => inodes
  | p, d :: rest, inodes => inodesFrom (p + 1) rest (inodes.put p d.inode)

/-- The focus once the inodes of the descriptors are recorded, from plane `p` on. -/
def notedFrom (p : Nat) (ds : List Descriptor) (f : Focus) : Focus :=
  { f with
    host := f.host.inspected ds.length
    buffer.inodes := inodesFrom p ds f.buffer.inodes }

/-- Descriptors are inspected one by one, up to the first failure. -/
theorem noteInodes_yields (ds : List Descriptor) (p : Nat) (f : Focus) :
    Yields (noteInodes p ds) f
      (fun _ f' => f' = notedFrom p ds f ∧
        faultWithin ds.length f.host.answers.inspections = none)
      (fun e f' => ∃ n inodes code, e = .io (.numbered code) ∧
        f' = { f with host := f.host.inspected n, buffer.inodes := inodes } ∧
        faultWithin ds.length f.host.answers.inspections = some code) := by
  induction ds generalizing p f with
  | nil => exact ⟨rfl, rfl⟩
  | cons d rest ih =>
    unfold noteInodes
    simp only [yields_bind, yields_onHost, yields_modify]
    apply (inspect_yields d f.host).imp
    · rintro _ _ ⟨rfl, rfl, hhead⟩
      have hrest : faultWithin (rest.length + 1) f.host.answers.inspections =
          faultWithin rest.length (f.host.inspected 1).answers.inspections :=
        faultWithin_of_none hhead
      rw [List.length_cons, hrest]
      apply (ih (p + 1) _).imp
      · rintro _ _ ⟨rfl, hnone⟩
        refine ⟨?_, hnone⟩
        simp only [notedFrom, inodesFrom, List.length_cons, Host.inspected_inspected,
          Nat.add_comm 1]
      · rintro _ _ ⟨n, inodes, code, rfl, rfl, hsome⟩
        refine ⟨1 + n, inodes, code, rfl, ?_, hsome⟩
        simp only [Host.inspected_inspected]
    · rintro _ _ ⟨code, rfl, rfl, hhead⟩
      exact ⟨1, f.buffer.inodes, code, rfl, rfl, faultWithin_of_some hhead⟩

/-- The focus once the inodes are recorded and the backing is attached. -/
def settled (k : Backing) (f : Focus) : Focus := attach k (notedFrom 0 k.descriptors f)

/-- A backing is attached unless the inode of a plane cannot be found out. -/
theorem settle_yields (k : Backing) (f : Focus) :
    Yields (settle k) f
      (fun _ f' => f' = settled k f ∧
        faultWithin k.descriptors.length f.host.answers.inspections = none)
      (fun e f' => ∃ n inodes code, e = .io (.numbered code) ∧
        f' = withdraw k { f with host := f.host.inspected n, buffer.inodes := inodes } ∧
        faultWithin k.descriptors.length f.host.answers.inspections = some code) := by
  unfold settle
  rw [yields_bind, yields_attempt]
  apply (noteInodes_yields k.descriptors 0 f).imp
  · rintro _ _ ⟨rfl, hnone⟩
    exact ⟨rfl, hnone⟩
  · rintro _ _ ⟨n, inodes, code, rfl, rfl, hsome⟩
    exact ⟨n, inodes, code, rfl, rfl, hsome⟩

/-! ### The operations -/

/-- The rest of an allocation, once there is memory. -/
def attachAllocated (c : Context) (flags : UseFlags) (al : Vendor.Allocation) : FocusM Unit := do
  let descriptors ← copyPlanes al.descriptor
  let imported ← importAllocated c flags al
  settle ⟨descriptors, imported, al.mapStride⟩

theorem allocateOn_eq (c : Context) (flags : UseFlags) :
    allocateOn c flags = allocateMemory c flags >>= attachAllocated c flags := rfl

theorem allocateOn_effect (flags : UseFlags) {c : Context} {f₁ : Focus}
    (h : Requires a false f (some c) f₁) :
    Yields (allocateOn c flags) f₁ (fun _ f' => Effect a f (some false) none f')
      (fun e f' => Effect a f (some false) (some e) f') := by
  rw [allocateOn_eq, yields_bind]
  apply (allocateMemory_stays c flags f₁).imp
  · intro al f₂ hw
    unfold attachAllocated
    rw [yields_bind]
    apply (copyPlanes_yields al.descriptor f₂).imp
    · rintro _ _ ⟨rfl, rfl, -⟩
      have hw := hw.trans (.copied f₂ f₂.buffer.metadata.numPlanes)
      rw [yields_bind]
      apply (importAllocated_obtains c f₁.buffer.import? flags al _).imp
      · intro i f₃ ho
        apply (settle_yields _ f₃).imp
        · rintro _ _ ⟨rfl, -⟩
          exact .attached (n := 0) ⟨_, h, hw⟩ (ho.inspected _ _)
        · rintro _ _ ⟨k, inodes, code, rfl, rfl, hfault⟩
          have hleft := (h.system.trans hw.host.system).trans ho.system
          exact .withdrawn (n := 0) ⟨_, h, hw⟩ (ho.inspected _ _)
            (hleft.inspections.mem (mem_of_faultWithin hfault))
      · exact fun e f₃ hw₃ => .worked (n := 0) ⟨_, h, hw.trans hw₃⟩
    · rintro _ _ ⟨k, code, rfl, rfl, -⟩
      exact .worked (n := 0) ⟨_, h, hw.trans (.copied f₂ k)⟩
  · exact fun e f₂ hw => .worked (n := 0) ⟨_, h, hw⟩

theorem create_effect (flags : UseFlags) (f : Focus) :
    Yields (create a flags) f (fun _ f' => Effect a f (some false) none f')
      (fun e f' => Effect a f (some false) (some e) f') := by
  unfold create
  rw [yields_bind]
  apply (requireContext_requires a false f).imp
  · exact fun c f₁ h => allocateOn_effect a flags h
  · intro e f' h
    obtain ⟨rfl, h⟩ := h
    exact .failed (n := 0) h

/-- The context that an import demands: one to map only, where the buffer is empty, there is a
descriptor for every plane, each of which can be duplicated, and the memory is to be mapped. -/
def importDemand (data : ImportData) (b : Buffer) (h : Host) : Option Bool :=
  if b.state = none ∧ b.metadata.numPlanes ≤ data.descriptors.length ∧
      faultWithin b.metadata.numPlanes h.answers.duplicates = none ∧
      data.useFlags.intersects .software then some true
  else none

theorem import_of_demand {data : ImportData} {b : Buffer} {h : Host}
    (hd : importDemand data b h ≠ none) : b.import? = none := by
  unfold importDemand at hd
  split at hd
  · rename_i hb
    simp [Buffer.import?, Buffer.backing?, hb.1]
  · exact absurd rfl hd

/-- A duplicate of the descriptor of each plane. -/
theorem takeDescriptors_yields {data : ImportData} {f : Focus}
    (hp : f.buffer.metadata.numPlanes ≤ data.descriptors.length) :
    let planes := f.buffer.metadata.numPlanes
    Yields (FocusM.onHost ((data.descriptors.take planes).mapM HostM.duplicate)) f
      (fun ds f' => ds = data.descriptors.take planes ∧ f' = f.copied planes ∧
        faultWithin planes f.host.answers.duplicates = none)
      (fun e f' => ∃ n code, e = .io (.numbered code) ∧ f' = f.copied n ∧
        faultWithin planes f.host.answers.duplicates = some code) := by
  intro planes
  have hlength : (data.descriptors.take planes).length = planes :=
    List.length_take_of_le hp
  have hcopies := duplicates_yields (data.descriptors.take planes) f.host
  rw [hlength] at hcopies
  rw [yields_onHost]
  apply hcopies.imp
  · rintro _ _ ⟨rfl, rfl, hnone⟩
    exact ⟨rfl, rfl, hnone⟩
  · rintro _ _ ⟨n, code, rfl, rfl, hsome⟩
    exact ⟨n, code, rfl, rfl, hsome⟩

/-- Memory to be mapped is imported in a context, and attached to the buffer. -/
theorem importMapped_effect {data : ImportData} (hu : data.useFlags.intersects .software = true)
    (ds : List Descriptor) (f : Focus) (n : Nat) :
    Yields (importForMapping a data >>= fun imported => settle ⟨ds, imported, 0⟩) (f.copied n)
      (fun _ f' => Effect a f (some true) none f')
      (fun e f' => Effect a f (some true) (some e) f') := by
  unfold importForMapping
  rw [if_pos hu, yields_bind, yields_bind]
  apply (requireContext_requires a true _).imp
  · intro c f₁ h
    cases data.descriptors with
    | nil => exact .worked ⟨_, h, .refl f₁⟩
    | cons d rest =>
      rw [yields_map]
      apply (importOn_obtains c f₁.buffer.import? d _ _ _ f₁).imp
      · intro i f₂ ho
        apply (settle_yields _ f₂).imp
        · rintro _ _ ⟨rfl, -⟩
          exact .attached ⟨_, h, .refl f₁⟩ (ho.inspected _ _)
        · rintro _ _ ⟨n, inodes, code, rfl, rfl, hfault⟩
          have hleft := h.system.trans ho.system
          exact .withdrawn ⟨_, h, .refl f₁⟩ (ho.inspected _ _)
            (hleft.inspections.mem (mem_of_faultWithin hfault))
      · exact fun e f₂ hw => .worked ⟨_, h, hw⟩
  · intro e f' h
    obtain ⟨rfl, h⟩ := h
    exact .failed h

/-- Other memory is attached as it is. -/
theorem importUnmapped_effect {data : ImportData} (hu : ¬data.useFlags.intersects .software = true)
    (ds : List Descriptor) (f : Focus) (n : Nat) :
    Yields (importForMapping a data >>= fun imported => settle ⟨ds, imported, 0⟩) (f.copied n)
      (fun _ f' => Effect a f none none f') (fun e f' => Effect a f none (some e) f') := by
  unfold importForMapping
  rw [if_neg hu, yields_bind, yields_pure]
  have hcopy : Stays Event.IsLog f (f.copied n) := .copied f n
  apply (settle_yields _ _).imp
  · rintro _ _ ⟨rfl, -⟩
    exact .wrapped rfl (hcopy.trans (.inspected _ _ _))
  · rintro _ _ ⟨m, inodes, code, rfl, rfl, -⟩
    exact .idle (hcopy.trans (.inspected _ m inodes))

theorem importData_effect (data : ImportData) (f : Focus) :
    Yields (importData a data) f
      (fun _ f' => Effect a f (importDemand data f.buffer f.host) none f')
      (fun e f' => Effect a f (importDemand data f.buffer f.host) (some e) f') := by
  unfold importData
  simp only [yields_bind, yields_get]
  split
  · rename_i hs
    have hd : importDemand data f.buffer f.host = none :=
      if_neg fun h => by simp [h.1] at hs
    rw [hd, yields_bind, yields_log, yields_throw]
    exact .idle (.log trivial)
  rename_i hs
  split
  · have hd : importDemand data f.buffer f.host = none := if_neg fun h => by omega
    rw [hd, yields_throw]
    exact .idle (.refl f)
  rename_i hp
  rw [yields_bind]
  apply (takeDescriptors_yields (Nat.le_of_not_lt hp)).imp
  · rintro _ _ ⟨rfl, rfl, hcopied⟩
    by_cases hu : data.useFlags.intersects .software = true
    · have hd : importDemand data f.buffer f.host = some true :=
        if_pos ⟨by simpa using hs, Nat.le_of_not_lt hp, hcopied, hu⟩
      rw [hd]
      exact importMapped_effect a hu _ f _
    · have hd : importDemand data f.buffer f.host = none := if_neg fun h => hu h.2.2.2
      rw [hd]
      exact importUnmapped_effect a hu _ f _
  · rintro _ _ ⟨n, code, rfl, rfl, hfault⟩
    have hd : importDemand data f.buffer f.host = none :=
      if_neg fun h => Option.some_ne_none code (hfault.symm.trans h.2.2.1)
    rw [hd]
    exact .idle (.copied f n)

/-- The buffer's own handle, or messages and a failure. -/
theorem mappable_yields (complaint : String) (f : Focus) :
    Yields (mappable complaint) f (fun i f' => f' = f ∧ f.buffer.import? = some i)
      (fun _ f' => f'.buffer = f.buffer ∧ Stays Event.IsLog f f') := by
  unfold mappable
  simp only [yields_bind, yields_get]
  cases hb : f.buffer.backing? with
  | none => exact ⟨rfl, .refl f⟩
  | some k =>
    cases hi : k.imported with
    | none =>
      simp only [hi, yields_bind, yields_log, yields_throw]
      exact ⟨trivial, .log trivial⟩
    | some i =>
      simp only [hi, yields_pure]
      exact ⟨trivial, by simp [Buffer.import?, hb, hi]⟩

theorem mappable_error (complaint : String) (f : Focus) :
    Yields (mappable complaint) f (fun _ _ => True)
      (fun e _ => e = .noBufferHandle ∧ f.buffer.import? = none) := by
  unfold mappable
  simp only [yields_bind, yields_get]
  cases hb : f.buffer.backing? with
  | none => exact ⟨rfl, by simp [Buffer.import?, hb]⟩
  | some k =>
    cases hi : k.imported with
    | none => simp [hi, Buffer.import?, hb]
    | some i => simp [hi]

theorem map_effect (flags : MapFlags) (f : Focus) :
    Yields (map a flags) f (fun _ f' => ∃ c, Works a true f c f')
      (fun e f' => Effect a f (some true) (some e) f') := by
  unfold map
  rw [yields_bind]
  apply (requireContext_requires a true f).imp
  · intro c f₁ h
    rw [yields_bind]
    apply (mappable_yields _ f₁).imp
    · intro i _ h
      obtain ⟨rfl, hi⟩ := h
      simp only [yields_bind, yields_get, yields_ofExcept, yields_onHost, yields_pure]
      refine ⟨?_, fun _ _ => .worked (n := 0) ⟨_, h, .refl _⟩⟩
      rintro ⟨width, height, format⟩ -
      have hm := Vendor.map_adds c i width height
      rw [← hi] at hm
      apply (hm _).imp
      · exact fun _ _ hh => ⟨c, _, h, .onHost hh⟩
      · exact fun _ _ hh => .worked (n := 0) ⟨_, h, .onHost hh⟩
    · exact fun e f₂ hw => .worked (n := 0) ⟨_, h, hw.2.mono concerns_of_log⟩
  · intro e f' h
    obtain ⟨rfl, h⟩ := h
    exact .failed (n := 0) h

theorem unmap_effect (m : Mapping) (f : Focus) :
    Yields (unmap a m) f (fun _ f' => Effect a f (some true) none f')
      (fun e f' => Effect a f (some true) (some e) f') := by
  unfold unmap
  rw [yields_bind]
  apply (requireContext_requires a true f).imp
  · intro c f₁ h
    rw [yields_bind]
    apply (mappable_yields _ f₁).imp
    · intro i _ h
      obtain ⟨rfl, hi⟩ := h
      cases m.token with
      | none => exact .worked (n := 0) ⟨_, h, .log trivial⟩
      | some token =>
        simp only [yields_bind, yields_modify, yields_pure]
        refine .worked (n := 0) ⟨_, h, .onHost (.record _ ?_)⟩
        exact ⟨i, hi, rfl, rfl⟩
    · exact fun e f₂ hw => .worked (n := 0) ⟨_, h, hw.2.mono concerns_of_log⟩
  · intro e f' h
    obtain ⟨rfl, h⟩ := h
    exact .failed (n := 0) h

theorem planeDescriptor_adds (b : Buffer) (plane : Nat) :
    Adds Event.IsLog (planeDescriptor b plane) := by
  unfold planeDescriptor
  cases b.backing? with
  | none => exact .throw _
  | some k =>
    dsimp only
    cases k.descriptors[plane]? with
    | none => exact .throw _
    | some d =>
      exact fun h => (duplicate_yields d h).imp (fun _ _ ⟨_, hh, _⟩ => hh ▸ .copied h 1)
        fun _ _ ⟨_, _, hh, _⟩ => hh ▸ .copied h 1

/-! ### The operations of a driver -/

/-- The focus on a new buffer. -/
def onNew (m : Metadata) (f : Focus) : Focus := { f with buffer := { metadata := m } }

/-- A buffer is created only for a format that has planes; only then is a context demanded. -/
theorem createBuffer_effect (width height : UInt32) (format : Format) (flags : UseFlags)
    (f : Focus) :
    Yields ((backend a).createBuffer width height format flags) f
      (fun _ f' => ∃ m, format.planes?.isSome ∧ Effect a (onNew m f) (some false) none f')
      (fun e f' => (format.planes? = none ∧ f' = f) ∨
        ∃ m, format.planes?.isSome ∧ Effect a (onNew m f) (some false) (some e) f') := by
  unfold Backend.createBuffer
  simp only [yields_bind, yields_ofExcept, yields_modify]
  constructor
  · intro m hm
    have hf : format.planes?.isSome := by
      cases hf : format.planes? with
      | some shapes => rfl
      | none => simp [Metadata.unplaced, Format.planes, hf, bind, Except.bind] at hm
    apply (create_effect a flags (onNew m f)).imp
    · exact fun _ f' h => ⟨m, hf, h⟩
    · exact fun e f' h => Or.inr ⟨m, hf, h⟩
  · intro e he
    have hf : format.planes? = none := by
      cases hf : format.planes? with
      | none => rfl
      | some shapes => simp [Metadata.unplaced, Format.planes, hf, bind, Except.bind,
          pure, Except.pure] at he
    exact Or.inl ⟨hf, trivial⟩

theorem wrapBuffer_effect (data : ImportData) (described : Except Error Metadata) (f : Focus) :
    Yields ((backend a).wrapBuffer data described) f
      (fun _ f' => ∃ m, described = .ok m ∧
        Effect a (onNew m f) (importDemand data { metadata := m } f.host) none f')
      (fun e f' => (described = .error e ∧ f' = f) ∨ ∃ m, described = .ok m ∧
        Effect a (onNew m f) (importDemand data { metadata := m } f.host) (some e) f') := by
  unfold Backend.wrapBuffer
  simp only [yields_bind, yields_ofExcept, yields_modify]
  constructor
  · intro m hm
    apply (importData_effect a data (onNew m f)).imp
    · exact fun _ f' h => ⟨m, hm, h⟩
    · exact fun e f' h => Or.inr ⟨m, hm, h⟩
  · exact fun e he => Or.inl ⟨he, trivial⟩

theorem bufferPlane_adds (b : Buffer) (plane : Nat) :
    Adds Event.IsLog ((backend a).bufferPlane b plane) := by
  unfold Backend.bufferPlane
  split
  · exact .throw _
  · exact planeDescriptor_adds b plane

theorem mapBuffer_effect (flags : MapFlags) (f : Focus) :
    Yields ((backend a).mapBuffer flags) f (fun _ f' => Effect a f (some true) none f')
      (fun e f' => Effect a f (some true) (some e) f') := by
  unfold Backend.mapBuffer
  rw [yields_bind]
  apply (map_effect a flags f).imp
  · intro m f' h
    obtain ⟨c, f₁, h, hw⟩ := h
    rw [yields_bind, yields_log, yields_pure]
    exact .worked (n := 0) ⟨f₁, h, hw.trans (.log trivial)⟩
  · exact fun e f' h => h

theorem unmapBuffer_effect (m : Mapping) (f : Focus) :
    Yields ((backend a).unmapBuffer m) f (fun _ f' => Effect a f (some true) none f')
      (fun e f' => Effect a f (some true) (some e) f') := by
  unfold Backend.unmapBuffer
  rw [yields_bind]
  exact (unmap_effect a m f).imp (fun _ _ h => h) (fun _ _ h => h)

end Allocator

end GraphicsBuffers
