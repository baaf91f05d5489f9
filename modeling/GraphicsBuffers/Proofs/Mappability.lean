import GraphicsBuffers.Proofs.Provenance
import GraphicsBuffers.Proofs.Shape

/-!
Which buffers can be mapped. Sizes are passed to the library as signed numbers when memory is
allocated and when it is mapped, but not when it is imported; and for a row of bytes, other sizes are
passed when it is allocated.
-/

namespace GraphicsBuffers

/-- A size that can be passed to the library where it takes signed numbers. -/
def Passable (width height : UInt32) : Prop :=
  width.toNat < 0x80000000 ∧ height.toNat < 0x80000000

theorem signed_of_lt {n : UInt32} (h : n.toNat < 0x80000000) : signed n = .ok n := if_pos h

theorem signed_of_not_lt {n : UInt32} (h : ¬n.toNat < 0x80000000) :
    signed n = .error .conversion := if_neg h

namespace Vendor

variable (library : Library) (handle : Nat) {width height : UInt32}

theorem placement_error {n : Nat} {answer : MapAnswer} {e : Error}
    (h : placement n answer = .error e) : e = .notMapped := by
  unfold placement at h
  dsimp only at h
  split at h
  · exact (Except.error.inj h).symm
  · split at h
    · cases h
    · exact (Except.error.inj h).symm

theorem map_passable (hp : Passable width height) (h : Host) :
    Yields (map library handle width height) h
      (fun _ h' => h'.events = h.events ++ [.call (.map library handle width height)])
      (fun e h' => e = .notMapped ∧
        h'.events = h.events ++ [.call (.map library handle width height)]) := by
  unfold map
  simp only [signed_of_lt hp.1, signed_of_lt hp.2, yields_bind, yields_ofExcept, yields_get,
    HostM.record, yields_modify]
  exact ⟨fun _ _ => ⟨fun _ _ => ⟨fun _ _ => rfl, fun e he => ⟨placement_error he, rfl⟩⟩,
    fun _ he => by cases he⟩, fun _ he => by cases he⟩

/-- Without a size to pass, the library is not called. -/
theorem map_not_passable (hp : ¬Passable width height) (h : Host) :
    map library handle width height h = .error .conversion h := by
  unfold map
  by_cases hw : width.toNat < 0x80000000
  · have hh : ¬height.toNat < 0x80000000 := fun hh => hp ⟨hw, hh⟩
    rw [signed_of_lt hw, signed_of_not_lt hh]
    rfl
  · rw [signed_of_not_lt hw]
    rfl

theorem alloc_passable (device : Nat) (request : AllocRequest) (h : Host) :
    Yields (alloc library device request) h (fun _ _ => Passable request.width request.height)
      (fun _ _ => True) := by
  unfold alloc
  rw [yields_bind, yields_ofExcept]
  refine ⟨fun _ hw => ?_, fun _ _ => trivial⟩
  rw [yields_bind, yields_ofExcept]
  exact ⟨fun _ hh => .const ⟨(signed_ok hw).2, (signed_ok hh).2⟩ _, fun _ _ => trivial⟩

end Vendor

/-- Whoever maps the buffer, with a context at hand and while the library supports these formats: it
calls the library to map the buffer's handle at this size, or fails because the size cannot be
passed. -/
def Buffer.MapsAt (b : Buffer) (supported : List Format) (width height : UInt32) : Prop :=
  ∃ i, b.import? = some i ∧ ∀ (a : Allocator) (flags : MapFlags) (g g₁ : Focus) (c : Context),
    g.buffer = b → g.host.supported = supported → a.requireContext true g = .ok c g₁ →
    let called := g₁.host.events ++ [.call (.map i.context.library i.handle width height)]
    (Passable width height → Yields ((Allocator.backend a).mapBuffer flags) g
      (fun _ g' => ∃ logs, (∀ e ∈ logs, e.IsLog) ∧ g'.host.events = called ++ logs)
      (fun e g' => e = .notMapped ∧ g'.host.events = called)) ∧
    (¬Passable width height → Yields ((Allocator.backend a).mapBuffer flags) g
      (fun _ _ => False) (fun e g' => e = .conversion ∧ g' = g₁))

/-- The size of the buffer in focus can be passed if its format is native, except for one row of
bytes. -/
def Focus.OwnPassable (f : Focus) : Prop :=
  f.host.supports f.buffer.metadata.format = true →
    ¬(f.buffer.metadata.format = .r8 ∧ f.buffer.metadata.height = 1) →
      Passable f.buffer.metadata.width f.buffer.metadata.height

namespace Allocator

variable (a : Allocator) {f g g₁ : Focus} {c : Context} {i : Import} {width height : UInt32}
  {format : Format}

/-- With a context at hand, and a buffer that has a handle and a size, there is only the library left
to ask. -/
theorem map_asks (hc : a.requireContext true g = .ok c g₁) (hi : g₁.buffer.import? = some i)
    (hk : g₁.known = .ok (width, height, format)) (flags : MapFlags)
    {post : Mapping → Focus → Prop} {fail : Error → Focus → Prop}
    (h : Yields (Vendor.map i.context.library i.handle width height) g₁.host
      (fun place h => post ⟨place.address, g₁.buffer.metadata.totalSize, flags, some place.token⟩
        { g₁ with host := h })
      (fun e h => fail e { g₁ with host := h })) : Yields (map a flags) g post fail := by
  have hgeometry : geometry (g₁.host.supports g₁.buffer.metadata.format) g₁.buffer.metadata =
      .ok (width, height, format) := hk
  obtain ⟨_, _, hm, rfl, rfl⟩ :=
    (mappable_held hi "bo_map: buffer was not imported for CPU access").exists_ok
  unfold map
  rw [yields_bind, yields_of_ok hc, yields_bind, yields_of_ok hm]
  simp only [yields_bind, yields_get, hgeometry, yields_ofExcept, yields_onHost, yields_pure]
  refine ⟨fun size hsize => ?_, fun _ he => by cases he⟩
  cases hsize
  exact h

theorem mapsAt_of_known (hi : f.buffer.import? = some i)
    (hk : f.known = .ok (width, height, format)) :
    f.buffer.MapsAt f.host.supported width height := by
  refine ⟨i, hi, fun a flags g g₁ c hb hs hc => ?_⟩
  obtain ⟨⟨es, ht, -⟩, hb₁⟩ := (requireContext_idles a true g).of_ok hc
  have hi : g₁.buffer.import? = some i := by rw [hb₁, hb, hi]
  have hk : g₁.known = .ok (width, height, format) := by
    rw [← hk]
    exact Focus.known_congr (ht.supported.trans hs) (by rw [hb₁, hb])
  unfold Backend.mapBuffer
  refine ⟨fun hp => ?_, fun hp => ?_⟩
  · rw [yields_bind]
    apply map_asks a hc hi hk flags
    apply (Vendor.map_passable i.context.library i.handle hp g₁.host).imp
    · intro place h he
      rw [yields_bind, yields_log, yields_pure, ← he]
      exact ⟨[.log .debug _], by simp [Event.IsLog], rfl⟩
    · exact fun _ _ h => h
  · rw [yields_bind]
    apply map_asks a hc hi hk flags
    unfold Yields
    rw [Vendor.map_not_passable i.context.library i.handle hp]
    exact ⟨rfl, rfl⟩

/-! ### Buffers that were allocated -/

variable (flags : UseFlags)

theorem allocPlanned_passable (c : Context) (plan : Plan) (h : Host) :
    Yields (allocPlanned c plan) h
      (fun _ _ => Passable plan.request.width plan.request.height) (fun _ _ => True) := by
  unfold allocPlanned allocOrFallBack
  rw [yields_explain, yields_bind, yields_attempt]
  apply (Vendor.alloc_passable c.library c.device plan.request h).imp
  · exact fun _ _ hp => hp
  · intro e h₁ _
    dsimp only
    split
    · exact trivial
    · exact Vendor.alloc_passable c.library c.device { plan.request with scanout := false } _

/-- Memory is asked for at the size of the buffer in focus, unless its format is not native or makes
one row of bytes. -/
theorem allocateMemory_passable (c : Context) (f : Focus) :
    Yields (allocateMemory c flags) f (fun _ _ => f.OwnPassable) (fun _ _ => True) := by
  unfold allocateMemory
  simp only [yields_bind, yields_get, yields_ofExcept]
  refine ⟨?_, fun _ _ => trivial⟩
  rintro ⟨plan, notes⟩ hplan
  have hdrawn := Plan.draw_drawn hplan
  apply (notes_append (p := Event.IsLog) (fun _ _ => trivial) notes f).imp
  · intro _ f₁ _
    simp only [yields_onHost]
    apply (allocPlanned_passable c plan f₁.host).imp_ok
    intro al h hp
    have hown : f.OwnPassable := by
      intro hnative hnot
      rw [hnative] at hdrawn
      cases hdrawn with
      | own hown =>
        rw [← hown.height]
        exact ⟨Nat.lt_of_le_of_lt hown.width_le hp.1, hp.2⟩
      | row _ hrow => exact absurd hrow hnot
    exact (Yields.const hown _).imp_ok fun _ _ _ => .const hown _
  · exact fun _ _ h => h.elim

theorem create_passable (f : Focus) :
    Yields (create a flags) f (fun _ _ => f.OwnPassable) (fun _ _ => True) := by
  unfold create
  rw [yields_bind]
  apply (requireContext_idles a false f).imp_ok
  intro c f₁ h
  obtain ⟨⟨es, ht, -⟩, hb⟩ := h
  rw [allocateOn_eq, yields_bind]
  apply (allocateMemory_passable flags c f₁).imp_ok
  intro al f₂ hp
  have hp : f.OwnPassable := by
    rw [Focus.OwnPassable, hb, ht.supports] at hp
    exact hp
  exact .const hp _

/-! ### What software buffers are known as -/

theorem settled_metadata (k : Backing) (f : Focus) :
    (settled k f).buffer.metadata = f.buffer.metadata := rfl

theorem settled_known (k : Backing) (f : Focus) : (settled k f).known = f.known :=
  Focus.known_congr (settled_supported k f) (settled_metadata k f)

/-- The buffer came to have a handle. It is known to the library, as the one that it was when only
its size and format had been chosen. -/
structure Known (f f' : Focus) : Prop where
  supported : f'.host.supported = f.host.supported
  handle : f'.buffer.import?.isSome
  known : ∃ known, f'.known = .ok known
  relaid : Metadata.Relaid f.buffer.metadata f'.buffer.metadata

theorem create_known (hu : flags.intersects .software = true) (hf : f.buffer.Shaped) :
    Yields (create a flags) f (fun _ f' => Known f f') (fun _ _ => True) := by
  apply ((create_made a flags f).and (create_ends a flags hf)).imp_ok
  intro _ f' h
  obtain ⟨hmade, hhandle⟩ := h
  rw [hu] at hhandle
  generalize hnone : (none : Option Error) = failure at hmade
  cases hmade with
  | early | uncopied | refused | unseen | freed => cases hnone
  | bare => cases hhandle
  | held hb ho =>
    obtain ⟨es, scanout, ht, -⟩ := hb.takes
    obtain ⟨m, hplaced, hb₁⟩ := hb.placed
    refine ⟨?_, hhandle, ?_, ?_⟩
    · rw [settled_supported, ho.supported, ht.supported]
    · rw [settled_known, Focus.known_congr ho.supported (by rw [ho.buffer])]
      exact ⟨_, ho.known⟩
    · rw [settled_metadata, ho.buffer, hb₁]
      exact hplaced.relaid.modifier _

theorem importForMapping_known (data : ImportData) (hu : data.useFlags.intersects .software = true)
    (f : Focus) :
    Yields (importForMapping a data) f
      (fun i f' => i.isSome ∧ f'.host.supported = f.host.supported ∧ f'.buffer = f.buffer ∧
        ∃ known, f.known = .ok known) (fun _ _ => True) := by
  unfold importForMapping
  rw [if_pos hu, yields_bind]
  apply (requireContext_idles a true f).imp_ok
  intro c f₁ h
  obtain ⟨⟨es, ht, -⟩, hb⟩ := h
  cases data.descriptors with
  | nil => exact trivial
  | cons d rest =>
    rw [yields_map]
    apply (importOn_offers c f₁ d _ _ _).imp_ok
    intro i f₂ h
    obtain ⟨-, request, ho⟩ := h
    rw [← Focus.known_congr ht.supported (by rw [hb])]
    exact ⟨rfl, ho.supported.trans ht.supported, ho.buffer.trans hb, _, ho.known⟩

theorem importData_known (data : ImportData) (hu : data.useFlags.intersects .software = true)
    (hf : f.buffer.Shaped) :
    Yields (importData a data) f (fun _ f' => Known f f') (fun _ _ => True) := by
  unfold importData
  simp only [yields_bind, yields_get]
  split
  · exact trivial
  split
  · exact trivial
  rename_i hcount
  rw [yields_bind]
  apply (takeDescriptors_yields (Nat.le_of_not_lt hcount)).imp_ok
  rintro _ _ ⟨rfl, rfl, -⟩
  rw [yields_bind]
  apply (importForMapping_known a data hu (f.copied _)).imp_ok
  intro i f₁ h
  obtain ⟨hi, hs, hb, hk⟩ := h
  apply (settle_yields _ f₁).imp_ok
  rintro _ _ ⟨rfl, -⟩
  refine ⟨(settled_supported _ _).trans hs, ?_, ?_, ?_⟩
  · rw [settled, attach_import]
    exact hi
  · rw [settled_known, Focus.known_congr hs (by rw [hb])]
    exact hk
  · rw [settled_metadata, hb]
    exact hf.relaid.metadata

section

variable {f' : Focus} (h : Known f f')

include h

theorem Known.mapsAt_own (hn : f.host.supports f.buffer.metadata.format = true) :
    f'.buffer.MapsAt f.host.supported f.buffer.metadata.width f.buffer.metadata.height := by
  obtain ⟨i, hi⟩ := Option.isSome_iff_exists.mp h.handle
  have hk : f'.known = .ok (f.buffer.metadata.width, f.buffer.metadata.height,
      f.buffer.metadata.format) := by
    rw [Focus.known, Host.known, Host.supports_congr h.supported, h.relaid.format, hn,
      ← h.relaid.width, ← h.relaid.height, ← h.relaid.format]
    rfl
  rw [← h.supported]
  exact mapsAt_of_known hi hk

theorem Known.mapsAt_bytes (hn : f.host.supports f.buffer.metadata.format = false) :
    ∃ size, size.toNat = f'.buffer.metadata.totalSize.toNat ∧
      f'.buffer.MapsAt f.host.supported size 1 := by
  obtain ⟨i, hi⟩ := Option.isSome_iff_exists.mp h.handle
  obtain ⟨⟨width, height, format⟩, hk⟩ := h.known
  have hmaps := mapsAt_of_known hi hk
  rw [h.supported] at hmaps
  rw [Focus.known, Host.known, Host.supports_congr h.supported, h.relaid.format, hn] at hk
  obtain ⟨size, hsize, hk⟩ := bind_eq_ok.mp hk
  cases hk
  exact ⟨width, narrow_ok hsize, hmaps⟩

end

theorem createBuffer_known (width height : UInt32) (format : Format)
    (hu : flags.intersects .software = true) (f : Focus) :
    Yields ((backend a).createBuffer width height format flags) f
      (fun _ f' => ∃ m, (m.width = width ∧ m.height = height ∧ m.format = format) ∧
        Known (onNew m f) f' ∧ (onNew m f).OwnPassable) (fun _ _ => True) := by
  unfold Backend.createBuffer
  simp only [yields_bind, yields_ofExcept, yields_modify]
  refine ⟨fun m hm => ?_, fun _ _ => trivial⟩
  have hnew : (onNew m f).buffer.Shaped :=
    ⟨(Metadata.unplaced_shaped hm).1, fun p _ => Planes.entry_zero p⟩
  exact ((create_known a flags hu hnew).and (create_passable a flags (onNew m f))).imp_ok
    fun _ _ h => ⟨m, unplaced_ok hm, h⟩

theorem importBuffer_known {data : ImportData} {act : FocusM Unit}
    (hact : (backend a).importBuffer data = some act)
    (hu : data.useFlags.intersects .software = true) (f : Focus) :
    Yields act f
      (fun _ f' => ∃ m, (m.width = data.width ∧ m.height = data.height ∧ m.format = data.format) ∧
        Known (onNew m f) f') (fun _ _ => True) := by
  obtain ⟨described, hd, rfl⟩ := Option.map_eq_some_iff.mp hact
  unfold Backend.wrapBuffer
  simp only [yields_bind, yields_ofExcept, yields_modify]
  refine ⟨fun m hm => ?_, fun _ _ => trivial⟩
  rw [hm] at hd
  obtain ⟨m₀, hm₀, hr⟩ := ImportData.metadata_relays hd
  obtain ⟨hwidth, hheight, hformat⟩ := unplaced_ok hm₀
  have hnew : (onNew m f).buffer.Shaped := ⟨hr.shaped, fun p _ => Planes.entry_zero p⟩
  exact (importData_known a data hu hnew).imp_ok fun _ _ h => ⟨m, ⟨hr.width.trans hwidth,
    hr.height.trans hheight, hr.format.trans hformat⟩, h⟩

/-- What is created or imported to be mapped has a size at which the library is called to map it,
where this can be passed: its own size in a native format, and one row of all its bytes otherwise.
Only in the former case, and for more than a row of bytes, has creation made sure that it can. -/
theorem software_mappable (f f' : Focus) :
    (∀ width height format (flags : UseFlags), flags.intersects .software = true →
      (backend a).createBuffer width height format flags f = .ok () f' →
      if f.host.supports format then
        f'.buffer.MapsAt f.host.supported width height ∧
          (¬(format = .r8 ∧ height = 1) → Passable width height)
      else ∃ size, size.toNat = f'.buffer.metadata.totalSize.toNat ∧
        f'.buffer.MapsAt f.host.supported size 1) ∧
    ∀ (data : ImportData) (act : FocusM Unit), data.useFlags.intersects .software = true →
      (backend a).importBuffer data = some act → act f = .ok () f' →
      if f.host.supports data.format then
        f'.buffer.MapsAt f.host.supported data.width data.height
      else ∃ size, size.toNat = f'.buffer.metadata.totalSize.toNat ∧
        f'.buffer.MapsAt f.host.supported size 1 := by
  constructor
  · intro width height format flags hu hr
    obtain ⟨m, ⟨rfl, rfl, rfl⟩, hknown, hown⟩ :=
      (createBuffer_known a flags width height format hu f).of_ok hr
    split
    · rename_i hnative
      exact ⟨hknown.mapsAt_own hnative, hown hnative⟩
    · rename_i hnative
      exact hknown.mapsAt_bytes (Bool.eq_false_iff.mpr hnative)
  · intro data act hu hact hr
    obtain ⟨m, ⟨hwidth, hheight, hformat⟩, hknown⟩ := (importBuffer_known a hact hu f).of_ok hr
    rw [← hwidth, ← hheight, ← hformat]
    split
    · rename_i hnative
      exact hknown.mapsAt_own hnative
    · rename_i hnative
      exact hknown.mapsAt_bytes (Bool.eq_false_iff.mpr hnative)

/-- The creation of some rows of bytes, which the library supports. -/
def createRows : FocusM Unit :=
  (backend ⟨.supplied, .linked⟩).createBuffer 64 4 .r8 .softwareReadOften

theorem software_mappable_rows : ∃ f', createRows { host := { supported := [.r8] } } = .ok () f' ∧
    f'.buffer.MapsAt [.r8] 64 4 ∧ Passable 64 4 := by
  have hrun : ∃ u f', createRows { host := { supported := [.r8] } } = .ok u f' ∧ True :=
    Yields.exists_ok (by decide +kernel)
  obtain ⟨_, f', hr, -⟩ := hrun
  obtain ⟨hcreated, -⟩ :=
    software_mappable ⟨.supplied, .linked⟩ { host := { supported := [.r8] } } f'
  have h := hcreated 64 4 .r8 .softwareReadOften (by decide) hr
  rw [if_pos (by decide)] at h
  exact ⟨f', hr, h.1, h.2 (by decide)⟩

end Allocator

namespace Session

/-- A buffer of two gigabytes is created to be mapped. Its format is not native, so that it is known
as one row of bytes. -/
def vast : Session :=
  (start ⟨.supplied, .linked⟩ {}).1.run
    [.create 0 0 ⟨16384, 16384, .abgr16161616f, .softwareReadOften⟩]

/-- It has a handle, and its driver has a context; but the library is not called to map it. -/
theorem map_of_vast : Reachable vast ∧ (vast.contextOf 0).isSome ∧
    ((vast.buffers.get? 0).bind Buffer.import?).isSome ∧
    (vast.step (.map 0 0 0 ⟨0⟩)).2 = .failed .conversion ∧
    (vast.step (.map 0 0 0 ⟨0⟩)).1.host.events = vast.host.events :=
  ⟨(Reachable.start ⟨.supplied, .linked⟩ rfl rfl).run _, by decide +kernel, by decide +kernel,
    by decide +kernel, by decide +kernel⟩

end Session

end GraphicsBuffers
