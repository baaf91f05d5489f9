import GraphicsBuffers.Proofs.Creation

/-!
A buffer that was allocated here can be imported elsewhere from what is known of it here. The two
sides meet in how planes lie: allocation lays them one behind the other, and import accepts planes
that do.
-/

namespace GraphicsBuffers

/-- A buffer as it is allocated: its planes share one descriptor. -/
structure Buffer.Shares (b : Buffer) (d : Descriptor) : Prop where
  laid : b.metadata.Laid
  backing : ∃ k, b.backing? = some k ∧ k.descriptors = List.replicate b.metadata.numPlanes d
  inodes : b.inodes =
    Allocator.inodesFrom 0 (List.replicate b.metadata.numPlanes d) Planes.zero

/-! ### Allocation -/

namespace Allocator

theorem settled_shares {flags : UseFlags} {m : Metadata} {plan : Plan} {al : Vendor.Allocation}
    {f f₁ f₂ : Focus} (h : Backed flags (onNew m f) plan al f₁) (hb : f₂.buffer = f₁.buffer)
    (imported : Option Import) (stride : UInt32) :
    (settled ⟨List.replicate f₂.buffer.metadata.numPlanes al.descriptor, imported, stride⟩
      f₂).buffer.Shares al.descriptor := by
  obtain ⟨m', hp, hb₁⟩ := h.placed
  have hinodes : f₂.buffer.inodes = Planes.zero := by
    rw [hb, hb₁]
    rfl
  refine ⟨?_, ⟨_, rfl, rfl⟩, congrArg (inodesFrom 0 _) hinodes⟩
  change f₂.buffer.metadata.Laid
  rw [hb, hb₁]
  exact hp.laid.pad (Nat.le_refl _) _

/-- What is allocated shares one descriptor, and its planes lie one behind the other. -/
theorem createBuffer_shares (a : Allocator) (width height : UInt32) (format : Format)
    (flags : UseFlags) (f : Focus) :
    Yields ((backend a).createBuffer width height format flags) f
      (fun _ f' => ∃ d, f'.buffer.Shares d) (fun _ _ => True) := by
  apply (createBuffer_made a flags f width height format).imp_ok
  intro _ f' h
  obtain ⟨m, -, hm⟩ := h
  obtain ⟨_, al, _, _, _, hb, hbuffer, -, rfl⟩ := hm.attached
  exact ⟨al.descriptor, settled_shares hb hbuffer _ _⟩

end Allocator

/-! ### Import -/

/-- What another driver is told of a buffer, with the descriptors of its planes. -/
def Metadata.handover (m : Metadata) (ds : List Descriptor) (use : UseFlags) : ImportData where
  descriptors := ds
  strides := m.strides
  offsets := m.offsets
  modifier := m.modifier
  width := m.width
  height := m.height
  format := m.format
  useFlags := use

namespace ImportData

/-- The planes before `p` are recorded in `x` as they are in `m`, where the last may have another
size, and no others are. -/
structure Copied (m x : Metadata) (p : Nat) : Prop where
  placed : ∀ q < p, x.strides.entry q = m.strides.entry q ∧ x.offsets.entry q = m.offsets.entry q
  sizes : ∀ q < p, q + 1 < m.numPlanes → x.sizes.entry q = m.sizes.entry q
  rest : ∀ q, p ≤ q → x.strides.entry q = 0 ∧ x.offsets.entry q = 0

variable {m x : Metadata} {ds : List Descriptor} {use : UseFlags} {p offset stop : Nat} {S : UInt64}

theorem Copied.record (h : Copied m x p) (hp : p < 4) {stop total : UInt64}
    (hs : p + 1 < m.numPlanes → (m.handover ds use).planeSize p stop = m.sizes.entry p) :
    Copied m ((m.handover ds use).recordPlane p stop total x) (p + 1) := by
  obtain ⟨hstride, hoffset, hsize⟩ := recordPlane_self (m.handover ds use) p stop total x hp
  have hother {q : Nat} (hpq : p ≠ q) := recordPlane_other (m.handover ds use) p stop total x hpq
  refine ⟨fun q hq => ?_, fun q hq hn => ?_, fun q hq => ?_⟩
  · by_cases hpq : p = q
    · subst hpq
      exact ⟨hstride, hoffset⟩
    · obtain ⟨hstride', hoffset', -⟩ := hother hpq
      rw [hstride', hoffset']
      exact h.placed q (by omega)
  · by_cases hpq : p = q
    · subst hpq
      exact hsize.trans (hs hn)
    · obtain ⟨-, -, hsize'⟩ := hother hpq
      rw [hsize']
      exact h.sizes q (by omega) hn
  · have hpq : p ≠ q := by omega
    obtain ⟨hstride', hoffset', -⟩ := hother hpq
    rw [hstride', hoffset']
    exact h.rest q (by omega)

theorem placePlanes_nil (data : ImportData) (count p : Nat) (x : Metadata) :
    placePlanes data count p [] x = some (.ok x) := rfl

theorem placePlanes_cons {data : ImportData} {count : Nat} {d : Descriptor} {stop : UInt64}
    (hd : d.size = .ok S) (hend : planeEnd data count p S = stop)
    (hlow : (data.offsets.entry p).toNat ≤ stop.toNat) (hhigh : stop.toNat ≤ S.toNat) :
    placePlanes data count p (d :: ds) x =
      (placePlane data p stop x).bind (placePlanes data count (p + 1) ds) := by
  have hfits : ¬(stop < (data.offsets.entry p).toUInt64 ∨ S < stop) := by
    simp only [UInt64.lt_iff_toNat_lt, UInt32.toNat_toUInt64]
    omega
  simp only [placePlanes, hd, hend]
  rw [if_neg hfits]

theorem planeSize_toNat {data : ImportData} {stop : UInt64}
    (h : (data.offsets.entry p).toNat ≤ stop.toNat) :
    (data.planeSize p stop).toNat = stop.toNat - (data.offsets.entry p).toNat := by
  unfold planeSize
  rw [UInt64.toNat_sub_of_le _ _ (by rwa [UInt64.le_iff_toNat_le, UInt32.toNat_toUInt64]),
    UInt32.toNat_toUInt64]

/-- Where the planes so far lie one behind the other, their total is where the last one stops, and
cannot overflow. -/
theorem placePlane_behind (data : ImportData) {stop : UInt64}
    (hx : x.totalSize.toNat = (data.offsets.entry p).toNat)
    (hlow : (data.offsets.entry p).toNat ≤ stop.toNat) :
    data.placePlane p stop x = some (data.recordPlane p stop stop x) := by
  have hsum : sum? x.totalSize (data.planeSize p stop) = some stop := by
    rw [sum?_eq_some, planeSize_toNat hlow]
    omega
  rw [placePlane, hsum]
  rfl

/-- A plane that stops where the next one starts is recorded as it is. -/
theorem placePlanes_next {d : Descriptor} (hx : Copied m x p) (hp : p + 1 < m.numPlanes)
    (hn : m.numPlanes ≤ 4) (hd : d.size = .ok S)
    (hstart : (m.offsets.entry p).toNat = offset)
    (hnext : (m.offsets.entry (p + 1)).toNat = offset + (m.sizes.entry p).toNat)
    (hpos : 0 < offset + (m.sizes.entry p).toNat)
    (hfit : offset + (m.sizes.entry p).toNat ≤ S.toNat) (htotal : x.totalSize.toNat = offset)
    (ds all : List Descriptor) (use : UseFlags) :
    ∃ x', placePlanes (m.handover all use) m.numPlanes p (d :: ds) x =
        placePlanes (m.handover all use) m.numPlanes (p + 1) ds x' ∧
      Copied m x' (p + 1) ∧ x'.totalSize.toNat = offset + (m.sizes.entry p).toNat ∧
      x'.numPlanes = x.numPlanes ∧ x'.modifier = x.modifier := by
  have hstop : (m.offsets.entry (p + 1)).toUInt64.toNat = offset + (m.sizes.entry p).toNat := by
    rw [UInt32.toNat_toUInt64, hnext]
  have hplane : planeEnd (m.handover all use) m.numPlanes p S =
      (m.offsets.entry (p + 1)).toUInt64 := planeEnd_next _ S hp (by rwa [← hnext] at hpos)
  have hlow : (m.offsets.entry p).toNat ≤ (m.offsets.entry (p + 1)).toUInt64.toNat := by omega
  have hhigh : (m.offsets.entry (p + 1)).toUInt64.toNat ≤ S.toNat := by omega
  have hplaced : (m.handover all use).planeSize p (m.offsets.entry (p + 1)).toUInt64 =
      m.sizes.entry p := by
    apply UInt64.toNat_inj.mp
    rw [planeSize_toNat hlow, hstop]
    change _ - (m.offsets.entry p).toNat = _
    omega
  refine ⟨_, ?_, hx.record (by omega) fun _ => hplaced, hstop, recordPlane_numPlanes _ _ _ _ _,
    recordPlane_modifier _ _ _ _ _⟩
  rw [placePlanes_cons hd hplane hlow hhigh,
    placePlane_behind (m.handover all use) (htotal.trans hstart.symm) hlow]
  rfl

/-- What is left of the descriptor goes to the last plane. -/
theorem placePlanes_last {d : Descriptor} (hx : Copied m x p) (hp : p + 1 = m.numPlanes)
    (hn : m.numPlanes ≤ 4) (hd : d.size = .ok S) (hlow : (m.offsets.entry p).toNat ≤ S.toNat)
    (htotal : x.totalSize.toNat = (m.offsets.entry p).toNat) (all : List Descriptor)
    (use : UseFlags) :
    ∃ x', placePlanes (m.handover all use) m.numPlanes p [d] x = some (.ok x') ∧
      Copied m x' m.numPlanes ∧ x'.totalSize = S ∧
      (x'.sizes.entry p).toNat + (m.offsets.entry p).toNat = S.toNat ∧
      x'.numPlanes = x.numPlanes ∧ x'.modifier = x.modifier := by
  have hplane := planeEnd_last (m.handover all use) S hp
  have hplaced : ((m.handover all use).planeSize p S).toNat =
      S.toNat - (m.offsets.entry p).toNat := planeSize_toNat hlow
  refine ⟨(m.handover all use).recordPlane p S S x, ?_, ?_, rfl, ?_,
    recordPlane_numPlanes _ _ _ _ _, recordPlane_modifier _ _ _ _ _⟩
  · rw [placePlanes_cons hd hplane hlow (Nat.le_refl _),
      placePlane_behind (m.handover all use) htotal hlow]
    exact placePlanes_nil (m.handover all use) m.numPlanes (p + 1) _
  · rw [← hp]
    exact hx.record (by omega) fun h => absurd h (by omega)
  · rw [recordPlane_sizes, Planes.entry_put_self _ _ (by omega), hplaced]
    omega

/-- Planes that lie one behind the other are accepted, and recorded as they are. What is left of the
descriptor goes to the last. -/
theorem placePlanes_copies (hcount : p + ds.length = m.numPlanes) (hne : ds ≠ [])
    (hsize : ∀ d ∈ ds, d.size = .ok S) (hl : m.Lies stop p ds.length offset)
    (hstop : stop ≤ S.toNat) (hpos : 0 < offset + (m.sizes.entry p).toNat)
    (hn : m.numPlanes ≤ 4) (hx : Copied m x p) (htotal : x.totalSize.toNat = offset)
    (all : List Descriptor) (use : UseFlags) :
    ∃ x', placePlanes (m.handover all use) m.numPlanes p ds x = some (.ok x') ∧
      Copied m x' m.numPlanes ∧ x'.totalSize = S ∧
      (x'.sizes.entry (m.numPlanes - 1)).toNat + (m.offsets.entry (m.numPlanes - 1)).toNat =
        S.toNat ∧
      x'.numPlanes = x.numPlanes ∧ x'.modifier = x.modifier := by
  induction ds generalizing p offset x with
  | nil => exact absurd rfl hne
  | cons d rest ih =>
    obtain ⟨hstart, hrest⟩ := hl
    obtain ⟨hd, hsize⟩ := List.forall_mem_cons.mp hsize
    have hend := hrest.le
    cases rest with
    | nil =>
      have hlast : p + 1 = m.numPlanes := hcount
      obtain rfl : p = m.numPlanes - 1 := by omega
      exact placePlanes_last hx hlast hn hd (by omega) (htotal.trans hstart.symm) all use
    | cons d' rest =>
      simp only [List.length_cons] at hcount
      obtain ⟨x', hplaced, hx', htotal', hnum, hmod⟩ := placePlanes_next hx (by omega) hn hd hstart
        hrest.1 hpos (by omega) htotal (d' :: rest) all use
      rw [hplaced, ← hnum, ← hmod]
      exact ih (by simp only [List.length_cons]; omega) (List.cons_ne_nil _ _) hsize hrest
        (by omega) hx' htotal'

theorem handover_metadata (hl : m.Laid) (hfirst : m.sizes.entry 0 ≠ 0)
    (hds : ds.length = m.numPlanes) (hsize : ∀ d ∈ ds, d.size = .ok S) (hfit : m.totalSize ≤ S)
    (use : UseFlags) :
    ∃ x, (m.handover ds use).metadata = some (.ok x) ∧ x.numPlanes = m.numPlanes ∧
      x.strides = m.strides ∧ x.offsets = m.offsets ∧ x.modifier = m.modifier ∧
      (∀ p, p + 1 < m.numPlanes → x.sizes.entry p = m.sizes.entry p) ∧
      (x.sizes.entry (m.numPlanes - 1)).toNat + (m.offsets.entry (m.numPlanes - 1)).toNat =
        S.toNat ∧
      x.totalSize = S := by
  obtain ⟨shapes, hshapes, hlength⟩ := hl.shapes
  obtain ⟨stop, hstop, hlies⟩ := hl.lies
  have hbounds := Format.planes_length hshapes
  have hplanes : m.format.planes = .ok shapes := by simp [Format.planes, hshapes]
  have hne : ds ≠ [] := by
    rintro rfl
    simp only [List.length_nil] at hds
    omega
  let empty : Metadata := {
    width := m.width
    height := m.height
    format := m.format
    useFlags := use
    numPlanes := m.numPlanes
    modifier := m.modifier }
  have hempty : Copied m empty 0 := by
    refine ⟨?_, ?_, fun q _ => ⟨Planes.entry_zero q, Planes.entry_zero q⟩⟩
    · exact fun q hq => absurd hq (Nat.not_lt_zero q)
    · exact fun q hq => absurd hq (Nat.not_lt_zero q)
  have hpos : 0 < 0 + (m.sizes.entry 0).toNat := by
    have : (m.sizes.entry 0).toNat ≠ 0 := fun h => hfirst (UInt64.toNat_inj.mp h)
    omega
  rw [UInt64.le_iff_toNat_le] at hfit
  obtain ⟨x, hx, hcopied, htotal, hlast, hnum, hmod⟩ := placePlanes_copies (p := 0) (x := empty)
    (by omega) hne hsize (by rwa [hds]) (Nat.le_trans hstop hfit) hpos (by omega) hempty rfl ds use
  refine ⟨x, ?_, hnum, ?_, ?_, hmod, ?_, hlast, htotal⟩
  · have hfew : ¬ds.length < m.numPlanes := by omega
    have htake : ds.take m.numPlanes = ds := List.take_of_length_le (Nat.le_of_eq hds)
    simp only [metadata, Metadata.unplaced, Metadata.handover, hplanes, hlength, bind, Except.bind,
      pure, Except.pure, if_neg hfew, htake]
    exact hx
  · exact Planes.ext_split (fun p hp => (hcopied.placed p hp).1)
      fun p hp => (hcopied.rest p hp).1.trans (hl.rest p hp).1.symm
  · exact Planes.ext_split (fun p hp => (hcopied.placed p hp).2)
      fun p hp => (hcopied.rest p hp).2.trans (hl.rest p hp).2.1.symm
  · exact fun p hp => hcopied.sizes p (by omega) hp

end ImportData

theorem Backend.importBuffer_described (b : Backend) {data : ImportData}
    {described : Except Error Metadata} (h : data.metadata = some described) :
    b.importBuffer data = some (b.wrapBuffer data described) := by
  rw [importBuffer, h]
  rfl

namespace Allocator

/-- Valid memory that is not to be mapped is wrapped, whatever the driver. -/
theorem wrapBuffer_wraps (a : Allocator) {data : ImportData} {x : Metadata} (g : Focus)
    (hn : x.numPlanes ≤ data.descriptors.length) (hu : data.useFlags.intersects .software = false)
    (hd : Unfailing g.host.answers.duplicates) (hi : Unfailing g.host.answers.inspections) :
    Yields ((backend a).wrapBuffer data (.ok x)) g
      (fun _ g' => g' = settled ⟨data.descriptors.take x.numPlanes, none, 0⟩
        ((onNew x g).copied x.numPlanes))
      (fun _ _ => False) := by
  unfold Backend.wrapBuffer
  rw [yields_bind, yields_ofExcept_ok rfl, yields_bind, yields_modify]
  change Yields (importData a data) (onNew x g) _ _
  unfold importData
  have hnew : (onNew x g).buffer.state.isSome = false := rfl
  have hfew : ¬data.descriptors.length < (onNew x g).buffer.metadata.numPlanes :=
    Nat.not_lt.mpr hn
  simp only [yields_bind, yields_get, hnew, Bool.false_eq_true, ↓reduceIte, if_neg hfew]
  apply (takeDescriptors_yields (Nat.le_of_not_lt hfew)).imp
  · rintro _ _ ⟨rfl, rfl, -⟩
    simp only [importForMapping, hu, Bool.false_eq_true, ↓reduceIte, yields_pure]
    apply (settle_yields _ _).imp
    · rintro _ _ ⟨rfl, -⟩
      rfl
    · rintro _ _ ⟨n, inodes, code, -, -, hfault⟩
      exact hi.not_fault hfault
  · rintro _ _ ⟨n, code, -, -, hfault⟩
    exact hd.not_fault hfault

/-- A plane of a buffer that shares one descriptor comes as a duplicate of it. -/
theorem bufferPlane_shared (a : Allocator) {b : Buffer} {d : Descriptor} {plane : Nat}
    (h : b.Shares d) (hp : plane < b.metadata.numPlanes) :
    (backend a).bufferPlane b plane = HostM.duplicate d := by
  obtain ⟨k, hk, hdescriptors⟩ := h.backing
  unfold Backend.bufferPlane
  rw [if_neg (Nat.not_le.mpr hp)]
  simp [backend, planeDescriptor, hk, hdescriptors, hp]

theorem bufferPlanes_shared (a : Allocator) {b : Buffer} {d : Descriptor} (h : b.Shares d)
    (planes : List Nat) (hp : ∀ plane ∈ planes, plane < b.metadata.numPlanes) :
    planes.mapM ((backend a).bufferPlane b) =
      (List.replicate planes.length d).mapM HostM.duplicate := by
  induction planes with
  | nil => rfl
  | cons plane rest ih =>
    rw [List.mapM_cons, bufferPlane_shared a h (hp plane List.mem_cons_self),
      ih fun q hq => hp q (List.mem_cons_of_mem _ hq), List.length_cons, List.replicate_succ,
      List.mapM_cons]

/-- Every plane of a buffer that was allocated here can be exported. With these descriptors, which
all reach as far as the planes, it can be imported elsewhere, and lies there as it lies here. -/
theorem export_import (a a' : Allocator) {width height : UInt32} {format : Format}
    {flags : UseFlags} {f f' : Focus}
    (hc : (backend a).createBuffer width height format flags f = .ok () f')
    (hfirst : f'.buffer.metadata.sizes.entry 0 ≠ 0) :
    ∃ ds, (∀ h, Unfailing h.answers.duplicates →
        ∃ h', (List.range f'.buffer.metadata.numPlanes).mapM
          ((backend a).bufferPlane f'.buffer) h = .ok ds h') ∧
      ∀ S use g, Unfailing g.host.answers.duplicates → Unfailing g.host.answers.inspections →
        (∀ d ∈ ds, d.size = .ok S) → f'.buffer.metadata.totalSize ≤ S →
        use.intersects .software = false →
        ∃ act g', (backend a').importBuffer (f'.buffer.metadata.handover ds use) = some act ∧
          act g = .ok () g' ∧
          g'.buffer.metadata.numPlanes = f'.buffer.metadata.numPlanes ∧
          g'.buffer.metadata.strides = f'.buffer.metadata.strides ∧
          g'.buffer.metadata.offsets = f'.buffer.metadata.offsets ∧
          g'.buffer.metadata.modifier = f'.buffer.metadata.modifier ∧
          g'.buffer.inodes = f'.buffer.inodes ∧
          (∀ p, p + 1 < f'.buffer.metadata.numPlanes →
            g'.buffer.metadata.sizes.entry p = f'.buffer.metadata.sizes.entry p) ∧
          (g'.buffer.metadata.sizes.entry (f'.buffer.metadata.numPlanes - 1)).toNat +
            (f'.buffer.metadata.offsets.entry (f'.buffer.metadata.numPlanes - 1)).toNat =
              S.toNat ∧
          g'.buffer.metadata.totalSize = S := by
  obtain ⟨d, hshares⟩ := (createBuffer_shares a width height format flags f).of_ok hc
  generalize f'.buffer = b at hfirst hshares ⊢
  have hlength := List.length_replicate (n := b.metadata.numPlanes) (a := d)
  refine ⟨List.replicate b.metadata.numPlanes d, fun h hh => ?_,
    fun S use g hd hi hsize hfit hu => ?_⟩
  · have hexport := duplicates_yields (List.replicate b.metadata.numPlanes d) h
    rw [bufferPlanes_shared a hshares _ fun p hp => List.mem_range.mp hp, List.length_range]
    cases hr : (List.replicate b.metadata.numPlanes d).mapM HostM.duplicate h with
    | ok ds h' =>
      obtain ⟨rfl, -⟩ := hexport.of_ok hr
      exact ⟨h', rfl⟩
    | error e h' =>
      obtain ⟨_, code, -, -, hfault⟩ := hexport.of_error hr
      exact (hh.not_fault hfault).elim
  · obtain ⟨x, hx, hnum, hstrides, hoffsets, hmod, hsizes, hlast, htotal⟩ :=
      ImportData.handover_metadata hshares.laid hfirst hlength hsize hfit use
    have himport := (backend a').importBuffer_described hx
    have hreach : x.numPlanes ≤ (List.replicate b.metadata.numPlanes d).length :=
      Nat.le_of_eq (hnum.trans hlength.symm)
    have hwrap : Yields ((backend a').wrapBuffer (b.metadata.handover _ use) (.ok x)) g _ _ :=
      wrapBuffer_wraps a' g hreach hu hd hi
    obtain ⟨_, g', hg, rfl⟩ := hwrap.exists_ok
    refine ⟨_, _, himport, hg, hnum, hstrides, hoffsets, hmod, ?_, hsizes, hlast, htotal⟩
    rw [hshares.inodes]
    change inodesFrom 0 ((List.replicate b.metadata.numPlanes d).take x.numPlanes) Planes.zero = _
    rw [hnum, List.take_of_length_le (Nat.le_of_eq hlength)]

/-- The allocation of a buffer in a format of two planes that travels as bytes. -/
def allocateNv12 : EStateM.Result Error Focus Unit :=
  (backend ⟨.supplied, .linked⟩).createBuffer 64 4 .nv12 .texture { host := {} }

theorem export_import_nv12 : ∃ f' ds h' act g', allocateNv12 = .ok () f' ∧
    f'.buffer.metadata.sizes.entry 0 ≠ 0 ∧
    (List.range 2).mapM ((backend ⟨.supplied, .linked⟩).bufferPlane f'.buffer) {} = .ok ds h' ∧
    (backend ⟨.supplied, .linked⟩).importBuffer (f'.buffer.metadata.handover ds .texture) =
      some act ∧
    act { host := {} } = .ok () g' ∧ g'.buffer.metadata.totalSize = 65536 := by
  have hrun : (match allocateNv12 with
      | .ok _ f => decide (f.buffer.metadata.sizes.entry 0 ≠ 0 ∧
          f.buffer.metadata.numPlanes = 2 ∧ f.buffer.metadata.totalSize ≤ 65536) &&
        match (List.range 2).mapM ((backend ⟨.supplied, .linked⟩).bufferPlane f.buffer) {} with
        | .ok ds _ => decide (ds = [.memory 1 65536, .memory 1 65536])
        | .error .. => false
      | .error .. => false) = true := by decide +kernel
  cases hc : allocateNv12 with
  | error e f =>
    rw [hc] at hrun
    cases hrun
  | ok _ f' =>
    rw [hc] at hrun
    obtain ⟨hlayout, hplanes⟩ := Bool.and_eq_true_iff.mp hrun
    obtain ⟨hfirst, hnum, hfit⟩ := of_decide_eq_true hlayout
    obtain ⟨ds, hexport, himport⟩ :=
      export_import ⟨.supplied, .linked⟩ ⟨.supplied, .linked⟩ hc hfirst
    obtain ⟨h', hds⟩ := hexport {} nofun
    rw [hnum] at hds
    rw [hds] at hplanes
    obtain rfl := of_decide_eq_true hplanes
    obtain ⟨act, g', hact, hg, -, -, -, -, -, -, -, htotal⟩ :=
      himport 65536 .texture { host := {} } nofun nofun (by simp [Descriptor.size]) hfit (by decide)
    exact ⟨f', _, h', act, g', rfl, hfirst, hds, hact, hg, htotal⟩

end Allocator

end GraphicsBuffers
