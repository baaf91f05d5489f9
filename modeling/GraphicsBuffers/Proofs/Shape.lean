import GraphicsBuffers.Proofs.Mapping

/-!
What every operation keeps of a buffer: as many planes as its format has, and nothing recorded
past the last of them. This holds where an operation fails half-way, too.
-/

namespace GraphicsBuffers

/-! ### Metadata -/

namespace Metadata

/-- The planes are those of the format, and nothing is recorded of others. -/
structure Shaped (m : Metadata) : Prop where
  planes : ∃ shapes, m.format.planes? = some shapes ∧ shapes.length = m.numPlanes
  rest : ∀ p, m.numPlanes ≤ p →
    m.strides.entry p = 0 ∧ m.offsets.entry p = 0 ∧ m.sizes.entry p = 0

/-- The planes of a buffer, or some of them, were placed anew. -/
structure Relaid (m m' : Metadata) : Prop where
  width : m'.width = m.width
  height : m'.height = m.height
  format : m'.format = m.format
  useFlags : m'.useFlags = m.useFlags
  shaped : m'.Shaped

/-- Only what is recorded of planes differs, and nothing of those from `p` on. -/
structure SameFrom (p : Nat) (m m' : Metadata) : Prop where
  entries : ∀ q, p ≤ q → m'.strides.entry q = m.strides.entry q ∧
    m'.offsets.entry q = m.offsets.entry q ∧ m'.sizes.entry q = m.sizes.entry q
  others : Framed m m'

variable {m m' m'' : Metadata} {p n : Nat}

theorem Laid.shaped (h : m.Laid) : m.Shaped := ⟨h.shapes, h.rest⟩

theorem Shaped.numPlanes_le (h : m.Shaped) : m.numPlanes ≤ 4 := by
  obtain ⟨shapes, hs, hn⟩ := h.planes
  rw [← hn]
  exact (Format.planes_length hs).2

/-- The planes are as many as before: a buffer's format does not change. -/
theorem Relaid.numPlanes (h : Relaid m m') (hm : m.Shaped) : m'.numPlanes = m.numPlanes := by
  obtain ⟨shapes, hs, hn⟩ := hm.planes
  obtain ⟨shapes', hs', hn'⟩ := h.shaped.planes
  rw [h.format, hs] at hs'
  cases hs'
  rw [← hn, hn']

theorem Relaid.modifier (h : Relaid m m') (modifier : UInt64) :
    Relaid m { m' with modifier } :=
  ⟨h.width, h.height, h.format, h.useFlags, h.shaped.planes, h.shaped.rest⟩

theorem SameFrom.refl (p : Nat) (m : Metadata) : SameFrom p m m :=
  ⟨fun _ _ => ⟨rfl, rfl, rfl⟩, rfl⟩

theorem SameFrom.trans (h : SameFrom p m m') (h' : SameFrom p m' m'') : SameFrom p m m'' := by
  refine ⟨fun q hq => ?_, ?_⟩
  · obtain ⟨hr, ho, hs⟩ := h.entries q hq
    obtain ⟨hr', ho', hs'⟩ := h'.entries q hq
    exact ⟨hr'.trans hr, ho'.trans ho, hs'.trans hs⟩
  · have hothers := h'.others
    rw [Framed, h.others] at hothers
    exact hothers

theorem sameFrom_size (m : Metadata) (row : UInt32) (size : UInt64) (h : p < n) :
    SameFrom n m ((m.setStride p row).setSize p size) := by
  refine ⟨fun q hq => ?_, rfl⟩
  have hpq : p ≠ q := by omega
  exact ⟨Planes.entry_put_other _ _ hpq, rfl, Planes.entry_put_other _ _ hpq⟩

theorem sameFrom_offset (m : Metadata) (start : UInt32) (h : p < n) :
    SameFrom n m (m.setOffset p start) := by
  refine ⟨fun q hq => ?_, rfl⟩
  have hpq : p ≠ q := by omega
  exact ⟨rfl, Planes.entry_put_other _ _ hpq, rfl⟩

theorem SameFrom.relaid (h : SameFrom m.numPlanes m m') (hm : m.Shaped) : Relaid m m' := by
  have hothers := h.others
  rw [Framed] at hothers
  have hformat : m'.format = m.format := by rw [hothers]
  have hnum : m'.numPlanes = m.numPlanes := by rw [hothers]
  refine ⟨by rw [hothers], by rw [hothers], hformat, by rw [hothers], ?_, fun p hp => ?_⟩
  · rw [hformat, hnum]
    exact hm.planes
  · rw [hnum] at hp
    obtain ⟨hr, ho, hs⟩ := h.entries p hp
    rw [hr, ho, hs]
    exact hm.rest p hp

theorem Linear.relaid {stride height : UInt32} {shapes : List PlaneShape}
    (h : Linear stride height shapes m m') (hs : m.format.planes? = some shapes) :
    Relaid m m' := by
  obtain ⟨hl, hformat⟩ := h.laid hs
  refine ⟨?_, ?_, hformat, ?_, hl.shaped⟩ <;> rw [h.others]

theorem layPlanes_from (format : Format) (first : PlaneShape) (stride height : UInt32)
    (shapes : List PlaneShape) (offset : UInt64) (hp : p + shapes.length ≤ n) :
    Yields (layPlanes format first stride height p offset shapes) m
      (fun _ m' => SameFrom n m m') (fun _ m' => SameFrom n m m') := by
  induction shapes generalizing p offset m with
  | nil => exact .refl n m
  | cons shape shapes ih =>
    simp only [List.length_cons] at hp
    have hlt : p < n := by omega
    unfold layPlanes
    simp only [yields_bind, yields_ofExcept, yields_modify]
    refine ⟨fun row _ => ⟨fun size _ => ⟨fun start _ => ⟨fun next _ => ?_, fun _ _ => ?_⟩,
      fun _ _ => sameFrom_size m row size hlt⟩, fun _ _ => .refl n m⟩, fun _ _ => .refl n m⟩
    · have hhere := (sameFrom_size m row size hlt).trans (sameFrom_offset _ start hlt)
      exact (ih next (by omega)).imp (fun _ _ h => hhere.trans h) fun _ _ h => hhere.trans h
    · exact (sameFrom_size m row size hlt).trans (sameFrom_offset _ start hlt)

theorem layOut_from {shapes : List PlaneShape} (format : Format) (stride height : UInt32)
    (hs : format.planes? = some shapes) :
    Yields (layOut format stride height) m (fun _ _ => True)
      (fun _ m' => SameFrom shapes.length m m') := by
  unfold layOut
  simp only [yields_bind, yields_ofExcept, yields_modify]
  refine ⟨fun shapes' hs' => ?_, fun _ _ => .refl _ m⟩
  cases hs.symm.trans (Format.planes_ok hs')
  exact (layPlanes_from format _ stride height shapes 0 (by omega)).imp_error fun _ _ h => h

/-- A layout that fails has recorded no planes but those of the format. -/
theorem layOut_relays (stride height : UInt32) (hm : m.Shaped) :
    Yields (layOut m.format stride height) m (fun _ m' => Relaid m m')
      (fun _ m' => Relaid m m') := by
  obtain ⟨shapes, hs, hn⟩ := hm.planes
  have hfrom := layOut_from (m := m) m.format stride height hs
  rw [hn] at hfrom
  apply ((layOut_linear m.format stride height m rfl).and hfrom).imp
  · intro _ m' h
    obtain ⟨⟨shapes', hs', hl⟩, -⟩ := h
    exact hl.relaid hs'
  · exact fun _ m' h => h.2.relaid hm

theorem unplaced_shaped {width height : UInt32} {format : Format} {flags : UseFlags}
    (h : unplaced width height format flags = .ok m) : m.Shaped ∧ m.useFlags = flags := by
  obtain ⟨shapes, hs, h⟩ := bind_eq_ok.mp h
  cases h
  refine ⟨⟨⟨shapes, Format.planes_ok hs, rfl⟩, fun p _ => ?_⟩, rfl⟩
  exact ⟨Planes.entry_zero p, Planes.entry_zero p, Planes.entry_zero p⟩

end Metadata

theorem Plan.Placed.relaid {m m' : Metadata} {flags : UseFlags} {stride : UInt32} {native : Bool}
    {plan : Plan} (h : Placed m flags stride native plan m') : Metadata.Relaid m m' := by
  have hshaped := h.laid.shaped
  cases h with
  | own _ _ hs hl => exact hl.relaid hs
  | row _ hrow hl => exact hl.relaid (by rw [hrow.1]; rfl)
  | bytes h =>
    have hr := h.linear.relaid h.shapes
    exact ⟨hr.width, hr.height, hr.format, hr.useFlags, hshaped⟩

namespace ImportData

open Metadata

variable {data : ImportData} {m m' : Metadata} {p : Nat}

theorem placePlanes_cons_ok {count : Nat} {d : Descriptor} {ds : List Descriptor}
    (h : placePlanes data count p (d :: ds) m = some (.ok m')) :
    ∃ size total, d.size = .ok size ∧
      (data.offsets.entry p).toNat ≤ (data.planeEnd count p size).toNat ∧
      (data.planeEnd count p size).toNat ≤ size.toNat ∧
      sum? m.totalSize (data.planeSize p (data.planeEnd count p size)) = some total ∧
      placePlanes data count (p + 1) ds
        (data.recordPlane p (data.planeEnd count p size) total m) = some (.ok m') := by
  unfold placePlanes at h
  split at h
  · cases h
  rename_i size hsize
  dsimp only at h
  split at h
  · cases h
  rename_i hfits
  simp only [UInt64.lt_iff_toNat_lt, UInt32.toNat_toUInt64, not_or, Nat.not_lt] at hfits
  obtain ⟨placed, hplaced, h⟩ := Option.bind_eq_some_iff.mp h
  obtain ⟨total, htotal, rfl⟩ := Option.map_eq_some_iff.mp hplaced
  exact ⟨size, total, hsize, hfits.1, hfits.2, htotal, h⟩

/-- Only the planes of the descriptors are recorded. -/
theorem placePlanes_relays {count : Nat} {ds : List Descriptor} (hm : m.Shaped)
    (hp : p + ds.length ≤ m.numPlanes) (h : placePlanes data count p ds m = some (.ok m')) :
    Relaid m m' := by
  induction ds generalizing p m with
  | nil =>
    cases h
    exact ⟨rfl, rfl, rfl, rfl, hm⟩
  | cons d ds ih =>
    simp only [List.length_cons] at hp
    obtain ⟨size, total, -, -, -, -, h⟩ := placePlanes_cons_ok h
    have hplaced : (data.recordPlane p (data.planeEnd count p size) total m).Shaped := by
      refine ⟨hm.planes, fun q hq => ?_⟩
      have hq : m.numPlanes ≤ q := hq
      have hpq : p ≠ q := by omega
      obtain ⟨hstride, hoffset, hsize⟩ :=
        recordPlane_other data p (data.planeEnd count p size) total m hpq
      rw [hstride, hoffset, hsize]
      exact hm.rest q hq
    have hrest := ih hplaced (by rw [recordPlane_numPlanes]; omega) h
    exact ⟨hrest.width, hrest.height, hrest.format, hrest.useFlags, hrest.shaped⟩

theorem metadata_ok (h : data.metadata = some (.ok m)) :
    ∃ m₀, unplaced data.width data.height data.format data.useFlags = .ok m₀ ∧
      m₀.numPlanes ≤ data.descriptors.length ∧
      placePlanes data m₀.numPlanes 0 (data.descriptors.take m₀.numPlanes)
        { m₀ with modifier := data.modifier } = some (.ok m) := by
  unfold metadata at h
  split at h
  · cases h
  rename_i m₀ hm₀
  split at h
  · cases h
  rename_i hfew
  exact ⟨m₀, hm₀, Nat.le_of_not_lt hfew, h⟩

/-- What is recorded of imported memory lies within the planes of its format. -/
theorem metadata_relays (h : data.metadata = some (.ok m)) :
    ∃ m₀, unplaced data.width data.height data.format data.useFlags = .ok m₀ ∧ Relaid m₀ m := by
  obtain ⟨m₀, hm₀, -, h⟩ := metadata_ok h
  refine ⟨m₀, hm₀, ?_⟩
  obtain ⟨hshaped, -⟩ := unplaced_shaped hm₀
  have hmod : Shaped { m₀ with modifier := data.modifier } := ⟨hshaped.planes, hshaped.rest⟩
  have htaken : 0 + (data.descriptors.take m₀.numPlanes).length ≤ m₀.numPlanes := by
    rw [List.length_take]
    omega
  have hr := placePlanes_relays hmod htaken h
  exact ⟨hr.width, hr.height, hr.format, hr.useFlags, hr.shaped⟩

end ImportData

/-! ### Buffers -/

namespace Buffer

/-- Nothing is recorded past the planes of the buffer's format. -/
structure Shaped (b : Buffer) : Prop where
  metadata : b.metadata.Shaped
  inodes : ∀ p, b.metadata.numPlanes ≤ p → b.inodes.entry p = 0

/-- The planes were placed anew, if anything happened to the buffer. -/
structure Relaid (b b' : Buffer) : Prop where
  metadata : Metadata.Relaid b.metadata b'.metadata
  inodes : b'.inodes = b.inodes
  state : b'.state = b.state

variable {b b' : Buffer}

theorem Shaped.relaid (h : b.Shaped) : Relaid b b :=
  ⟨⟨rfl, rfl, rfl, rfl, h.metadata⟩, rfl, rfl⟩

theorem Relaid.shaped (h : Relaid b b') (hb : b.Shaped) : b'.Shaped := by
  refine ⟨h.metadata.shaped, fun p hp => ?_⟩
  rw [h.metadata.numPlanes hb.metadata] at hp
  rw [h.inodes]
  exact hb.inodes p hp

end Buffer

/-! ### One operation -/

/-- The buffer stays as it is, and the system has answers left. -/
structure Focus.Retains (f f' : Focus) : Prop where
  buffer : f'.buffer = f.buffer
  system : f'.host.answers.Follows f.host.answers

theorem Focus.Retains.trans {f f' f'' : Focus} (h : f.Retains f') (h' : f'.Retains f'') :
    f.Retains f'' := ⟨h'.buffer.trans h.buffer, h.system.trans h'.system⟩

theorem Focus.copied_retains (f : Focus) (n : Nat) : f.Retains (f.copied n) :=
  ⟨rfl, (Appends.copied (p := Event.IsLog) f.host n).system⟩

namespace Allocator

theorem inodesFrom_other {ds : List Descriptor} {p q : Nat} (inodes : Planes UInt64)
    (h : q < p ∨ p + ds.length ≤ q) : (inodesFrom p ds inodes).entry q = inodes.entry q := by
  induction ds generalizing p inodes with
  | nil => rfl
  | cons d ds ih =>
    simp only [List.length_cons] at h
    have hpq : p ≠ q := by omega
    rw [inodesFrom, ih _ (by omega), Planes.entry_put_other _ _ hpq]

theorem inodesFrom_at {ds : List Descriptor} {d : Descriptor} {p i : Nat}
    (inodes : Planes UInt64) (hd : ds[i]? = some d) (h : p + i < 4) :
    (inodesFrom p ds inodes).entry (p + i) = d.inode := by
  induction ds generalizing p i inodes with
  | nil => cases hd
  | cons d' ds ih =>
    rw [inodesFrom]
    cases i with
    | zero =>
      cases hd
      exact (inodesFrom_other _ (Or.inl (Nat.lt_add_one p))).trans (Planes.entry_put_self _ _ h)
    | succ i =>
      have hnext : p + (i + 1) = p + 1 + i := by omega
      rw [hnext]
      exact ih _ hd (by omega)

variable (a : Allocator) (c : Context) (flags : UseFlags) {f : Focus}

theorem recordLayout_relays {native : Bool} {plan : Plan} (al : Vendor.Allocation)
    (hd : plan.Drawn f.buffer.metadata flags native) (hf : f.buffer.Shaped) :
    Yields (recordLayout plan al f.buffer.metadata.format) f
      (fun _ f' => f.buffer.Relaid f'.buffer) (fun _ f' => f.buffer.Relaid f'.buffer) := by
  unfold recordLayout
  cases hb : plan.blob with
  | some layout => exact ⟨(hd.blob hb al.stride).relaid.modifier _, rfl, rfl⟩
  | none =>
    simp only [yields_bind, yields_onMetadata, yields_modify]
    apply (Metadata.layOut_relays al.stride plan.request.height hf.metadata).imp
    · exact fun _ m h => ⟨h.modifier _, rfl, rfl⟩
    · exact fun _ m h => ⟨h, rfl, rfl⟩

theorem allocateMemory_relays (hf : f.buffer.Shaped) :
    Yields (allocateMemory c flags) f (fun _ f' => f.buffer.Relaid f'.buffer)
      (fun _ f' => f.buffer.Relaid f'.buffer) := by
  unfold allocateMemory
  simp only [yields_bind, yields_get, yields_ofExcept]
  refine ⟨?_, fun _ _ => hf.relaid⟩
  rintro ⟨plan, notes⟩ hplan
  apply (notes_append (p := Event.IsLog) (fun _ _ => trivial) notes f).imp
  · rintro _ _ ⟨h, rfl, -⟩
    simp only [yields_onHost]
    apply (allocPlanned_takes c plan h).imp
    · intro al h₁ _
      apply (recordLayout_relays flags (f := { f with host := h₁ }) al
        (Plan.draw_drawn hplan) hf).imp
      · exact fun _ _ h => h
      · exact fun _ _ h => h
    · exact fun _ _ _ => hf.relaid
  · exact fun _ _ h => h.elim

/-- The import reads the buffer, but does not change it. -/
theorem importOn_keeps (d : Descriptor) (stride : UInt32) (modifier : UInt64) (refused : String)
    (f : Focus) :
    Yields (importOn c d stride modifier refused) f (fun _ f' => f.Retains f')
      (fun _ f' => f.Retains f') := by
  apply (importOn_offers c f d stride modifier refused).imp
  · intro _ f' h
    obtain ⟨-, request, ho⟩ := h
    exact ⟨ho.buffer, ho.system⟩
  · intro _ f' h
    rcases h with ⟨-, rfl⟩ | ⟨-, request, ho⟩
    · exact ⟨rfl, .refl _⟩
    · exact ⟨ho.buffer, ho.system⟩

theorem importAllocated_handle (al : Vendor.Allocation) (f : Focus) :
    Yields (importAllocated c flags al) f
      (fun i f' => i.isSome = flags.intersects .software ∧ f.Retains f')
      (fun _ f' => f.Retains f') := by
  unfold importAllocated
  split
  · rename_i hsoftware
    simp only [yields_bind, yields_get, yields_map]
    exact (importOn_keeps c _ _ _ _ f).imp (fun _ _ h => ⟨hsoftware.symm, h⟩) fun _ _ h => h
  · rename_i hsoftware
    exact ⟨(Bool.eq_false_iff.mpr hsoftware).symm, rfl, .refl _⟩

theorem attachAllocated_ends (al : Vendor.Allocation) (f : Focus) :
    Yields (attachAllocated c flags al) f
      (fun _ f' => f'.buffer.import?.isSome = flags.intersects .software)
      (fun _ f' => Unfailing f.host.answers.inspections → f'.buffer = f.buffer) := by
  unfold attachAllocated
  rw [yields_bind]
  apply (copyPlanes_yields al.descriptor f).imp
  · rintro _ _ ⟨rfl, rfl, -⟩
    rw [yields_bind]
    apply (importAllocated_handle c flags al _).imp
    · intro i f₁ h
      obtain ⟨hi, hretains⟩ := h
      apply (settle_yields _ f₁).imp
      · rintro _ _ ⟨rfl, -⟩
        exact hi
      · rintro _ _ ⟨n, inodes, code, rfl, rfl, hfault⟩ hn
        have hleft := (f.copied_retains _).system.trans hretains.system
        exact ((hn.of_suffix hleft.inspections).not_fault hfault).elim
    · exact fun _ _ hretains _ => hretains.buffer
  · rintro _ _ ⟨n, code, rfl, rfl, -⟩ _
    rfl

/-- A buffer has a handle where it was created to be mapped. Where this fails, but not because of an
inode, it is as before, but for the places of its planes. -/
theorem create_ends (hf : f.buffer.Shaped) :
    Yields (create a flags) f (fun _ f' => f'.buffer.import?.isSome = flags.intersects .software)
      (fun _ f' => Unfailing f.host.answers.inspections → f.buffer.Relaid f'.buffer) := by
  unfold create
  rw [yields_bind]
  apply (requireContext_idles a false f).imp
  · intro c f₁ h
    obtain ⟨hidle, hb⟩ := h
    rw [allocateOn_eq, yields_bind, ← hb]
    apply ((allocateMemory_relays c flags (f := f₁) (hb ▸ hf)).and
      (allocateMemory_stays c flags f₁)).imp
    · intro al f₂ h
      obtain ⟨hr, hstays⟩ := h
      apply (attachAllocated_ends c flags al f₂).imp
      · exact fun _ _ hi => hi
      · intro _ f₃ hkept hn
        rw [hkept (hn.of_suffix (hidle.system.trans hstays.host.system).inspections)]
        exact hr
    · exact fun _ _ h _ => h.1
  · intro _ f₁ h _
    rw [h.2]
    exact hf.relaid

theorem importForMapping_handle (data : ImportData) (f : Focus) :
    Yields (importForMapping a data) f
      (fun i f' => i.isSome = data.useFlags.intersects .software ∧ f.Retains f')
      (fun _ f' => f.Retains f') := by
  unfold importForMapping
  split
  · rename_i hsoftware
    rw [yields_bind]
    apply (requireContext_idles a true f).imp
    · intro c f₁ h
      have hretains : f.Retains f₁ := ⟨h.2, h.1.system⟩
      cases data.descriptors with
      | nil => exact hretains
      | cons d rest =>
        rw [yields_map]
        apply (importOn_keeps c d _ _ _ f₁).imp
        · exact fun _ f₂ h => ⟨hsoftware.symm, hretains.trans h⟩
        · exact fun _ f₂ h => hretains.trans h
    · exact fun _ _ h => ⟨h.2, h.1.system⟩
  · rename_i hsoftware
    exact ⟨(Bool.eq_false_iff.mpr hsoftware).symm, rfl, .refl _⟩

/-- Memory is imported into an empty buffer only. Where this fails, but not because of an inode, the
buffer is as before. -/
theorem importData_ends (data : ImportData) (f : Focus) :
    Yields (importData a data) f
      (fun _ f' => f.buffer.state = none ∧
        f.buffer.metadata.numPlanes ≤ data.descriptors.length ∧
        ∃ imported f₁, imported.isSome = data.useFlags.intersects .software ∧
          f₁.buffer = f.buffer ∧
          f' = settled ⟨data.descriptors.take f.buffer.metadata.numPlanes, imported, 0⟩ f₁)
      (fun _ f' => Unfailing f.host.answers.inspections → f'.buffer = f.buffer) := by
  unfold importData
  simp only [yields_bind, yields_get]
  split
  · exact fun _ => rfl
  rename_i hempty
  split
  · exact fun _ => rfl
  rename_i hcount
  rw [yields_bind]
  apply (takeDescriptors_yields (Nat.le_of_not_lt hcount)).imp
  · rintro _ _ ⟨rfl, rfl, -⟩
    rw [yields_bind]
    apply (importForMapping_handle a data _).imp
    · intro i f₁ h
      obtain ⟨hi, hretains⟩ := h
      have hretains := (f.copied_retains _).trans hretains
      apply (settle_yields _ f₁).imp
      · rintro _ _ ⟨rfl, -⟩
        exact ⟨by simpa using hempty, Nat.le_of_not_lt hcount, i, f₁, hi, hretains.buffer, rfl⟩
      · rintro _ _ ⟨n, inodes, code, rfl, rfl, hfault⟩ hn
        exact ((hn.of_suffix hretains.system.inspections).not_fault hfault).elim
    · exact fun _ f₁ h _ => h.buffer
  · rintro _ _ ⟨n, code, rfl, rfl, -⟩ _
    rfl

theorem mapBuffer_keeps (flags : MapFlags) (f : Focus) :
    Yields ((backend a).mapBuffer flags) f (fun _ f' => f'.buffer = f.buffer)
      (fun _ f' => f'.buffer = f.buffer) := by
  apply (mapBuffer_maps a f flags).imp
  · intro _ f' h
    obtain ⟨-, i, hm⟩ := h
    exact hm.buffer
  · intro _ f' h
    rcases h with ⟨-, hb⟩ | ⟨i, hm⟩
    · exact hb
    · exact hm.buffer

theorem unmapBuffer_keeps (m : Mapping) (f : Focus) :
    Yields ((backend a).unmapBuffer m) f (fun _ f' => f'.buffer = f.buffer)
      (fun _ f' => f'.buffer = f.buffer) := by
  change Yields (unmap a m >>= _) f _ _
  unfold unmap
  simp only [yields_bind]
  apply (requireContext_idles a true f).imp
  · intro c f₁ h
    obtain ⟨-, hb⟩ := h
    apply (mappable_yields _ f₁).imp
    · intro i f₂ h
      obtain ⟨rfl, -⟩ := h
      cases m.token with
      | none => exact hb
      | some token => exact hb
    · exact fun _ _ h => h.1.trans hb
  · exact fun _ _ h => h.2

end Allocator

end GraphicsBuffers
