import GraphicsBuffers.Proofs.Planning
import Mathlib

/-!
How many bytes a buffer takes, in integers without bound. Planning for bytes succeeds exactly where
their number needs no more than 32 bits, and the plan then has these integers.
-/

namespace GraphicsBuffers

namespace Format

variable {f : Format} {first shape : PlaneShape} {shapes : List PlaneShape}
  {stride height p i : Nat}

/-- The bytes of one row of plane `p`, where a row of the first plane has `stride`. -/
def rowBytes (f : Format) (first : PlaneShape) (stride p : Nat) (shape : PlaneShape) : Nat :=
  if p = 0 then stride
  else
    let row := ceilDiv (stride * shape.bytes) (first.bytes * shape.horizontal)
    if f = .yvu420Android then ceilDiv row 16 * 16 else row

/-- The bytes of each plane from `p` on. -/
def planeBytes (f : Format) (first : PlaneShape) (stride height : Nat) :
    Nat → List PlaneShape → List Nat
  | _, [] => []
  | p, shape :: rest =>
    f.rowBytes first stride p shape * ceilDiv height shape.vertical ::
      planeBytes f first stride height (p + 1) rest

theorem planes_of_some (h : f.planes? = some shapes) : f.planes = .ok shapes := by
  simp [planes, h]

theorem planeBytes_getElem? (shapes : List PlaneShape) (i : Nat) :
    (f.planeBytes first stride height p shapes)[i]? =
      shapes[i]?.map fun shape =>
        f.rowBytes first stride (p + i) shape * ceilDiv height shape.vertical := by
  induction shapes generalizing p i with
  | nil => simp [planeBytes]
  | cons shape rest ih =>
    cases i with
    | zero => simp [planeBytes]
    | succ i => simp [planeBytes, ih, Nat.add_assoc, Nat.add_comm 1 i]

/-- A buffer with rows has room for one row of each of its planes. -/
theorem rowBytes_le_sum (hs : shapes[i]? = some shape) (hv : 0 < shape.vertical)
    (hheight : 0 < height) :
    f.rowBytes first stride (p + i) shape ≤ (f.planeBytes first stride height p shapes).sum := by
  have hsize : (f.planeBytes first stride height p shapes)[i]? =
      some (f.rowBytes first stride (p + i) shape * ceilDiv height shape.vertical) := by
    rw [planeBytes_getElem?, hs]
    rfl
  calc f.rowBytes first stride (p + i) shape
    _ ≤ f.rowBytes first stride (p + i) shape * ceilDiv height shape.vertical :=
      Nat.le_mul_of_pos_right _ (ceilDiv_pos hheight hv)
    _ ≤ _ := List.le_sum_of_mem (List.mem_of_getElem? hsize)

/-- Luma of planar formats is in bytes, and its chroma, at half the size, in bytes or in pairs. -/
theorem planes_chroma {rest : List PlaneShape} (h : f.planes? = some (first :: rest)) :
    ∀ shape ∈ rest, first.bytes = 1 ∧ shape.horizontal = 2 ∧
      (shape.bytes = 1 ∨ shape.bytes = 2 ∧ f ≠ .yvu420Android) := by
  have hall : ∀ e ∈ planeTable, ∀ first ∈ e.2.head?, ∀ shape ∈ e.2.tail,
      first.bytes = 1 ∧ shape.horizontal = 2 ∧
        (shape.bytes = 1 ∨ shape.bytes = 2 ∧ e.1 ≠ .yvu420Android) := by decide
  exact hall _ (mem_planeTable h) first rfl

theorem rowBytes_pairs (hp : p ≠ 0) (hfirst : first.bytes = 1) (hh : shape.horizontal = 2)
    (hb : shape.bytes = 2) (hf : f ≠ .yvu420Android) :
    f.rowBytes first stride p shape = stride := by
  rw [rowBytes, if_neg hp]
  dsimp only
  rw [if_neg hf, hfirst, hh, hb]
  unfold ceilDiv
  omega

/-- A buffer with rows has room for the product that any of its chroma rows is found from. -/
theorem scaled_le_sum {rest : List PlaneShape} (h : f.planes? = some (first :: rest))
    (hs : rest[i]? = some shape) (hheight : 0 < height) :
    stride * shape.bytes ≤ (f.planeBytes first stride height 0 (first :: rest)).sum := by
  obtain ⟨-, hvertical, hshapes⟩ := planes_shapes h
  have hm : shape ∈ rest := List.mem_of_getElem? hs
  obtain ⟨hh, hv, -⟩ := hshapes shape (List.mem_cons_of_mem _ hm)
  have hluma : stride ≤ f.rowBytes first stride 0 first * ceilDiv height first.vertical := by
    rw [hvertical, ceilDiv_one]
    exact Nat.le_mul_of_pos_right _ hheight
  have hchroma : f.rowBytes first stride (1 + i) shape ≤
      (f.planeBytes first stride height (0 + 1) rest).sum := rowBytes_le_sum hs hv hheight
  rw [planeBytes, List.sum_cons]
  obtain ⟨hfirst, hh, hb | ⟨hb, hf⟩⟩ := planes_chroma h shape hm
  · rw [hb]
    omega
  · rw [rowBytes_pairs (by omega) hfirst hh hb hf] at hchroma
    rw [hb]
    omega

end Format

namespace Metadata

variable {m m' : Metadata} {format : Format} {first shape : PlaneShape}
  {shapes : List PlaneShape} {stride height row : UInt32} {p offset stop : Nat}

theorem planeRow_ok (hb : 0 < first.bytes * shape.horizontal)
    (h : planeRow format first stride p shape = .ok row) :
    row.toNat = format.rowBytes first stride.toNat p shape := by
  unfold planeRow at h
  unfold Format.rowBytes
  split
  · rename_i hp
    rw [if_pos hp] at h
    rw [Except.ok.inj h]
  · rename_i hp
    rw [if_neg hp] at h
    exact chromaStride_ok hb h

/-- A row is found where it, and the product that it is found from, need no more than 32 bits. -/
theorem planeRow_of_lt (hscaled : p ≠ 0 → stride.toNat * shape.bytes < 0x100000000)
    (hrow : format.rowBytes first stride.toNat p shape < 0x100000000) :
    ∃ row, planeRow format first stride p shape = .ok row := by
  unfold planeRow
  split
  · exact ⟨_, rfl⟩
  · rename_i hp
    have hscaled := hscaled hp
    rw [Format.rowBytes, if_neg hp] at hrow
    dsimp only at hrow
    obtain ⟨scaled, hs⟩ : ∃ scaled, checked32 .times ⟨"stride", stride.toNat⟩
        ⟨"bytes_per_pixel", shape.bytes⟩ = .ok scaled := checkedWord_times_of_lt hscaled
    have hexact : scaled.toNat = stride.toNat * shape.bytes := checkedWord_times hs
    rw [← hexact] at hrow
    have hfound : chromaStride format first shape stride =
        if format = .yvu420Android then
          align32 (ceilDiv scaled.toNat (first.bytes * shape.horizontal)).toUInt32 16
        else pure (ceilDiv scaled.toNat (first.bytes * shape.horizontal)).toUInt32 := by
      unfold chromaStride
      rw [hs]
      rfl
    rw [hfound]
    split
    · rename_i hformat
      rw [if_pos hformat] at hrow
      refine roundUp_of_lt (k := 4) rfl ?_
      change (ceilDiv scaled.toNat (first.bytes * shape.horizontal)).toUInt32.toNat + 15 < 2 ^ 32
      rw [Nat.toUInt32_eq, UInt32.toNat_ofNat']
      generalize ceilDiv scaled.toNat (first.bytes * shape.horizontal) = exact at hrow ⊢
      unfold ceilDiv at hrow
      omega
    · exact ⟨_, rfl⟩

/-- The planes lie as they do in integers without bound. -/
theorem Rows.measured (hr : m.Rows format first stride height p shapes)
    (hl : m.Lies stop p shapes.length offset)
    (hb : ∀ shape ∈ shapes, 0 < first.bytes * shape.horizontal) :
    let sizes := format.planeBytes first stride.toNat height.toNat p shapes
    (∀ i shape, shapes[i]? = some shape →
      (m.strides.entry (p + i)).toNat = format.rowBytes first stride.toNat (p + i) shape ∧
      (m.offsets.entry (p + i)).toNat = offset + (sizes.take i).sum ∧
      (m.sizes.entry (p + i)).toNat =
        format.rowBytes first stride.toNat (p + i) shape * ceilDiv height.toNat shape.vertical) ∧
    stop = offset + sizes.sum := by
  induction shapes generalizing p offset with
  | nil => exact ⟨fun i shape hs => by simp at hs, hl.symm⟩
  | cons shape rest ih =>
    obtain ⟨hrow, hsize, hrest⟩ := hr
    obtain ⟨hstart, hl⟩ := hl
    have hrow := planeRow_ok (hb shape List.mem_cons_self) hrow
    rw [hrow] at hsize
    obtain ⟨hplanes, hstop⟩ := ih hrest hl fun s hs => hb s (List.mem_cons_of_mem _ hs)
    rw [hsize] at hplanes hstop
    dsimp only [Format.planeBytes]
    rw [List.sum_cons, ← Nat.add_assoc]
    refine ⟨?_, hstop⟩
    intro i s hs
    cases i with
    | zero =>
      cases hs
      exact ⟨hrow, by simpa using hstart, hsize⟩
    | succ i =>
      have hplane := hplanes i s hs
      rw [Nat.add_assoc p 1 i, Nat.add_comm 1 i] at hplane
      rw [List.take_succ_cons, List.sum_cons, ← Nat.add_assoc offset]
      exact hplane

/-- Where all planes end before 4 GiB, each finds its place. -/
theorem layPlanes_of_lt (hheight : 0 < height.toNat) (offset : UInt64) (m : Metadata)
    (hb : ∀ shape ∈ shapes, 0 < first.bytes * shape.horizontal ∧ 0 < shape.vertical)
    (hscaled : ∀ i shape, shapes[i]? = some shape → p + i ≠ 0 →
      stride.toNat * shape.bytes < 0x100000000)
    (hfits : offset.toNat + (format.planeBytes first stride.toNat height.toNat p shapes).sum <
      0x100000000) :
    Yields (layPlanes format first stride height p offset shapes) m (fun _ _ => True)
      (fun _ _ => False) := by
  induction shapes generalizing p offset m with
  | nil => trivial
  | cons shape rest ih =>
    obtain ⟨hbytes, hvertical⟩ := hb shape List.mem_cons_self
    rw [Format.planeBytes, List.sum_cons] at hfits
    have hle := Nat.le_mul_of_pos_right (format.rowBytes first stride.toNat p shape)
      (ceilDiv_pos hheight hvertical)
    have hhere : p ≠ 0 → stride.toNat * shape.bytes < 0x100000000 := hscaled 0 shape rfl
    obtain ⟨row, hrow⟩ : ∃ row, planeRow format first stride p shape = .ok row :=
      planeRow_of_lt hhere (by omega)
    rw [← planeRow_ok hbytes hrow] at hfits
    obtain ⟨size, hsize⟩ : ∃ size, checked64 .times ⟨"row_bytes", row.toNat⟩
        ⟨"rows", ceilDiv height.toNat shape.vertical⟩ = .ok size :=
      checkedWord_times_of_lt (Nat.lt_of_lt_of_le (by omega) (by decide : 0x100000000 ≤ 2 ^ 64))
    have hbytes' : size.toNat = _ := checkedWord_times hsize
    rw [← hbytes'] at hfits
    have hstart := narrow_of_lt (n := offset) (by omega)
    obtain ⟨next, hnext⟩ : ∃ next, checked64 .plus ⟨"offset", offset.toNat⟩
        ⟨"plane_size", size.toNat⟩ = .ok next :=
      checkedWord_plus_of_lt (Nat.lt_of_lt_of_le (by omega) (by decide : 0x100000000 ≤ 2 ^ 64))
    have hend : next.toNat = _ := checkedWord_plus hnext
    rw [← Nat.add_assoc, ← hend] at hfits
    have hrest : ∀ m, Yields (layPlanes format first stride height (p + 1) next rest) m
        (fun _ _ => True) (fun _ _ => False) := fun m =>
      ih next m (fun s hs => hb s (List.mem_cons_of_mem _ hs))
        (fun i s hs _ => hscaled (i + 1) s hs (by omega)) hfits
    unfold layPlanes
    rw [planeRow] at hrow
    simp only [yields_bind, yields_modify, yields_ofExcept_ok hrow, yields_ofExcept_ok hsize,
      yields_ofExcept_ok hstart, yields_ofExcept_ok hnext]
    exact hrest _

/-- The bytes of all planes together. -/
def planeSum (m : Metadata) : Nat := ∑ p ∈ Finset.range m.numPlanes, (m.sizes.entry p).toNat

theorem Lies.stop_eq {n : Nat} {offset stop : Nat} (h : m.Lies stop p n offset) :
    stop = offset + ∑ i ∈ Finset.range n, (m.sizes.entry (p + i)).toNat := by
  induction n generalizing p offset with
  | zero => exact h.symm
  | succ n ih =>
    rw [ih h.2, Finset.sum_range_succ', Nat.add_assoc, Nat.add_comm (m.sizes.entry p).toNat]
    simp only [Nat.add_assoc, Nat.add_comm 1, Nat.add_zero]

/-- The bytes of each plane of a buffer, whose rows have as many pixels as the use asks for. -/
def byteSizes (m : Metadata) (flags : UseFlags) (shapes : List PlaneShape) : List Nat :=
  let first := shapes.headD ⟨1, 1, 1⟩
  m.format.planeBytes first (Plan.pixelRow flags m.width first) m.height.toNat 0 shapes

/-- The bytes of a whole buffer, with its end on the boundary that the use asks for. -/
def byteSize (m : Metadata) (flags : UseFlags) (shapes : List PlaneShape) : Nat :=
  let sum := (m.byteSizes flags shapes).sum
  if flags.intersects .camera then ceilDiv sum 4096 * 4096 else sum

/-- The layout of the bytes of `m` has the numbers that integers without bound give. -/
structure Measured (m : Metadata) (flags : UseFlags) (shapes : List PlaneShape)
    (layout : Metadata) : Prop where
  planes : ∀ p shape, shapes[p]? = some shape →
    let first := shapes.headD ⟨1, 1, 1⟩
    let row := m.format.rowBytes first (Plan.pixelRow flags m.width first) p shape
    (layout.strides.entry p).toNat = row ∧
      (layout.sizes.entry p).toNat = row * ceilDiv m.height.toNat shape.vertical ∧
      (layout.offsets.entry p).toNat = ((m.byteSizes flags shapes).take p).sum
  rest : ∀ p, shapes.length ≤ p →
    layout.strides.entry p = 0 ∧ layout.sizes.entry p = 0 ∧ layout.offsets.entry p = 0
  total : layout.totalSize.toNat = m.byteSize flags shapes
  others : layout = { m with
    strides := layout.strides
    offsets := layout.offsets
    sizes := layout.sizes
    numPlanes := shapes.length
    totalSize := layout.totalSize }

theorem Linear.measured {rest : List PlaneShape} (h : Linear stride height (first :: rest) m m')
    (hs : m.format.planes? = some (first :: rest)) :
    let sizes := m.format.planeBytes first stride.toNat height.toNat 0 (first :: rest)
    (∀ p shape, (first :: rest)[p]? = some shape →
      (m'.strides.entry p).toNat = m.format.rowBytes first stride.toNat p shape ∧
      (m'.offsets.entry p).toNat = (sizes.take p).sum ∧
      (m'.sizes.entry p).toNat =
        m.format.rowBytes first stride.toNat p shape * ceilDiv height.toNat shape.vertical) ∧
    m'.totalSize.toNat = sizes.sum := by
  have hmeasured := h.rows.measured h.lies fun s hm => (Format.divisors_pos hs s hm).1
  simpa only [Nat.zero_add, List.headD_cons] using hmeasured

/-- Where all planes end before 4 GiB, the layout comes about. -/
theorem laidOut_of_lt {rest : List PlaneShape} (hs : m.format.planes? = some (first :: rest))
    (hheight : 0 < height.toNat)
    (hfits : (m.format.planeBytes first stride.toNat height.toNat 0 (first :: rest)).sum <
      0x100000000) : ∃ m', m.laidOut m.format stride height = .ok m' := by
  have hlaid : Yields (layOut m.format stride height) m (fun _ _ => True) (fun _ _ => False) := by
    unfold layOut
    simp only [yields_bind, yields_modify, yields_ofExcept_ok (Format.planes_of_some hs)]
    refine layPlanes_of_lt hheight 0 m (Format.divisors_pos hs) (fun i s hi hne => ?_) ?_
    · cases i with
      | zero => exact absurd rfl hne
      | succ i => exact Nat.lt_of_le_of_lt (Format.scaled_le_sum hs hi hheight) hfits
    · simpa using hfits
  obtain ⟨_, m', hm, -⟩ := hlaid.exists_ok
  exact ⟨m', by rw [laidOut, hm]⟩

end Metadata

namespace Plan

open Metadata

variable {m laid : Metadata} {flags : UseFlags} {plan first : Plan} {shape : PlaneShape}
  {rest : List PlaneShape} {stride : UInt32} {total : UInt64}

theorem Bytes.measured (h : Bytes m flags first shape rest stride laid total) :
    m.Measured flags (shape :: rest) { laid with totalSize := total } := by
  obtain ⟨hplanes, hsum⟩ := h.linear.measured h.shapes
  rw [h.row_eq] at hplanes hsum
  refine ⟨?_, ?_, ?_, ?_⟩
  · intro p s hs
    obtain ⟨hstride, hoffset, hsize⟩ := hplanes p s hs
    exact ⟨hstride, hsize, hoffset⟩
  · intro p hp
    obtain ⟨hstride, hoffset, hsize⟩ := h.linear.rest p hp
    exact ⟨hstride, hsize, hoffset⟩
  · change total.toNat = _
    rw [h.total_eq, hsum]
    rfl
  · exact congrArg (fun l : Metadata => { l with totalSize := total }) h.linear.others

theorem pixelRow_le_sum (hs : m.format.planes? = some (shape :: rest))
    (hheight : 0 < m.height.toNat) :
    pixelRow flags m.width shape ≤ (m.byteSizes flags (shape :: rest)).sum := by
  obtain ⟨-, hvertical, -⟩ := Format.planes_shapes hs
  have hv : 0 < shape.vertical := by rw [hvertical]; decide
  exact Format.rowBytes_le_sum (p := 0) (i := 0) rfl hv hheight

theorem sum_le_byteSize (shapes : List PlaneShape) :
    (m.byteSizes flags shapes).sum ≤ m.byteSize flags shapes := by
  unfold byteSize
  dsimp only
  split
  · exact le_ceilDiv_mul _ (by decide)
  · exact Nat.le_refl _

theorem strideFromWidth_of_lt {format : Format} {width : UInt32}
    (hs : format.planes? = some (shape :: rest)) (h : width.toNat * shape.bytes < 0x100000000) :
    ∃ stride, strideFromWidth format width = .ok stride := by
  obtain ⟨stride, hstride⟩ : ∃ stride, checked32 .times ⟨"width", width.toNat⟩
      ⟨"bytes_per_pixel", shape.bytes⟩ = .ok stride := checkedWord_times_of_lt h
  exact ⟨stride, bind_eq_ok.mpr ⟨_, Format.planes_of_some hs, hstride⟩⟩

theorem native_of_lt (hs : m.format.planes? = some (shape :: rest))
    (h : pixelRow flags m.width shape < 0x100000000) : ∃ plan, native m flags = .ok plan := by
  obtain ⟨-, -, hshapes⟩ := Format.planes_shapes hs
  have hwidth := Nat.lt_of_le_of_lt
    (Nat.le_mul_of_pos_right _ (hshapes shape List.mem_cons_self).2.2) h
  unfold native
  dsimp only
  split
  · rename_i hcamera
    rw [if_pos hcamera] at hwidth
    unfold ceilDiv at hwidth
    have hmask : m.width.toNat + 31 < 2 ^ 32 := by omega
    obtain ⟨width, ha⟩ : ∃ width, align32 m.width cameraWidthAlign = .ok width :=
      roundUp_of_lt (k := 5) rfl hmask
    exact ⟨_, bind_eq_ok.mpr ⟨width, ha, rfl⟩⟩
  · exact ⟨_, rfl⟩

theorem asBytes_of_lt (hfirst : Own m flags first) (hs : m.format.planes? = some (shape :: rest))
    (hheight : 0 < m.height.toNat) (hfits : m.byteSize flags (shape :: rest) < 0x100000000) :
    ∃ plan, asBytes first m = .ok plan := by
  have hsum := Nat.lt_of_le_of_lt (sum_le_byteSize (shape :: rest)) hfits
  have hrow : pixelRow flags m.width shape < 0x100000000 :=
    Nat.lt_of_le_of_lt (pixelRow_le_sum hs hheight) hsum
  have hwidth : first.request.width.toNat * shape.bytes = pixelRow flags m.width shape := by
    rw [hfirst.width, pixelRow]
  obtain ⟨stride, hstride⟩ := strideFromWidth_of_lt hs (hwidth ▸ hrow)
  obtain ⟨_, _, hs', hexact⟩ := strideFromWidth_ok hstride
  cases hs.symm.trans hs'
  rw [hwidth] at hexact
  have hsum' : (m.format.planeBytes shape stride.toNat m.height.toNat 0 (shape :: rest)).sum <
      0x100000000 := by
    rw [hexact]
    exact hsum
  obtain ⟨laid, hlaid⟩ := laidOut_of_lt hs hheight hsum'
  obtain ⟨_, hs', hlinear⟩ := laidOut_linear hlaid
  cases hs.symm.trans hs'
  have htotal : laid.totalSize.toNat = (m.byteSizes flags (shape :: rest)).sum := by
    rw [(hlinear.measured hs).2, hexact]
    rfl
  obtain ⟨total, ha⟩ : ∃ total, align64 laid.totalSize first.sizeAlign.toUInt64 = .ok total := by
    have hmask : laid.totalSize.toNat + 4095 < 2 ^ 64 := by omega
    rw [hfirst.sizeAlign]
    split
    · exact roundUp_of_lt (k := 12) rfl hmask
    · exact roundUp_of_lt (k := 0) rfl (Nat.lt_of_le_of_lt (Nat.le_add_right _ 4095) hmask)
  have hend := hfirst.align_ok ha
  rw [htotal] at hend
  have hnarrow : total.toNat < 0x100000000 := by
    rw [hend]
    exact hfits
  rw [← hfirst.height] at hlaid
  exact ⟨_, bind_eq_ok.mpr ⟨stride, hstride, bind_eq_ok.mpr ⟨laid, hlaid,
    bind_eq_ok.mpr ⟨total, ha, bind_eq_ok.mpr ⟨_, narrow_of_lt hnarrow, rfl⟩⟩⟩⟩⟩

/-- Bytes that 32 bits can count are planned for. -/
theorem draw_of_lt (hs : m.format.planes? = some (shape :: rest)) (hheight : 0 < m.height.toNat)
    (hfits : m.byteSize flags (shape :: rest) < 0x100000000) :
    ∃ drawn, draw m flags false = .ok drawn := by
  have hsum := Nat.lt_of_le_of_lt (sum_le_byteSize (shape :: rest)) hfits
  obtain ⟨first, hfirst⟩ := native_of_lt hs (Nat.lt_of_le_of_lt (pixelRow_le_sum hs hheight) hsum)
  obtain ⟨plan, hbytes⟩ := asBytes_of_lt (native_own hfirst) hs hheight hfits
  obtain ⟨drawn, hend⟩ : ∃ drawn, (if plan.isRow then
      pure (plan.fold, [unsupportedNote m] ++ [foldNote plan.fold])
      else pure (plan, [unsupportedNote m]) : Except Error (Plan × List String)) = .ok drawn := by
    split <;> exact ⟨_, rfl⟩
  exact ⟨drawn, bind_eq_ok.mpr ⟨first, hfirst, bind_eq_ok.mpr ⟨plan, hbytes, hend⟩⟩⟩

theorem Drawn.measured (h : Drawn m flags false plan) : ∃ shapes layout,
    m.format.planes? = some shapes ∧ plan.blob = some layout ∧ m.Measured flags shapes layout ∧
      m.byteSize flags shapes < 0x100000000 := by
  cases h with
  | bytes hfirst hbytes =>
    obtain ⟨shape, rest, stride, laid, total, h, hwidth, -, -, hblob⟩ := asBytes_ok hfirst hbytes
    refine ⟨shape :: rest, _, h.shapes, by rw [fold_blob, hblob], h.measured, ?_⟩
    rw [← h.measured.total]
    change total.toNat < _
    rw [← hwidth]
    exact UInt32.toNat_lt _

end Plan

theorem planAllocation_draw {m : Metadata} {flags : UseFlags} {supported : Bool} {plan : Plan}
    (h : planAllocation m flags supported = .ok plan) :
    ∃ notes, Plan.draw m flags supported = .ok (plan, notes) := by
  unfold planAllocation at h
  cases hd : Plan.draw m flags supported with
  | error e => simp [hd, Except.map] at h
  | ok drawn =>
    rw [hd] at h
    cases h
    exact ⟨drawn.2, rfl⟩

theorem planAllocation_drawn {m : Metadata} {flags : UseFlags} {supported : Bool} {plan : Plan}
    (h : planAllocation m flags supported = .ok plan) : Plan.Drawn m flags supported plan := by
  obtain ⟨_, hd⟩ := planAllocation_draw h
  exact Plan.draw_drawn hd

theorem planAllocation_of_lt {m : Metadata} {flags : UseFlags} {shapes : List PlaneShape}
    (hs : m.format.planes? = some shapes) (hheight : 0 < m.height.toNat)
    (hfits : m.byteSize flags shapes < 0x100000000) :
    ∃ plan, planAllocation m flags false = .ok plan := by
  obtain ⟨hlength, -⟩ := Format.planes_length hs
  obtain ⟨shape, rest, rfl⟩ := List.exists_cons_of_length_pos hlength
  obtain ⟨drawn, hdrawn⟩ := Plan.draw_of_lt hs hheight hfits
  exact ⟨drawn.1, by rw [planAllocation, hdrawn]; rfl⟩

/-- Planning for bytes succeeds exactly where the format has planes and their bytes, counted without
bound, are fewer than 4 GiB; and the plan then has the numbers of this count. -/
theorem planAllocation_fits (m : Metadata) (flags : UseFlags) (hheight : 0 < m.height.toNat) :
    ((∃ plan, planAllocation m flags false = .ok plan) ↔
      ∃ shapes, m.format.planes? = some shapes ∧ m.byteSize flags shapes < 2 ^ 32) ∧
    ∀ plan, planAllocation m flags false = .ok plan → ∃ shapes layout,
      m.format.planes? = some shapes ∧ plan.blob = some layout ∧
        m.Measured flags shapes layout := by
  refine ⟨⟨?_, ?_⟩, ?_⟩
  · rintro ⟨plan, h⟩
    obtain ⟨shapes, -, hs, -, -, hlt⟩ := (planAllocation_drawn h).measured
    exact ⟨shapes, hs, hlt⟩
  · rintro ⟨shapes, hs, hlt⟩
    exact planAllocation_of_lt hs hheight hlt
  · intro plan h
    obtain ⟨shapes, layout, hs, hb, hmeasured, -⟩ := (planAllocation_drawn h).measured
    exact ⟨shapes, layout, hs, hb, hmeasured⟩

/-- 704554 rows of 4033 pixels for a camera, with chroma, end one boundary before 4 GiB. -/
theorem planAllocation_fits_camera :
    let m : UInt32 → Metadata := fun height => { width := 4033, height, format := .nv12 }
    0 < (m 704554).height.toNat ∧ 0 < (m 704555).height.toNat ∧
      (∃ plan layout, planAllocation (m 704554) .cameraRead false = .ok plan ∧
        plan.blob = some layout ∧ layout.totalSize.toNat = 2 ^ 32 - 4096) ∧
      ¬∃ plan, planAllocation (m 704555) .cameraRead false = .ok plan := by
  intro m
  have hs : ∀ height, (m height).format.planes? = some Format.biplanar420 := fun _ => rfl
  obtain ⟨hfits, hlayout⟩ := planAllocation_fits (m 704554) .cameraRead (by decide)
  obtain ⟨plan, h⟩ := hfits.mpr ⟨_, hs _, by decide⟩
  obtain ⟨_, layout, hs', hb, hmeasured⟩ := hlayout plan h
  cases (hs _).symm.trans hs'
  refine ⟨by decide, by decide, ⟨plan, layout, h, hb, ?_⟩, ?_⟩
  · rw [hmeasured.total]
    decide
  · intro h
    obtain ⟨_, hs', hlt⟩ := (planAllocation_fits (m 704555) .cameraRead (by decide)).1.mp h
    cases (hs _).symm.trans hs'
    exact absurd hlt (by decide)

end GraphicsBuffers
