import GraphicsBuffers.Plan
import GraphicsBuffers.Proofs.Alignment
import GraphicsBuffers.Proofs.Yields

/-!
How the planes of a buffer lie: one behind the other from its start on, whether they are laid out
for the library or as bytes.
-/

namespace GraphicsBuffers

theorem Format.mem_planeTable {f : Format} {shapes : List PlaneShape}
    (h : f.planes? = some shapes) : (f, shapes) ∈ planeTable := by
  obtain ⟨before, after, he, -⟩ := List.lookup_eq_some_iff.mp h
  rw [he]
  simp

theorem Format.planes_length {f : Format} {shapes : List PlaneShape} (h : f.planes? = some shapes) :
    0 < shapes.length ∧ shapes.length ≤ 4 := by
  have hall : ∀ e ∈ planeTable, 0 < e.2.length ∧ e.2.length ≤ 4 := by decide
  exact hall (f, shapes) (mem_planeTable h)

/-- Samples are not empty, and those of the first plane are whole pixels. -/
theorem Format.planes_shapes {f : Format} {first : PlaneShape} {rest : List PlaneShape}
    (h : f.planes? = some (first :: rest)) : first.horizontal = 1 ∧ first.vertical = 1 ∧
      ∀ shape ∈ first :: rest, 0 < shape.horizontal ∧ 0 < shape.vertical ∧ 0 < shape.bytes := by
  have hall : ∀ e ∈ planeTable, (∀ first ∈ e.2.head?, first.horizontal = 1 ∧ first.vertical = 1) ∧
      ∀ shape ∈ e.2, 0 < shape.horizontal ∧ 0 < shape.vertical ∧ 0 < shape.bytes := by decide
  obtain ⟨hfirst, hshapes⟩ := hall _ (mem_planeTable h)
  obtain ⟨hh, hv⟩ := hfirst first rfl
  exact ⟨hh, hv, hshapes⟩

/-- Where a plane is sampled, nothing is divided by zero. -/
theorem Format.divisors_pos {f : Format} {first : PlaneShape} {rest : List PlaneShape}
    (h : f.planes? = some (first :: rest)) :
    ∀ shape ∈ first :: rest, 0 < first.bytes * shape.horizontal ∧ 0 < shape.vertical := by
  intro shape hm
  obtain ⟨-, -, hshapes⟩ := planes_shapes h
  obtain ⟨-, -, hfirst⟩ := hshapes first List.mem_cons_self
  obtain ⟨hh, hv, -⟩ := hshapes shape hm
  exact ⟨Nat.mul_pos hfirst hh, hv⟩

theorem Format.planes_ok {f : Format} {shapes : List PlaneShape} (h : f.planes = .ok shapes) :
    f.planes? = some shapes := by
  unfold planes at h
  split at h
  · rename_i hs
    rw [hs, Except.ok.inj h]
  · cases h

namespace Metadata

/-- From `offset` to `stop` lie `n` planes one behind the other, of which `p` is the first. -/
def Lies (m : Metadata) (stop : Nat) : Nat → Nat → Nat → Prop
  | _, 0, offset => offset = stop
  | p, n + 1, offset => (m.offsets.entry p).toNat = offset ∧
      Lies m stop (p + 1) n (offset + (m.sizes.entry p).toNat)

/-- The planes of the buffer's format lie one behind the other, and nothing is recorded of others. -/
structure Laid (m : Metadata) : Prop where
  shapes : ∃ shapes, m.format.planes? = some shapes ∧ shapes.length = m.numPlanes
  lies : ∃ stop ≤ m.totalSize.toNat, m.Lies stop 0 m.numPlanes 0
  rest : ∀ p, m.numPlanes ≤ p →
    m.strides.entry p = 0 ∧ m.offsets.entry p = 0 ∧ m.sizes.entry p = 0

/-- Only what is recorded of planes differs. -/
def Framed (m m' : Metadata) : Prop :=
  m' = { m with strides := m'.strides, offsets := m'.offsets, sizes := m'.sizes }

/-- Only what is recorded of planes differs, and nothing of those before `p`. -/
structure SameBefore (p : Nat) (m m' : Metadata) : Prop where
  entries : ∀ q < p, m'.strides.entry q = m.strides.entry q ∧
    m'.offsets.entry q = m.offsets.entry q ∧ m'.sizes.entry q = m.sizes.entry q
  others : Framed m m'

/-- The bytes of one row of plane `p`. -/
def planeRow (format : Format) (first : PlaneShape) (stride : UInt32) (p : Nat)
    (shape : PlaneShape) : Except Error UInt32 :=
  if p = 0 then .ok stride else chromaStride format first shape stride

/-- The planes from `p` on have rows of the right length, and as many as their shapes ask for. -/
def Rows (format : Format) (first : PlaneShape) (stride height : UInt32) (m : Metadata) :
    Nat → List PlaneShape → Prop
  | _, [] => True
  | p, shape :: rest =>
    planeRow format first stride p shape = .ok (m.strides.entry p) ∧
      (m.sizes.entry p).toNat =
        (m.strides.entry p).toNat * ceilDiv height.toNat shape.vertical ∧
      Rows format first stride height m (p + 1) rest

/-- `m` with a linear layout of `shapes`, whose first plane has `stride` bytes a row and `height`
rows. -/
structure Linear (stride height : UInt32) (shapes : List PlaneShape) (m m' : Metadata) :
    Prop where
  lies : m'.Lies m'.totalSize.toNat 0 shapes.length 0
  rows : m'.Rows m.format (shapes.headD ⟨1, 1, 1⟩) stride height 0 shapes
  rest : ∀ p, shapes.length ≤ p →
    m'.strides.entry p = 0 ∧ m'.offsets.entry p = 0 ∧ m'.sizes.entry p = 0
  others : m' = { m with
    strides := m'.strides
    offsets := m'.offsets
    sizes := m'.sizes
    numPlanes := shapes.length
    totalSize := m'.totalSize }

variable {m m' : Metadata} {p n offset stop : Nat}

theorem Lies.congr (h : m.Lies stop p n offset) (he : ∀ q, p ≤ q → q < p + n →
      m'.offsets.entry q = m.offsets.entry q ∧ m'.sizes.entry q = m.sizes.entry q) :
    m'.Lies stop p n offset := by
  induction n generalizing p offset with
  | zero => exact h
  | succ n ih =>
    obtain ⟨hstart, hrest⟩ := h
    obtain ⟨ho, hs⟩ := he p (Nat.le_refl p) (by omega)
    refine ⟨by rw [ho, hstart], ?_⟩
    rw [hs]
    exact ih hrest fun q hq hn => he q (by omega) (by omega)

theorem Lies.le (h : m.Lies stop p n offset) : offset ≤ stop := by
  induction n generalizing p offset with
  | zero => exact Nat.le_of_eq h
  | succ n ih =>
    have := ih h.2
    omega

theorem Rows.congr {format : Format} {first : PlaneShape} {stride height : UInt32}
    {shapes : List PlaneShape} (h : m.Rows format first stride height p shapes)
    (he : ∀ q, p ≤ q → q < p + shapes.length →
      m'.strides.entry q = m.strides.entry q ∧ m'.sizes.entry q = m.sizes.entry q) :
    m'.Rows format first stride height p shapes := by
  induction shapes generalizing p with
  | nil => exact trivial
  | cons shape rest ih =>
    obtain ⟨hrow, hsize, hrest⟩ := h
    simp only [List.length_cons] at he
    obtain ⟨hs, hz⟩ := he p (Nat.le_refl p) (by omega)
    refine ⟨by rw [hs, hrow], by rw [hs, hz, hsize], ?_⟩
    exact ih hrest fun q hq hn => he q (by omega) (by omega)

/-- The row of a chroma plane in whole samples, which for one format start on boundaries. -/
theorem chromaStride_ok {format : Format} {first shape : PlaneShape} {stride row : UInt32}
    (hb : 0 < first.bytes * shape.horizontal)
    (h : chromaStride format first shape stride = .ok row) :
    let exact := ceilDiv (stride.toNat * shape.bytes) (first.bytes * shape.horizontal)
    row.toNat = if format = .yvu420Android then ceilDiv exact 16 * 16 else exact := by
  obtain ⟨scaled, hscaled, h⟩ := bind_eq_ok.mp h
  have hscaled : scaled.toNat = stride.toNat * shape.bytes := checkedWord_times hscaled
  rw [← hscaled]
  have hle : ceilDiv scaled.toNat (first.bytes * shape.horizontal) ≤ scaled.toNat :=
    ceilDiv_le (Nat.le_mul_of_pos_right _ hb)
  have hexact : (ceilDiv scaled.toNat (first.bytes * shape.horizontal)).toUInt32.toNat =
      ceilDiv scaled.toNat (first.bytes * shape.horizontal) := by
    rw [Nat.toUInt32_eq, UInt32.toNat_ofNat']
    exact Nat.mod_eq_of_lt (Nat.lt_of_le_of_lt hle scaled.toNat_lt)
  dsimp only at h ⊢
  split at h
  · rename_i hformat
    rw [if_pos hformat, ← hexact]
    exact roundUp_ok (k := 4) rfl h
  · rename_i hformat
    cases h
    rw [if_neg hformat, hexact]

theorem chromaStride_pos {format : Format} {first shape : PlaneShape} {stride row : UInt32}
    (hb : 0 < first.bytes * shape.horizontal) (hs : 0 < shape.bytes) (hpos : 0 < stride.toNat)
    (h : chromaStride format first shape stride = .ok row) : 0 < row.toNat := by
  have hexact := ceilDiv_pos (Nat.mul_pos hpos hs) hb
  rw [chromaStride_ok hb h]
  split
  · exact Nat.mul_pos (ceilDiv_pos hexact (by decide)) (by decide)
  · exact hexact

theorem chromaStride_zero {format : Format} {first shape : PlaneShape} {stride row : UInt32}
    (hb : 0 < first.bytes * shape.horizontal) (hz : stride.toNat = 0)
    (h : chromaStride format first shape stride = .ok row) : row.toNat = 0 := by
  rw [chromaStride_ok hb h, hz, Nat.zero_mul, ceilDiv_zero]
  split <;> rfl

/-- Without rows, or with empty ones, planes take no room. -/
theorem Rows.empty {format : Format} {first : PlaneShape} {stride height : UInt32}
    {shapes : List PlaneShape} (hr : m.Rows format first stride height p shapes)
    (hl : m.Lies stop p shapes.length offset) (hfirst : 0 < first.bytes)
    (hshapes : ∀ shape ∈ shapes, 0 < shape.horizontal)
    (hz : stride.toNat = 0 ∨ height.toNat = 0) : stop = offset := by
  induction shapes generalizing p offset with
  | nil => exact hl.symm
  | cons shape rest ih =>
    obtain ⟨hrow, hsize, hrest⟩ := hr
    have hnone : (m.sizes.entry p).toNat = 0 := by
      rw [hsize]
      rcases hz with hz | hz
      · have hrow : (m.strides.entry p).toNat = 0 := by
          unfold planeRow at hrow
          split at hrow
          · rw [← Except.ok.inj hrow, hz]
          · have hshape := hshapes shape List.mem_cons_self
            exact chromaStride_zero (Nat.mul_pos hfirst hshape) hz hrow
        rw [hrow, Nat.zero_mul]
      · rw [hz, ceilDiv_zero, Nat.mul_zero]
    have hl := hl.2
    rw [hnone] at hl
    exact ih hrest hl fun shape hm => hshapes shape (List.mem_cons_of_mem _ hm)

/-- Where the layout fails, some planes may be recorded already, but nothing else is. -/
theorem layPlanes_lies (format : Format) (first : PlaneShape) (stride height : UInt32)
    (shapes : List PlaneShape) (p : Nat) (offset : UInt64) (m : Metadata)
    (hp : p + shapes.length ≤ 4) :
    Yields (layPlanes format first stride height p offset shapes) m
      (fun total m' => m'.Lies total.toNat p shapes.length offset.toNat ∧
        m'.Rows format first stride height p shapes ∧ SameBefore p m m')
      (fun _ m' => Framed m m') := by
  induction shapes generalizing p offset m with
  | nil => exact ⟨rfl, trivial, fun _ _ => ⟨rfl, rfl, rfl⟩, rfl⟩
  | cons shape shapes ih =>
    have hp : p + 1 + shapes.length ≤ 4 := by
      simp only [List.length_cons] at hp
      omega
    unfold layPlanes
    simp only [yields_bind, yields_ofExcept, yields_modify]
    refine ⟨fun row hrow => ⟨fun size hsize => ⟨fun start hstart => ⟨fun next hnext => ?_, ?_⟩, ?_⟩,
      ?_⟩, ?_⟩
    -- The plane is recorded; the induction has the rest start where it ends, and leave it alone.
    · have hstart := narrow_ok hstart
      have hnext : next.toNat = _ := checkedWord_plus hnext
      have hsize : size.toNat = _ := checkedWord_times hsize
      have hn : p < 4 := by omega
      apply (ih (p + 1) next _ hp).imp
      · intro total m' h
        obtain ⟨hlies, hrows, hbefore, hothers⟩ := h
        obtain ⟨hr, ho, hs⟩ := hbefore p (Nat.lt_succ_self p)
        have hr : m'.strides.entry p = row := hr.trans (Planes.entry_put_self _ row hn)
        have ho : m'.offsets.entry p = start := ho.trans (Planes.entry_put_self _ start hn)
        have hs : m'.sizes.entry p = size := hs.trans (Planes.entry_put_self _ size hn)
        refine ⟨⟨by rw [ho, hstart], by rwa [hs, ← hnext]⟩, ⟨?_, by rw [hs, hr, hsize], hrows⟩,
          ?_, ?_⟩
        · rw [hr]
          exact hrow
        · intro q hq
          obtain ⟨hr, ho, hs⟩ := hbefore q (by omega)
          have hn : p ≠ q := by omega
          exact ⟨hr.trans (Planes.entry_put_other _ row hn),
            ho.trans (Planes.entry_put_other _ start hn),
            hs.trans (Planes.entry_put_other _ size hn)⟩
        · rw [Framed, hothers]
          rfl
      · intro _ m' hothers
        rw [Framed, hothers]
        rfl
    all_goals exact fun _ _ => rfl

/-- The planes are those of the format that is laid out, whatever the buffer's own. A layout that
fails leaves everything but the planes as it was. -/
theorem layOut_lays (format : Format) (stride height : UInt32) (m : Metadata) :
    Yields (layOut format stride height) m
      (fun _ m' => ∃ shapes, format.planes? = some shapes ∧
        m'.Lies m'.totalSize.toNat 0 shapes.length 0 ∧
        m'.Rows format (shapes.headD ⟨1, 1, 1⟩) stride height 0 shapes ∧
        (∀ p, shapes.length ≤ p →
          m'.strides.entry p = 0 ∧ m'.offsets.entry p = 0 ∧ m'.sizes.entry p = 0) ∧
        m' = { m with
          strides := m'.strides
          offsets := m'.offsets
          sizes := m'.sizes
          numPlanes := shapes.length
          totalSize := m'.totalSize })
      (fun _ m' => Framed m m') := by
  unfold layOut
  simp only [yields_bind, yields_ofExcept, yields_modify]
  refine ⟨fun shapes hshapes => ?_, fun _ _ => rfl⟩
  have hshapes := Format.planes_ok hshapes
  have hlength := Format.planes_length hshapes
  apply (layPlanes_lies format _ stride height shapes 0 0 m (by omega)).imp
  · intro total m' h
    obtain ⟨hlies, hrows, -, hothers⟩ := h
    have hkept : ∀ q, q < 0 + shapes.length →
        (m'.strides.keep shapes.length).entry q = m'.strides.entry q ∧
        (m'.offsets.keep shapes.length).entry q = m'.offsets.entry q ∧
        (m'.sizes.keep shapes.length).entry q = m'.sizes.entry q := by
      intro q hq
      have hq : q < shapes.length := by omega
      simp only [Planes.entry_keep, if_pos hq, and_self]
    refine ⟨shapes, hshapes, ?_, ?_, ?_, ?_⟩
    · exact hlies.congr fun q _ hq => (hkept q hq).2
    · exact hrows.congr fun q _ hq => ⟨(hkept q hq).1, (hkept q hq).2.2⟩
    · intro q hq
      have hq : ¬q < shapes.length := Nat.not_lt.mpr hq
      simp only [finish, Planes.entry_keep, if_neg hq, and_self]
    · rw [Framed] at hothers
      rw [hothers]
      rfl
  · exact fun _ _ h => h

theorem layOut_linear (format : Format) (stride height : UInt32) (m : Metadata)
    (hf : m.format = format) :
    Yields (layOut format stride height) m
      (fun _ m' => ∃ shapes, m.format.planes? = some shapes ∧ Linear stride height shapes m m')
      (fun _ m' => Framed m m') := by
  subst hf
  apply (layOut_lays m.format stride height m).imp
  · rintro _ m' ⟨shapes, hs, hlies, hrows, hrest, hothers⟩
    exact ⟨shapes, hs, hlies, hrows, hrest, hothers⟩
  · exact fun _ _ h => h

theorem Linear.laid {stride height : UInt32} {shapes : List PlaneShape}
    (h : Linear stride height shapes m m') (hs : m.format.planes? = some shapes) :
    m'.Laid ∧ m'.format = m.format := by
  have hnum : m'.numPlanes = shapes.length := by rw [h.others]
  have hformat : m'.format = m.format := by rw [h.others]
  refine ⟨⟨⟨shapes, by rw [hformat, hs], hnum.symm⟩, ⟨_, Nat.le_refl _, ?_⟩, ?_⟩, hformat⟩
  · rw [hnum]
    exact h.lies
  · rw [hnum]
    exact h.rest

section

variable {stride height : UInt32} {shape : PlaneShape} {rest : List PlaneShape}

theorem Linear.first_stride (h : Linear stride height (shape :: rest) m m') :
    m'.strides.entry 0 = stride := (Except.ok.inj h.rows.1).symm

theorem Linear.first_size (h : Linear stride height (shape :: rest) m m') :
    (m'.sizes.entry 0).toNat = stride.toNat * ceilDiv height.toNat shape.vertical := by
  rw [← h.first_stride]
  exact h.rows.2.1

/-- Any plane behind the first takes room, unless the first takes none. -/
theorem Linear.first_lt {next : PlaneShape} (h : Linear stride height (shape :: next :: rest) m m')
    (hs : m.format.planes? = some (shape :: next :: rest)) (hstride : 0 < stride.toNat)
    (hheight : 0 < height.toNat) : stride.toNat * height.toNat < m'.totalSize.toNat := by
  obtain ⟨-, hvertical, hshapes⟩ := Format.planes_shapes hs
  obtain ⟨-, -, hfirst⟩ := hshapes shape List.mem_cons_self
  obtain ⟨hnexth, hnextv, hnextb⟩ := hshapes next (by simp)
  obtain ⟨-, -, hrow, hsize, -⟩ := h.rows
  have hrow := chromaStride_pos (Nat.mul_pos hfirst hnexth) hnextb hstride hrow
  have hnext : 0 < (m'.sizes.entry 1).toNat := by
    rw [hsize]
    exact Nat.mul_pos hrow (ceilDiv_pos hheight hnextv)
  have hsize := h.first_size
  rw [hvertical, ceilDiv_one] at hsize
  have hend : 0 + (m'.sizes.entry 0).toNat + (m'.sizes.entry 1).toNat ≤ m'.totalSize.toNat :=
    h.lies.2.2.le
  omega

theorem Linear.empty (h : Linear stride height (shape :: rest) m m')
    (hs : m.format.planes? = some (shape :: rest)) (hz : stride.toNat = 0 ∨ height.toNat = 0) :
    m'.totalSize.toNat = 0 := by
  obtain ⟨-, -, hshapes⟩ := Format.planes_shapes hs
  exact h.rows.empty h.lies (hshapes shape List.mem_cons_self).2.2 (fun s hm => (hshapes s hm).1) hz

theorem Linear.single (h : Linear stride height [shape] m m') (hv : shape.vertical = 1) :
    m'.totalSize.toNat = stride.toNat * height.toNat := by
  have hend : 0 + (m'.sizes.entry 0).toNat = m'.totalSize.toNat := h.lies.2
  have hsize := h.first_size
  rw [hv, ceilDiv_one] at hsize
  omega

end

theorem laidOut_linear {stride height : UInt32} (h : m.laidOut m.format stride height = .ok m') :
    ∃ shapes, m.format.planes? = some shapes ∧ Linear stride height shapes m m' := by
  have hy := layOut_linear m.format stride height m rfl
  unfold laidOut at h
  split at h
  · rename_i hr
    cases h
    exact hy.of_ok hr
  · cases h

/-- More room behind the last plane, and another modifier, leave the planes where they are. -/
theorem Laid.pad (h : m.Laid) {total : UInt64} (ht : m.totalSize.toNat ≤ total.toNat)
    (modifier : UInt64) : Laid { m with totalSize := total, modifier } := by
  obtain ⟨stop, hstop, hlies⟩ := h.lies
  exact ⟨h.shapes, ⟨stop, Nat.le_trans hstop ht, hlies.congr fun _ _ _ => ⟨rfl, rfl⟩⟩, h.rest⟩

end Metadata

end GraphicsBuffers
