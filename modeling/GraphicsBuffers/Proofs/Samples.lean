import GraphicsBuffers.Proofs.ByteSize

/-!
Whether the planes of a buffer that travels as bytes have room for its picture. They do, except that
interleaved chroma of an odd number of columns is a byte short in each row: rows of chroma are
rounded up to whole bytes, not to whole pairs.
-/

namespace GraphicsBuffers

theorem Format.le_rowBytes_single {f : Format} {first shape : PlaneShape} {stride p : Nat}
    (hp : p ≠ 0) (hfirst : first.bytes = 1) (hh : shape.horizontal = 2) (hb : shape.bytes = 1) :
    ceilDiv stride 2 ≤ f.rowBytes first stride p shape := by
  rw [rowBytes, if_neg hp, hfirst, hh, hb, Nat.mul_one]
  dsimp only
  split
  · exact le_ceilDiv_mul _ (by decide)
  · exact Nat.le_refl _

namespace Metadata

/-- The bytes of the samples that one row of a plane is to hold. -/
def sampleRow (m : Metadata) (shape : PlaneShape) : Nat :=
  ceilDiv m.width.toNat shape.horizontal * shape.bytes

/-- In `layout`, each row of plane `p` has room for a row of samples, and the plane for all rows. -/
structure Holds (m layout : Metadata) (p : Nat) (shape : PlaneShape) : Prop where
  row : m.sampleRow shape ≤ (layout.strides.entry p).toNat
  plane : ceilDiv m.height.toNat shape.vertical * m.sampleRow shape ≤
    (layout.sizes.entry p).toNat

instance (m layout : Metadata) (p : Nat) (shape : PlaneShape) :
    Decidable (m.Holds layout p shape) :=
  decidable_of_iff (_ ∧ _) ⟨fun h => ⟨h.1, h.2⟩, fun h => ⟨h.1, h.2⟩⟩

variable {m layout : Metadata} {flags : UseFlags} {shapes : List PlaneShape}
  {first shape : PlaneShape} {p : Nat}

/-- Where a row holds its samples, the plane does. -/
theorem Measured.holds_iff (h : m.Measured flags shapes layout) (hs : shapes[p]? = some shape) :
    m.Holds layout p shape ↔ m.sampleRow shape ≤ (layout.strides.entry p).toNat := by
  refine ⟨Holds.row, fun hrow => ⟨hrow, ?_⟩⟩
  obtain ⟨hstride, hsize, -⟩ := h.planes p shape hs
  rw [hsize, ← hstride, Nat.mul_comm]
  exact Nat.mul_le_mul_right _ hrow

theorem sampleRow_first (hh : first.horizontal = 1) :
    m.sampleRow first ≤ Plan.pixelRow flags m.width first := by
  rw [sampleRow, hh, ceilDiv_one, Plan.pixelRow]
  apply Nat.mul_le_mul_right
  split
  · exact le_ceilDiv_mul _ (by decide)
  · exact Nat.le_refl _

/-- Single bytes are rounded up as samples are. -/
theorem sampleRow_single (hp : p ≠ 0) (hfirst : first.bytes = 1) (hh : shape.horizontal = 2)
    (hb : shape.bytes = 1) : m.sampleRow shape ≤
      m.format.rowBytes first (Plan.pixelRow flags m.width first) p shape := by
  refine Nat.le_trans ?_ (Format.le_rowBytes_single hp hfirst hh hb)
  rw [sampleRow, hh, hb, Plan.pixelRow, hfirst]
  unfold ceilDiv
  split <;> omega

/-- Pairs get as many bytes as there are columns: for an odd number, half of the last is missing. -/
theorem sampleRow_pairs (hfirst : first.bytes = 1) (hh : shape.horizontal = 2)
    (hb : shape.bytes = 2) :
    (m.sampleRow shape ≤ Plan.pixelRow flags m.width first ↔
      2 ∣ m.width.toNat ∨ flags.intersects .camera) ∧
    (¬m.sampleRow shape ≤ Plan.pixelRow flags m.width first →
      Plan.pixelRow flags m.width first + 1 = m.sampleRow shape) := by
  rw [sampleRow, hh, hb, Plan.pixelRow, hfirst]
  unfold ceilDiv
  split
  · rename_i hcamera
    have hle : (m.width.toNat + 2 - 1) / 2 * 2 ≤ (m.width.toNat + 32 - 1) / 32 * 32 * 1 := by omega
    exact ⟨iff_of_true hle (Or.inr hcamera), fun hn => absurd hle hn⟩
  · rename_i hcamera
    rw [or_iff_left hcamera]
    omega

end Metadata

/-- A plane of a buffer that travels as bytes holds its samples exactly if these fill whole columns,
are single bytes, or have rows of the length that a camera wants. Otherwise each row is a byte
short. -/
theorem planAllocation_samples {m layout : Metadata} {flags : UseFlags} {plan : Plan}
    {shapes : List PlaneShape} {shape : PlaneShape} {p : Nat}
    (hplan : planAllocation m flags false = .ok plan) (hlayout : plan.blob = some layout)
    (hshapes : m.format.planes? = some shapes) (hs : shapes[p]? = some shape) :
    (m.Holds layout p shape ↔
      shape.horizontal ∣ m.width.toNat ∨ shape.bytes = 1 ∨ flags.intersects .camera) ∧
    (¬m.Holds layout p shape → (layout.strides.entry p).toNat + 1 = m.sampleRow shape) := by
  obtain ⟨_, _, hshapes', hlayout', hmeasured, -⟩ := (planAllocation_drawn hplan).measured
  cases hshapes.symm.trans hshapes'
  cases hlayout.symm.trans hlayout'
  rw [hmeasured.holds_iff hs, (hmeasured.planes p shape hs).1]
  obtain ⟨hlength, -⟩ := Format.planes_length hshapes
  obtain ⟨first, rest, rfl⟩ := List.exists_cons_of_length_pos hlength
  rw [List.headD_cons]
  cases p with
  | zero =>
    obtain rfl : first = shape := Option.some.inj hs
    obtain ⟨hh, -, -⟩ := Format.planes_shapes hshapes
    have hle : m.sampleRow first ≤ m.format.rowBytes first (Plan.pixelRow flags m.width first) 0
      first := Metadata.sampleRow_first hh
    exact ⟨iff_of_true hle (Or.inl (hh ▸ Nat.one_dvd _)), fun hn => absurd hle hn⟩
  | succ p =>
    have hm : shape ∈ rest := List.mem_of_getElem? hs
    obtain ⟨hfirst, hh, hb | ⟨hb, hf⟩⟩ := Format.planes_chroma hshapes shape hm
    · have hle : m.sampleRow shape ≤ m.format.rowBytes first (Plan.pixelRow flags m.width first)
        (p + 1) shape := Metadata.sampleRow_single p.succ_ne_zero hfirst hh hb
      exact ⟨iff_of_true hle (Or.inr (Or.inl hb)), fun hn => absurd hle hn⟩
    · rw [Format.rowBytes_pairs p.succ_ne_zero hfirst hh hb hf, hh, hb]
      simpa using Metadata.sampleRow_pairs hfirst hh hb

/-- For a camera, rows of 32 bytes hold five columns of interleaved chroma. -/
theorem planAllocation_samples_camera :
    let m : Metadata := { width := 5, height := 4, format := .nv12 }
    ∃ plan layout, planAllocation m .cameraRead false = .ok plan ∧ plan.blob = some layout ∧
      m.Holds layout 1 ⟨2, 2, 2⟩ := by
  intro m
  obtain ⟨plan, hplan⟩ : ∃ plan, planAllocation m .cameraRead false = .ok plan :=
    planAllocation_of_lt rfl (by decide) (by decide)
  obtain ⟨_, layout, -, hlayout, -, -⟩ := (planAllocation_drawn hplan).measured
  exact ⟨plan, layout, hplan, hlayout,
    (planAllocation_samples (p := 1) hplan hlayout rfl rfl).1.mpr (by decide)⟩

/-- Otherwise their rows have five bytes, where three pairs take six. -/
theorem planAllocation_short_chroma :
    let m : Metadata := { width := 5, height := 4, format := .nv12 }
    ∃ plan layout, planAllocation m .empty false = .ok plan ∧ plan.blob = some layout ∧
      m.format.planes? = some [⟨1, 1, 1⟩, ⟨2, 2, 2⟩] ∧
      layout.strides.entry 1 = 5 ∧ layout.sizes.entry 1 = 10 ∧ ¬m.Holds layout 1 ⟨2, 2, 2⟩ :=
  ⟨_, _, rfl, rfl, rfl, rfl, rfl, by decide⟩

end GraphicsBuffers
