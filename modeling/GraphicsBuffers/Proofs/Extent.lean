import GraphicsBuffers.Proofs.Mapping

/-!
How large a buffer is. If the library hands out enough memory for what it is asked for, the planes
of a buffer stay within its memory and hold all of its pixels, however they came to lie there.
-/

namespace GraphicsBuffers

open Metadata

/-- Where whole pixels are asked for, every row holds its pixels, and the memory all rows. -/
def AllocAnswer.Suffices (answer : AllocAnswer) (request : AllocRequest) : Prop :=
  ∀ shape, request.format.planes? = some [shape] →
    request.width.toNat * shape.bytes ≤ (answer.rowBytes request).toNat ∧
      (answer.rowBytes request).toNat * request.height.toNat ≤ answer.size.toNat

namespace Plan

variable {m m' : Metadata} {flags : UseFlags} {stride : UInt32} {native : Bool} {plan : Plan}
  {shapes : List PlaneShape} {shape : PlaneShape} {size : Nat}

/-- Rows of bytes that hold the row they were folded from. -/
theorem le_fold (plan : Plan) :
    plan.request.width.toNat ≤ 4096 * plan.fold.request.height.toNat := by
  rw [fold_height, Nat.mul_comm]
  exact le_ceilDiv_mul _ (by decide)

theorem Placed.fits (h : Placed m flags stride native plan m') (hs : m.format.planes? = some shapes)
    (hplain : shapes.length = 1 ∨ native = false)
    (hlong : ∀ shape, plan.request.format.planes? = some [shape] →
      plan.request.width.toNat * shape.bytes ≤ stride.toNat ∧
        stride.toNat * plan.request.height.toNat ≤ size) : m'.totalSize.toNat ≤ size := by
  cases h with
  | own h hrow hs' hl =>
    cases hs.symm.trans hs'
    obtain ⟨shape, rfl⟩ := List.length_eq_one_iff.mp (hplain.resolve_right nofun)
    obtain ⟨-, hvertical, -⟩ := Format.planes_shapes hs
    rw [← h.format] at hs
    obtain ⟨-, hsize⟩ := hlong shape hs
    rwa [hl.single hvertical, ← h.height]
  | row h hrow hl =>
    obtain ⟨-, hsize⟩ := hlong ⟨1, 1, 1⟩ (by rw [fold_format, h.format, hrow.1]; rfl)
    rwa [hl.single rfl]
  | @bytes _ plan' _ _ _ _ total h hw hf =>
    obtain ⟨hwidth, hsize⟩ := hlong ⟨1, 1, 1⟩ (by rw [fold_format, hf]; rfl)
    have hfold := plan'.le_fold
    -- The rows of the memory may be longer than those that the bytes were folded into.
    calc total.toNat
      _ ≤ 4096 * plan'.fold.request.height.toNat := by omega
      _ ≤ stride.toNat * plan'.fold.request.height.toNat := Nat.mul_le_mul_right _ hwidth
      _ ≤ size := hsize

theorem Placed.holds (h : Placed m flags stride native plan m')
    (hs : m.format.planes? = some [shape])
    (hlong : ∀ shape, plan.request.format.planes? = some [shape] →
      plan.request.width.toNat * shape.bytes ≤ stride.toNat) :
    m.width.toNat * m.height.toNat * shape.bytes ≤ m'.totalSize.toNat := by
  obtain ⟨-, hvertical, -⟩ := Format.planes_shapes hs
  cases h with
  | own h hrow hs' hl =>
    cases hs.symm.trans hs'
    rw [hl.single hvertical]
    rw [← h.format] at hs
    calc m.width.toNat * m.height.toNat * shape.bytes
      _ = m.width.toNat * shape.bytes * m.height.toNat := Nat.mul_right_comm _ _ _
      _ ≤ plan.request.width.toNat * shape.bytes * m.height.toNat :=
        Nat.mul_le_mul_right _ (Nat.mul_le_mul_right _ h.width_le)
      _ ≤ stride.toNat * m.height.toNat := Nat.mul_le_mul_right _ (hlong shape hs)
  | @row plan' _ h hrow hl =>
    rw [hrow.1] at hs
    cases hs
    rw [hl.single rfl, hrow.2]
    have hwidth := hlong ⟨1, 1, 1⟩ (by rw [fold_format, h.format, hrow.1]; rfl)
    calc m.width.toNat * (1 : UInt32).toNat * 1
      _ = m.width.toNat := by simp
      _ ≤ plan'.request.width.toNat := h.width_le
      _ ≤ 4096 * plan'.fold.request.height.toNat := plan'.le_fold
      _ ≤ stride.toNat * plan'.fold.request.height.toNat := Nat.mul_le_mul_right _ hwidth
  | @bytes first _ _ _ row laid total h hw hf =>
    cases hs.symm.trans h.shapes
    calc m.width.toNat * m.height.toNat * shape.bytes
      _ = m.width.toNat * shape.bytes * m.height.toNat := Nat.mul_right_comm _ _ _
      _ ≤ first.request.width.toNat * shape.bytes * m.height.toNat :=
        Nat.mul_le_mul_right _ (Nat.mul_le_mul_right _ h.own.width_le)
      _ = laid.totalSize.toNat := by rw [h.linear.single hvertical, h.stride_eq]
      _ ≤ total.toNat := h.total_le

end Plan

namespace Allocator

variable (a : Allocator) {flags : UseFlags} {f f' : Focus}

/-- The answer that an allocation rests on says how long its rows and how large its memory are. -/
theorem granted_suffices {answers : List AllocAnswer} {es : List Event} {request : AllocRequest}
    {al : Vendor.Allocation} (hg : Granted answers es request al)
    (hanswers : ∀ r ∈ answered answers (asked es), r.2.grants = true → r.2.Suffices r.1) :
    ∃ size, al.descriptor.size = .ok size ∧ ∀ shape, request.format.planes? = some [shape] →
      request.width.toNat * shape.bytes ≤ al.stride.toNat ∧
        al.stride.toNat * request.height.toNat ≤ size.toNat := by
  obtain ⟨answer, d, hm, hgrants, hd, rfl⟩ := hg
  exact ⟨answer.size, hd, hanswers _ hm hgrants⟩

/-- A buffer whose format has one plane, or is not native, lies within the memory that was allocated
for it, and with it every mapping. One of whole pixels has room for all of them. -/
theorem createBuffer_extent {width height : UInt32} {format : Format} {shapes : List PlaneShape}
    (hc : (backend a).createBuffer width height format flags f = .ok () f')
    (hs : format.planes? = some shapes)
    (hplain : shapes.length = 1 ∨ f.host.supports format = false)
    (hanswers : ∀ r ∈ answered f.host.answers.allocs (asked (added f.host f'.host)),
      r.2.grants = true → r.2.Suffices r.1) :
    ∃ k d size, f'.buffer.backing? = some k ∧
      k.descriptors = List.replicate f'.buffer.metadata.numPlanes d ∧ d.size = .ok size ∧
      f'.buffer.metadata.totalSize ≤ size ∧
      (∀ shape, shapes = [shape] → width.toNat * height.toNat * shape.bytes ≤
        f'.buffer.metadata.totalSize.toNat) ∧
      ∀ b use g m g', g.buffer = f'.buffer → (backend b).mapBuffer use g = .ok m g' →
        m.length = f'.buffer.metadata.totalSize := by
  obtain ⟨m, hm, hmade⟩ := (createBuffer_made a flags f width height format).of_ok hc
  obtain ⟨plan, al, imported, f₁, f₂, hb, hbuffer, ⟨es₂, he₂⟩, rfl⟩ := hmade.attached
  obtain ⟨m', hp, hb₁⟩ := hb.placed
  obtain ⟨hwidth, hheight, hformat⟩ := unplaced_ok hm
  rw [← hformat] at hs hplain
  obtain ⟨es₃, he₃, -⟩ := settled_extends
    ⟨List.replicate f₂.buffer.metadata.numPlanes al.descriptor, imported, al.mapStride⟩ f₂
  rw [he₂, List.append_assoc] at he₃
  obtain ⟨scanout, hg⟩ := hb.granted he₃
  obtain ⟨size, hsize, hlong⟩ := granted_suffices hg hanswers
  have htotal : f₂.buffer.metadata.totalSize = m'.totalSize := by rw [hbuffer, hb₁]
  refine ⟨_, al.descriptor, size, rfl, rfl, hsize, ?_, ?_, ?_⟩
  · change f₂.buffer.metadata.totalSize ≤ size
    rw [htotal, UInt64.le_iff_toNat_le]
    exact hp.fits hs hplain hlong
  · rintro shape rfl
    change _ ≤ f₂.buffer.metadata.totalSize.toNat
    rw [htotal, ← hwidth, ← hheight]
    exact hp.holds hs fun shape h => (hlong shape h).1
  · intro b use g m g' hg hr
    rw [((mapBuffer_maps b g use).of_ok hr).1, hg]

/-- Three-byte pixels that are not native, two rows of them. -/
def allocateBgr888 : FocusM Unit :=
  (backend ⟨.supplied, .linked⟩).createBuffer 100 2 .bgr888 .softwareReadOften

theorem createBuffer_extent_bgr888 : ∃ f' k d size, allocateBgr888 { host := {} } = .ok () f' ∧
    f'.buffer.backing? = some k ∧ k.descriptors = List.replicate f'.buffer.metadata.numPlanes d ∧
    d.size = .ok size ∧ f'.buffer.metadata.totalSize ≤ size ∧
    100 * 2 * 3 ≤ f'.buffer.metadata.totalSize.toNat := by
  have hrun : ∃ u f', allocateBgr888 { host := {} } = .ok u f' ∧
      answered [] (asked (added {} f'.host)) = [(⟨4096, 1, .r8, true, false, false⟩, {})] :=
    Yields.exists_ok (by decide +kernel)
  obtain ⟨_, f', hc, hasked⟩ := hrun
  have hanswers : ∀ r ∈ answered [] (asked (added {} f'.host)),
      r.2.grants = true → r.2.Suffices r.1 := by
    rw [hasked]
    intro r hr _ shape hs
    obtain rfl := List.mem_singleton.mp hr
    cases hs
    decide
  obtain ⟨k, d, size, hk, hd, hsize, hfit, hpixels, -⟩ :=
    createBuffer_extent ⟨.supplied, .linked⟩ hc rfl (Or.inl rfl) hanswers
  exact ⟨f', k, d, size, hc, hk, hd, hsize, hfit, hpixels ⟨1, 1, 3⟩ rfl⟩

end Allocator

end GraphicsBuffers
