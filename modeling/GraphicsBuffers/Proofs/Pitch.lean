import GraphicsBuffers.Proofs.ByteSize
import GraphicsBuffers.Proofs.Creation

/-!
Whether the rows that a buffer is imported with are as long as the library is told. Bytes are
imported as one row of all of them, though with the stride of the planes that they stand for.
-/

namespace GraphicsBuffers

open Metadata

/-- The shape of the first plane. -/
def Format.first? (f : Format) : Option PlaneShape := f.planes?.bind List.head?

/-- The stride holds a row of the first plane. -/
def ImportRequest.Fits (request : ImportRequest) : Prop :=
  ∀ shape ∈ request.format.first?, request.width.toNat * shape.bytes ≤ request.stride.toNat

instance (request : ImportRequest) : Decidable request.Fits := Option.decidableForallMem _

/-- The granted rows hold a row of the first plane. -/
def AllocAnswer.Spans (answer : AllocAnswer) (request : AllocRequest) : Prop :=
  ∀ shape ∈ request.format.first?,
    request.width.toNat * shape.bytes ≤ (answer.rowBytes request).toNat

instance (answer : AllocAnswer) (request : AllocRequest) : Decidable (answer.Spans request) :=
  Option.decidableForallMem _

theorem Format.first?_eq {f : Format} {shape : PlaneShape} {rest : List PlaneShape}
    (h : f.planes? = some (shape :: rest)) : f.first? = some shape := by
  simp [first?, h]

theorem ImportRequest.fits_iff {request : ImportRequest} {shape : PlaneShape}
    (h : request.format.first? = some shape) :
    request.Fits ↔ request.width.toNat * shape.bytes ≤ request.stride.toNat := by
  simp [Fits, h]

section

variable {answers : List AllocAnswer} {es : List Event} {request : AllocRequest}
  {al : Vendor.Allocation}

theorem Granted.stride (hg : Granted answers es request al) :
    ∃ granted ∈ answered answers (asked es),
      granted.2.grants = true ∧ al.stride = granted.2.rowBytes granted.1 := by
  obtain ⟨answer, d, hm, hgrants, -, rfl⟩ := hg
  exact ⟨_, hm, hgrants, rfl⟩

theorem Granted.spans (hg : Granted answers es request al)
    (hanswers : ∀ r ∈ answered answers (asked es), r.2.grants = true → r.2.Spans r.1)
    {shape : PlaneShape} (hs : request.format.first? = some shape) :
    request.width.toNat * shape.bytes ≤ al.stride.toNat := by
  obtain ⟨answer, d, hm, hgrants, -, rfl⟩ := hg
  exact hanswers _ hm hgrants shape hs

end

namespace Plan

variable {m m' laid : Metadata} {flags : UseFlags} {stride row : UInt32} {total modifier : UInt64}
  {plan first : Plan} {shape : PlaneShape} {rest : List PlaneShape} {request : ImportRequest}

theorem Bytes.empty (h : Bytes m flags first shape rest row laid total)
    (hz : row.toNat = 0 ∨ m.height.toNat = 0) : total.toNat = 0 := by
  rw [h.total_eq, h.linear.empty h.shapes hz, ceilDiv_zero]
  split <;> rfl

theorem Bytes.single (h : Bytes m flags first shape [] row laid total)
    (hheight : m.height.toNat = 1) :
    total.toNat ≤ row.toNat ↔ (flags.intersects .camera → 4096 ∣ row.toNat) := by
  obtain ⟨-, hvertical, -⟩ := Format.planes_shapes h.shapes
  rw [h.total_eq, h.linear.single hvertical, hheight, Nat.mul_one]
  split
  · rename_i hcamera
    rw [ceilDiv_mul_le_iff (by decide)]
    exact ⟨fun hd _ => hd, fun hd => hd hcamera⟩
  · rename_i hcamera
    exact iff_of_true (Nat.le_refl _) fun h => absurd h hcamera

/-- A second row, or a second plane, lies behind the first row. -/
theorem Bytes.row_lt (h : Bytes m flags first shape rest row laid total) (hrow : 0 < row.toNat)
    (hheight : 0 < m.height.toNat) (hmore : ¬(rest = [] ∧ m.height.toNat = 1)) :
    row.toNat < total.toNat := by
  refine Nat.lt_of_lt_of_le ?_ h.total_le
  have hrows : row.toNat ≤ row.toNat * m.height.toNat := Nat.le_mul_of_pos_right _ hheight
  cases rest with
  | nil =>
    obtain ⟨-, hvertical, -⟩ := Format.planes_shapes h.shapes
    have hlaid := h.linear.single hvertical
    have htwo : 2 ≤ m.height.toNat := by
      have : m.height.toNat ≠ 1 := fun h1 => hmore ⟨rfl, h1⟩
      omega
    have := Nat.mul_le_mul_left row.toNat htwo
    omega
  | cons next rest =>
    have := h.linear.first_lt h.shapes hrow hheight
    omega

/-- All bytes lie in the first row where there are none, or where there are no more rows and no more
planes, and the first row ends where the use asks for the end to be. -/
theorem Bytes.total_le_row_iff (h : Bytes m flags first shape rest row laid total) :
    total.toNat ≤ row.toNat ↔ row.toNat = 0 ∨ m.height.toNat = 0 ∨
      rest = [] ∧ m.height.toNat = 1 ∧ (flags.intersects .camera → 4096 ∣ row.toNat) := by
  rw [← or_assoc]
  by_cases hz : row.toNat = 0 ∨ m.height.toNat = 0
  · rw [h.empty hz]
    exact iff_of_true (Nat.zero_le _) (Or.inl hz)
  rw [or_iff_right hz]
  obtain ⟨hrow, hheight⟩ := not_or.mp hz
  -- Anything behind the first row makes the bytes more than fit there, padded or not.
  by_cases hone : rest = [] ∧ m.height.toNat = 1
  · obtain ⟨rfl, hone⟩ := hone
    rw [h.single hone]
    exact ⟨fun hd => ⟨rfl, hone, hd⟩, fun hd => hd.2.2⟩
  · have hlt := h.row_lt (Nat.pos_of_ne_zero hrow) (Nat.pos_of_ne_zero hheight) hone
    exact iff_of_false (Nat.not_le.mpr hlt) fun hd => hone ⟨hd.1, hd.2.1⟩

theorem Placed.native_stride (h : Placed m flags stride true plan m') :
    m'.strides.entry 0 = stride := by
  cases h with
  | own h hrow hs hl =>
    obtain ⟨hlength, -⟩ := Format.planes_length hs
    obtain ⟨shape, rest, rfl⟩ := List.exists_cons_of_length_pos hlength
    exact hl.first_stride
  | row h hrow hl => exact hl.first_stride

/-- The rows of the memory hold those of the buffer, unless it is one row of bytes, whose memory has
rows of 4096 of them. -/
theorem Placed.native_fits_iff (h : Placed m flags stride true plan m')
    (hs : m.format.first? = some shape)
    (hspans : ∀ shape, plan.request.format.first? = some shape →
      plan.request.width.toNat * shape.bytes ≤ stride.toNat) :
    (m.format = .r8 ∧ m.height = 1 → 4096 ≤ stride.toNat) ∧
      (m.width.toNat * shape.bytes ≤ stride.toNat ↔
        (m.format = .r8 ∧ m.height = 1 → m.width.toNat ≤ stride.toNat)) := by
  cases h with
  | own h hrow hs' hl =>
    rw [← h.format] at hs
    have hfits : m.width.toNat * shape.bytes ≤ stride.toNat :=
      calc m.width.toNat * shape.bytes
        _ ≤ plan.request.width.toNat * shape.bytes := Nat.mul_le_mul_right _ h.width_le
        _ ≤ stride.toNat := hspans shape hs
    exact ⟨fun h => absurd h hrow, iff_of_true hfits fun h => absurd h hrow⟩
  | row h hrow hl =>
    have hwidth : 4096 * 1 ≤ stride.toNat :=
      hspans ⟨1, 1, 1⟩ (by rw [fold_format, h.format, hrow.1]; rfl)
    rw [hrow.1] at hs
    cases hs
    rw [Nat.mul_one]
    exact ⟨fun _ => hwidth, (imp_iff_right hrow).symm⟩

theorem Placed.bytes_total (h : Placed m flags stride false plan m')
    (hs : m.format.planes? = some (shape :: rest)) :
    m'.totalSize.toNat = m.byteSize flags (shape :: rest) := by
  cases h with
  | bytes h =>
    cases hs.symm.trans h.shapes
    exact h.measured.total

theorem Placed.bytes_fits (h : Placed m flags stride false plan m')
    (hs : m.format.planes? = some (shape :: rest)) :
    (m'.strides.entry 0).toNat = pixelRow flags m.width shape ∧
      (m'.totalSize.toNat ≤ pixelRow flags m.width shape ↔
        pixelRow flags m.width shape = 0 ∨ m.height.toNat = 0 ∨ rest = [] ∧ m.height.toNat = 1 ∧
          (flags.intersects .camera → 4096 ∣ pixelRow flags m.width shape)) := by
  cases h with
  | bytes h =>
    cases hs.symm.trans h.shapes
    have hfirst := h.linear.first_stride
    rw [← h.row_eq]
    exact ⟨congrArg UInt32.toNat hfirst, h.total_le_row_iff⟩

/-- Memory that holds the planes of a native buffer is offered for import as the buffer. -/
theorem Placed.native_offered (h : Placed m flags stride true plan m')
    (hknown : Allocator.geometry true { m' with modifier } =
      .ok (request.width, request.height, request.format))
    (hstride : request.stride = m'.strides.entry 0) :
    request.width = m.width ∧ request.height = m.height ∧ request.format = m.format ∧
      request.stride = stride := by
  have hsize := hknown.symm.trans (h.geometry_native modifier)
  simp only [Except.ok.injEq, Prod.mk.injEq] at hsize
  obtain ⟨hwidth, hheight, hformat⟩ := hsize
  exact ⟨hwidth, hheight, hformat, hstride.trans h.native_stride⟩

/-- Bytes are offered for import as one row of them. -/
theorem Placed.bytes_offered (h : Placed m flags stride false plan m')
    (hs : m.format.planes? = some (shape :: rest))
    (hknown : Allocator.geometry false { m' with modifier } =
      .ok (request.width, request.height, request.format))
    (hstride : request.stride = m'.strides.entry 0) :
    request.width.toNat = m'.totalSize.toNat ∧ request.height = 1 ∧ request.format = .r8 ∧
      request.stride.toNat = pixelRow flags m.width shape := by
  obtain ⟨hlt, hbytes⟩ := h.geometry_bytes modifier
  have hsize := hknown.symm.trans hbytes
  simp only [Except.ok.injEq, Prod.mk.injEq] at hsize
  obtain ⟨hwidth, hheight, hformat⟩ := hsize
  refine ⟨?_, hheight, hformat, ?_⟩
  · rw [hwidth, UInt64.toNat_toUInt32]
    exact Nat.mod_eq_of_lt hlt
  · rw [hstride]
    exact (h.bytes_fits hs).1

end Plan

namespace Allocator

variable (a : Allocator) {flags : UseFlags} {f f' : Focus}

/-- A buffer in a native format is imported with the stride of its memory, which holds its rows unless
it is one row of bytes that is longer. In another format all its bytes are imported as one row, with
the stride of its first plane, which holds them only where they all lie in the first row. -/
theorem create_pitch {shape : PlaneShape} {rest : List PlaneShape} {request : ImportRequest}
    (hs : f.buffer.metadata.format.planes? = some (shape :: rest))
    (hrun : Leaves (create a flags) f f')
    (hanswers : ∀ r ∈ answered f.host.answers.allocs (asked (added f.host f'.host)),
      r.2.grants = true → r.2.Spans r.1)
    (hr : request ∈ offered (added f.host f'.host)) :
    let m := f.buffer.metadata
    let row := Plan.pixelRow flags m.width shape
    (f.host.supports m.format = true →
      request.width = m.width ∧ request.height = m.height ∧ request.format = m.format ∧
      (∃ granted ∈ answered f.host.answers.allocs (asked (added f.host f'.host)),
        granted.2.grants = true ∧ request.stride = granted.2.rowBytes granted.1) ∧
      (m.format = .r8 ∧ m.height = 1 → 4096 ≤ request.stride.toNat) ∧
      (request.Fits ↔ (m.format = .r8 ∧ m.height = 1 → m.width.toNat ≤ request.stride.toNat))) ∧
    (f.host.supports m.format = false →
      request.width.toNat = m.byteSize flags (shape :: rest) ∧
      request.width.toNat = f'.buffer.metadata.totalSize.toNat ∧
      request.height = 1 ∧ request.format = .r8 ∧ request.stride.toNat = row ∧
      (request.Fits ↔ row = 0 ∨ m.height.toNat = 0 ∨ rest = [] ∧ m.height.toNat = 1 ∧
        (flags.intersects .camera → 4096 ∣ row))) := by
  dsimp only
  obtain ⟨failure, hmade⟩ := create_leaves hrun
  obtain ⟨plan, al, c, handle, f₁, f₂, hb, ho, hkept, es, he⟩ := hmade.offers hr
  obtain ⟨scanout, hg⟩ := hb.granted he
  obtain ⟨m', hp, hbuffer⟩ := hb.placed
  have hknown := hb.known_eq.symm.trans ho.known
  have hstride := ho.stride
  rw [hbuffer] at hknown hstride hkept
  constructor
  · intro hn
    rw [hn] at hp hknown
    obtain ⟨hwidth, hheight, hformat, hrow⟩ := hp.native_offered hknown hstride
    have hs := Format.first?_eq hs
    obtain ⟨hshort, hfits⟩ := hp.native_fits_iff hs fun _ hs => hg.spans hanswers hs
    rw [ImportRequest.fits_iff (by rw [hformat, hs]), hwidth, hrow]
    exact ⟨rfl, hheight, hformat, hg.stride, hshort, hfits⟩
  · intro hn
    rw [hn] at hp hknown
    obtain ⟨hwidth, hheight, hformat, hrow⟩ := hp.bytes_offered hs hknown hstride
    rw [ImportRequest.fits_iff (by rw [hformat]; rfl), hkept, hwidth, hrow, Nat.mul_one]
    exact ⟨hp.bytes_total hs, rfl, hheight, hformat, rfl, (hp.bytes_fits hs).2⟩

/-- A buffer that is to be mapped, before there is memory for it. -/
def unmade (supported : List Format) (allocs : List AllocAnswer) (width height : UInt32)
    (format : Format) : Focus where
  host := { supported, answers := { allocs } }
  buffer := { metadata := { width, height, format } }

theorem create_pitch_bgr888 : ∃ f' request,
    create ⟨.supplied, .linked⟩ .softwareReadOften (unmade [] [] 100 1 .bgr888) = .ok () f' ∧
    request ∈ offered f'.host.events ∧ request.width.toNat = 300 ∧ request.stride.toNat = 300 ∧
    request.Fits := by
  have hrun : ∃ u f', create ⟨.supplied, .linked⟩ .softwareReadOften
      (unmade [] [] 100 1 .bgr888) = .ok u f' ∧
      (∀ r ∈ answered [] (asked f'.host.events), r.2.grants = true → r.2.Spans r.1) ∧
      offered f'.host.events = [⟨.memory 1 65536, 300, 1, 300, 0, .r8⟩] :=
    Yields.exists_ok (by decide +kernel)
  obtain ⟨_, f', hc, hanswers, hoffered⟩ := hrun
  have hr : (⟨.memory 1 65536, 300, 1, 300, 0, .r8⟩ : ImportRequest) ∈ offered f'.host.events := by
    rw [hoffered]
    exact List.mem_singleton_self _
  obtain ⟨-, hbytes⟩ := create_pitch ⟨.supplied, .linked⟩ rfl (Or.inl ⟨(), hc⟩) hanswers hr
  obtain ⟨hwidth, -, -, -, hstride, hfits⟩ := hbytes rfl
  exact ⟨f', _, hc, hr, hwidth, hstride, hfits.mpr (by decide)⟩

/-- Two rows of three-byte pixels that are not native, and one long row of bytes that the library
keeps in short ones, are imported with a stride that does not hold their rows. -/
theorem create_short_pitch :
    Yields (create ⟨.supplied, .linked⟩ .softwareReadOften) (unmade [] [] 100 2 .bgr888)
      (fun _ f' =>
        (∀ r ∈ answered [] (asked f'.host.events), r.2.grants = true → r.2.Spans r.1) ∧
        ∃ request ∈ offered f'.host.events, ¬request.Fits) (fun _ _ => False) ∧
    Yields (create ⟨.supplied, .linked⟩ .softwareReadOften)
      (unmade [.r8] [{ stride := some 4096 }] 10000 1 .r8)
      (fun _ f' =>
        (∀ r ∈ answered [{ stride := some 4096 }] (asked f'.host.events),
          r.2.grants = true → r.2.Spans r.1) ∧
        ∃ request ∈ offered f'.host.events, ¬request.Fits) (fun _ _ => False) := by
  decide +kernel

end Allocator

end GraphicsBuffers
