import GraphicsBuffers.Proofs.Alignment
import GraphicsBuffers.Proofs.Layout

/-!
How a plan comes about. It asks for the buffer in its own format, or for the bytes of one whose
format is not native; and where this makes one row of bytes, for a texture that holds them.
-/

namespace GraphicsBuffers.Plan

open Metadata

variable {m : Metadata} {flags : UseFlags} {supported : Bool} {plan first : Plan}

/-- What is asked for in the buffer's own format. -/
structure Own (m : Metadata) (flags : UseFlags) (plan : Plan) : Prop where
  width : plan.request.width.toNat =
    if flags.intersects .camera then ceilDiv m.width.toNat 32 * 32 else m.width.toNat
  height : plan.request.height = m.height
  format : plan.request.format = m.format
  sizeAlign : plan.sizeAlign = if flags.intersects .camera then cameraSizeAlign else 1
  blob : plan.blob = none

theorem native_own (h : native m flags = .ok plan) : Own m flags plan := by
  unfold native at h
  dsimp only at h
  split at h
  · rename_i hcamera
    obtain ⟨width, hwidth, h⟩ := bind_eq_ok.mp h
    cases h
    refine ⟨?_, rfl, rfl, by simp [hcamera], rfl⟩
    rw [if_pos hcamera]
    exact roundUp_ok (k := 5) rfl hwidth
  · rename_i hcamera
    cases h
    exact ⟨by rw [if_neg hcamera], rfl, rfl, by simp [hcamera], rfl⟩

theorem Own.width_le (h : Own m flags plan) : m.width.toNat ≤ plan.request.width.toNat := by
  rw [h.width]
  split
  · exact le_ceilDiv_mul _ (by decide)
  · exact Nat.le_refl _

theorem Own.isRow_iff (h : Own m flags plan) :
    plan.isRow = true ↔ m.format = .r8 ∧ m.height = 1 := by
  simp [isRow, h.format, h.height]

theorem Own.align_ok (h : Own m flags plan) {size total : UInt64}
    (ha : align64 size plan.sizeAlign.toUInt64 = .ok total) :
    total.toNat =
      if flags.intersects .camera then ceilDiv size.toNat 4096 * 4096 else size.toNat := by
  rw [h.sizeAlign] at ha
  split
  · rename_i hcamera
    rw [if_pos hcamera] at ha
    exact roundUp_ok (k := 12) rfl ha
  · rename_i hcamera
    rw [if_neg hcamera] at ha
    have hround : total.toNat = ceilDiv size.toNat 1 * 1 := roundUp_ok (k := 0) rfl ha
    rw [hround, ceilDiv_one, Nat.mul_one]

theorem strideFromWidth_ok {format : Format} {width stride : UInt32}
    (h : strideFromWidth format width = .ok stride) : ∃ shape rest,
      format.planes? = some (shape :: rest) ∧ stride.toNat = width.toNat * shape.bytes := by
  obtain ⟨shapes, hshapes, h⟩ := bind_eq_ok.mp h
  have hshapes := Format.planes_ok hshapes
  cases shapes with
  | nil => cases h
  | cons shape rest => exact ⟨shape, rest, hshapes, checkedWord_times h⟩

/-- The bytes of one row of whole pixels, as many as the use asks for. -/
def pixelRow (flags : UseFlags) (width : UInt32) (shape : PlaneShape) : Nat :=
  (if flags.intersects .camera then ceilDiv width.toNat 32 * 32 else width.toNat) * shape.bytes

/-- The bytes of a buffer: a linear layout of its planes, with the end on the boundary that the use
asks for. -/
structure Bytes (m : Metadata) (flags : UseFlags) (first : Plan) (shape : PlaneShape)
    (rest : List PlaneShape) (stride : UInt32) (laid : Metadata) (total : UInt64) : Prop where
  own : Own m flags first
  shapes : m.format.planes? = some (shape :: rest)
  stride_eq : stride.toNat = first.request.width.toNat * shape.bytes
  linear : Linear stride m.height (shape :: rest) m laid
  total_eq : total.toNat = if flags.intersects .camera then
    ceilDiv laid.totalSize.toNat 4096 * 4096 else laid.totalSize.toNat

theorem Bytes.row_eq {shape : PlaneShape} {rest : List PlaneShape} {row : UInt32}
    {laid : Metadata} {total : UInt64} (h : Bytes m flags first shape rest row laid total) :
    row.toNat = pixelRow flags m.width shape := by
  rw [h.stride_eq, h.own.width, pixelRow]

theorem Bytes.total_le {shape : PlaneShape} {rest : List PlaneShape} {stride : UInt32}
    {laid : Metadata} {total : UInt64} (h : Bytes m flags first shape rest stride laid total) :
    laid.totalSize.toNat ≤ total.toNat := by
  rw [h.total_eq]
  split
  · exact le_ceilDiv_mul _ (by decide)
  · exact Nat.le_refl _

theorem asBytes_ok (hfirst : Own m flags first) (h : asBytes first m = .ok plan) :
    ∃ shape rest stride laid total, Bytes m flags first shape rest stride laid total ∧
      plan.request.width.toNat = total.toNat ∧ plan.request.height = 1 ∧
      plan.request.format = .r8 ∧ plan.blob = some { laid with totalSize := total } := by
  obtain ⟨stride, hstride, h⟩ := bind_eq_ok.mp h
  obtain ⟨laid, hlaid, h⟩ := bind_eq_ok.mp h
  obtain ⟨total, htotal, h⟩ := bind_eq_ok.mp h
  obtain ⟨width, hwidth, h⟩ := bind_eq_ok.mp h
  cases h
  obtain ⟨shape, rest, hshapes, hstride⟩ := strideFromWidth_ok hstride
  rw [hfirst.height] at hlaid
  obtain ⟨shapes, hs, hlinear⟩ := laidOut_linear hlaid
  cases hshapes.symm.trans hs
  exact ⟨shape, rest, stride, laid, total,
    ⟨hfirst, hshapes, hstride, hlinear, hfirst.align_ok htotal⟩, narrow_ok hwidth, rfl, rfl, rfl⟩

@[simp] theorem fold_format (plan : Plan) : plan.fold.request.format = plan.request.format := rfl

@[simp] theorem fold_blob (plan : Plan) : plan.fold.blob = plan.blob := rfl

theorem fold_height (plan : Plan) :
    plan.fold.request.height.toNat = ceilDiv plan.request.width.toNat 4096 := by
  have hlt := plan.request.width.toNat_lt
  change (ceilDiv plan.request.width.toNat 4096).toUInt32.toNat = _
  rw [Nat.toUInt32_eq, UInt32.toNat_ofNat']
  unfold ceilDiv
  omega

/-- A plan for a buffer whose format is native or not. -/
inductive Drawn (m : Metadata) (flags : UseFlags) : Bool → Plan → Prop
  | own {plan : Plan} (h : Own m flags plan) (hrow : ¬(m.format = .r8 ∧ m.height = 1)) :
      Drawn m flags true plan
  | row {plan : Plan} (h : Own m flags plan) (hrow : m.format = .r8 ∧ m.height = 1) :
      Drawn m flags true plan.fold
  | bytes {first plan : Plan} (h : Own m flags first) (hb : asBytes first m = .ok plan) :
      Drawn m flags false plan.fold

/-- A plan starts out in the buffer's own format, goes on in bytes if that is not native, and ends
as a texture if this makes one row of bytes. -/
theorem draw_ok {notes : List String} (h : draw m flags supported = .ok (plan, notes)) :
    ∃ first second, native m flags = .ok first ∧
      (if supported then .ok first else asBytes first m) = .ok second ∧
      plan = if second.isRow then second.fold else second := by
  obtain ⟨first, hfirst, h⟩ := bind_eq_ok.mp h
  have hend {second : Plan} {taken : List String} (h : (if second.isRow then
      pure (second.fold, taken ++ [foldNote second.fold]) else pure (second, taken) :
        Except Error (Plan × List String)) = .ok (plan, notes)) :
      plan = if second.isRow then second.fold else second := by
    cases hrow : second.isRow <;> rw [hrow] at h <;> cases h <;> rfl
  cases supported with
  | true => exact ⟨first, first, hfirst, rfl, hend h⟩
  | false =>
    obtain ⟨second, hsecond, h⟩ := bind_eq_ok.mp h
    exact ⟨first, second, hfirst, hsecond, hend h⟩

theorem asBytes_isRow (hfirst : Own m flags first) (h : asBytes first m = .ok plan) :
    plan.isRow = true := by
  obtain ⟨-, -, -, -, -, -, -, hheight, hformat, -⟩ := asBytes_ok hfirst h
  simp [isRow, hheight, hformat]

theorem draw_drawn {notes : List String} (h : draw m flags supported = .ok (plan, notes)) :
    Drawn m flags supported plan := by
  obtain ⟨first, second, hfirst, hsecond, hplan⟩ := draw_ok h
  have hfirst := native_own hfirst
  rw [hplan]
  cases supported with
  | true =>
    cases hsecond
    split
    · rename_i hrow
      exact .row hfirst (hfirst.isRow_iff.mp hrow)
    · rename_i hrow
      exact .own hfirst fun h => hrow (hfirst.isRow_iff.mpr h)
  | false =>
    rw [if_pos (asBytes_isRow hfirst hsecond)]
    exact .bytes hfirst hsecond

end GraphicsBuffers.Plan
