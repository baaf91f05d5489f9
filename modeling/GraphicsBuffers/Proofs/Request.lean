import GraphicsBuffers.Proofs.ByteSize

/-!
What a plan asks for. A buffer is asked for as it is, with rows that a camera can use, or else as a
texture of bytes that has just the rows to hold them; how it is used decides the rest.
-/

namespace GraphicsBuffers

/-- The multiples of `b` that are at least `a`. -/
def multiplesFrom (b a : Nat) : Set Nat := {k | b ∣ k ∧ a ≤ k}

theorem ceilDiv_mul_isLeast {b : Nat} (a : Nat) (hb : 0 < b) :
    IsLeast (multiplesFrom b a) (ceilDiv a b * b) := by
  refine ⟨⟨Nat.dvd_mul_left b _, le_ceilDiv_mul a hb⟩, ?_⟩
  rintro _ ⟨⟨k, rfl⟩, hk⟩
  rw [Nat.mul_comm b k] at hk ⊢
  exact Nat.mul_le_mul_right b (ceilDiv_le hk)

theorem isLeast_multiplesFrom_one (a : Nat) : IsLeast (multiplesFrom 1 a) a := by
  simpa [ceilDiv_one] using ceilDiv_mul_isLeast a Nat.one_pos

namespace Plan

open Metadata

variable {m laid : Metadata} {flags : UseFlags} {supported folded : Bool} {plan first : Plan}
  {shape : PlaneShape} {rest : List PlaneShape} {stride : UInt32} {total : UInt64}

/-- What the use of a buffer decides of the request for it. -/
structure Marked (flags : UseFlags) (supported folded : Bool) (plan : Plan) : Prop where
  linear : plan.request.linear = (flags.intersects .software || !supported)
  mapStride : plan.request.mapStride = (flags.intersects .software && !folded)
  scanout : plan.request.scanout = (flags.contains .scanout || flags.intersects .camera)
  scanoutRequired : plan.scanoutRequired = flags.intersects .camera
  sizeAlign : plan.sizeAlign.toNat = if flags.intersects .camera then 4096 else 1

theorem native_marked (h : native m flags = .ok plan) : Marked flags true false plan := by
  unfold native at h
  dsimp only at h
  split at h
  · rename_i hcamera
    obtain ⟨width, -, h⟩ := bind_eq_ok.mp h
    cases h
    exact ⟨by simp, by simp, by simp [hcamera], rfl, by simp [hcamera, cameraSizeAlign]⟩
  · rename_i hcamera
    cases h
    exact ⟨by simp, by simp, by simp [hcamera], rfl, by simp [hcamera]⟩

theorem asBytes_marked (hfirst : Marked flags true folded first)
    (h : asBytes first m = .ok plan) : Marked flags false folded plan := by
  obtain ⟨_, -, h⟩ := bind_eq_ok.mp h
  obtain ⟨_, -, h⟩ := bind_eq_ok.mp h
  obtain ⟨_, -, h⟩ := bind_eq_ok.mp h
  obtain ⟨_, -, h⟩ := bind_eq_ok.mp h
  cases h
  exact ⟨by simp, hfirst.mapStride, hfirst.scanout, hfirst.scanoutRequired, hfirst.sizeAlign⟩

theorem Marked.fold (h : Marked flags supported folded plan) :
    Marked flags supported true plan.fold :=
  ⟨h.linear, by simp [Plan.fold], h.scanout, h.scanoutRequired, h.sizeAlign⟩

theorem Own.width_isLeast (h : Own m flags plan) :
    IsLeast (multiplesFrom (if flags.intersects .camera then 32 else 1) m.width.toNat)
      plan.request.width.toNat := by
  rw [h.width]
  split
  · exact ceilDiv_mul_isLeast _ (by decide)
  · exact isLeast_multiplesFrom_one _

/-- The rows of a texture are just enough for the bytes of the row that it was folded from. -/
theorem fold_isLeast (plan : Plan) :
    IsLeast (multiplesFrom 4096 plan.request.width.toNat)
      (4096 * plan.fold.request.height.toNat) := by
  rw [fold_height, Nat.mul_comm]
  exact ceilDiv_mul_isLeast _ (by decide)

theorem Bytes.total_isLeast (h : Bytes m flags first shape rest stride laid total) :
    IsLeast (multiplesFrom (if flags.intersects .camera then 4096 else 1)
      { laid with totalSize := total }.planeSum) total.toNat := by
  have hsum : laid.planeSum = laid.totalSize.toNat := by
    have hnum : laid.numPlanes = (shape :: rest).length := by rw [h.linear.others]
    have hstop := h.linear.lies.stop_eq
    simpa [planeSum, hnum] using hstop.symm
  change IsLeast (multiplesFrom _ laid.planeSum) _
  rw [hsum, h.total_eq]
  split
  · exact ceilDiv_mul_isLeast _ (by decide)
  · exact isLeast_multiplesFrom_one _

/-- The layout of a buffer that travels as bytes is the buffer's own, up to where its planes lie. -/
structure Carries (m : Metadata) (plan : Plan) (layout : Metadata) : Prop where
  total : IsLeast (multiplesFrom plan.sizeAlign.toNat layout.planeSum) layout.totalSize.toNat
  width : layout.width = m.width
  height : layout.height = m.height
  format : layout.format = m.format
  useFlags : layout.useFlags = m.useFlags

/-- What is asked for a buffer whose rows are `w` pixels wide. One whose format is not native, or
that is a single row of bytes, becomes a texture with rows of 4096 bytes. -/
structure Asks (m : Metadata) (flags : UseFlags) (supported : Bool) (w : Nat) (plan : Plan) :
    Prop where
  blob : plan.blob.isSome = !supported
  carries : ∀ layout ∈ plan.blob, Carries m plan layout
  texture : supported = false ∨ m.format = .r8 ∧ m.height = 1 →
    plan.request.format = .r8 ∧ plan.request.width.toNat = 4096 ∧
      plan.request.mapStride = false ∧
      IsLeast (multiplesFrom 4096 ((plan.blob.map fun l => l.totalSize.toNat).getD w))
        (4096 * plan.request.height.toNat)
  own : ¬(supported = false ∨ m.format = .r8 ∧ m.height = 1) →
    plan.request.format = m.format ∧ plan.request.width.toNat = w ∧
      plan.request.height = m.height ∧ plan.request.mapStride = flags.intersects .software
  linear : plan.request.linear = (flags.intersects .software || !supported)
  scanout : plan.request.scanout = (flags.contains .scanout || flags.intersects .camera)
  scanoutRequired : plan.scanoutRequired = flags.intersects .camera
  sizeAlign : plan.sizeAlign.toNat = if flags.intersects .camera then 4096 else 1

theorem Own.asks_own (h : Own m flags plan) (hm : Marked flags true false plan)
    (hrow : ¬(m.format = .r8 ∧ m.height = 1)) :
    Asks m flags true plan.request.width.toNat plan where
  blob := by rw [h.blob]; rfl
  carries := by simp [h.blob]
  texture ht := absurd ht (by simpa using hrow)
  own _ := ⟨h.format, rfl, h.height, by simpa using hm.mapStride⟩
  linear := hm.linear
  scanout := hm.scanout
  scanoutRequired := hm.scanoutRequired
  sizeAlign := hm.sizeAlign

theorem Own.asks_texture (h : Own m flags plan) (hm : Marked flags true false plan)
    (hrow : m.format = .r8 ∧ m.height = 1) :
    Asks m flags true plan.request.width.toNat plan.fold where
  blob := by rw [fold_blob, h.blob]; rfl
  carries := by simp [h.blob]
  texture _ := by
    refine ⟨by rw [fold_format, h.format, hrow.1], rfl, rfl, ?_⟩
    rw [fold_blob, h.blob]
    exact fold_isLeast plan
  own ho := absurd (Or.inr hrow) ho
  linear := hm.linear
  scanout := hm.scanout
  scanoutRequired := hm.scanoutRequired
  sizeAlign := hm.sizeAlign

theorem asBytes_asks (hfirst : Own m flags first) (hm : Marked flags true false first)
    (h : asBytes first m = .ok plan) (w : Nat) : Asks m flags false w plan.fold := by
  have hm := asBytes_marked hm h
  obtain ⟨shape, rest, stride, laid, total, hbytes, hwidth, -, hformat, hblob⟩ :=
    asBytes_ok hfirst h
  refine ⟨by rw [fold_blob, hblob]; rfl, ?_, ?_, fun ho => absurd (Or.inl rfl) ho, hm.linear,
    hm.scanout, hm.scanoutRequired, hm.sizeAlign⟩
  · intro layout hlayout
    rw [fold_blob, hblob] at hlayout
    cases hlayout
    have hothers := hbytes.linear.others
    refine ⟨?_, by rw [hothers], by rw [hothers], by rw [hothers], by rw [hothers]⟩
    rw [hm.fold.sizeAlign]
    exact hbytes.total_isLeast
  · intro _
    refine ⟨hformat, rfl, rfl, ?_⟩
    rw [fold_blob, hblob]
    change IsLeast (multiplesFrom 4096 total.toNat) _
    rw [← hwidth]
    exact fold_isLeast plan

end Plan

/-- Whatever is planned asks for the buffer's own rows, which for a camera are rounded up to 32
pixels, or for a texture that has just the rows to hold the bytes of all planes. -/
theorem planAllocation_asks {m : Metadata} {flags : UseFlags} {supported : Bool} {plan : Plan}
    (h : planAllocation m flags supported = .ok plan) :
    ∃ w, IsLeast (multiplesFrom (if flags.intersects .camera then 32 else 1) m.width.toNat) w ∧
      plan.Asks m flags supported w := by
  obtain ⟨_, hdraw⟩ := planAllocation_draw h
  obtain ⟨first, second, hfirst, hsecond, hplan⟩ := Plan.draw_ok hdraw
  have hown := Plan.native_own hfirst
  have hmarked := Plan.native_marked hfirst
  refine ⟨first.request.width.toNat, hown.width_isLeast, ?_⟩
  rw [hplan]
  cases supported with
  | false =>
    rw [if_pos (Plan.asBytes_isRow hown hsecond)]
    exact Plan.asBytes_asks hown hmarked hsecond _
  | true =>
    cases hsecond
    split
    · rename_i hrow
      exact hown.asks_texture hmarked (hown.isRow_iff.mp hrow)
    · rename_i hrow
      exact hown.asks_own hmarked fun h => hrow (hown.isRow_iff.mpr h)

/-- For a camera, 20 rows of 100 pixels take 7680 bytes, which make two rows of a texture. -/
theorem planAllocation_asks_camera :
    let m : Metadata := { width := 100, height := 20, format := .bgr888 }
    ∃ plan, planAllocation m .cameraRead false = .ok plan ∧ plan.Asks m .cameraRead false 128 ∧
      plan.request.height.toNat = 2 := by
  intro m
  obtain ⟨plan, hplan⟩ : ∃ plan, planAllocation m .cameraRead false = .ok plan :=
    planAllocation_of_lt rfl (by decide) (by decide)
  obtain ⟨w, hw, hasks⟩ := planAllocation_asks hplan
  obtain rfl : w = 128 := hw.unique (ceilDiv_mul_isLeast 100 (by decide))
  obtain ⟨_, layout, hs, hblob, hmeasured, -⟩ := (planAllocation_drawn hplan).measured
  cases (rfl : m.format.planes? = some (Format.packed 3)).symm.trans hs
  have htotal : layout.totalSize.toNat = 8192 := hmeasured.total.trans (by decide)
  obtain ⟨-, -, -, hrows⟩ := hasks.texture (Or.inl rfl)
  rw [hblob, Option.map_some, Option.getD_some, htotal] at hrows
  have hheight : 4096 * plan.request.height.toNat = 4096 * 2 :=
    hrows.unique (ceilDiv_mul_isLeast 8192 (by decide))
  exact ⟨plan, hplan, hasks, Nat.eq_of_mul_eq_mul_left (by decide) hheight⟩

end GraphicsBuffers
