import GraphicsBuffers.Proofs.Fault
import GraphicsBuffers.Proofs.Request
import GraphicsBuffers.Proofs.Validation

/-!
Where a layout puts the planes. They fill the buffer one behind the other, each with the fewest rows
of the fewest bytes that hold its samples, and nothing of an earlier layout is left.
-/

namespace GraphicsBuffers

/-- The numbers that `b` times over reach `a`. -/
def reaching (b a : Nat) : Set Nat := {q | a ≤ q * b}

theorem ceilDiv_isLeast {b : Nat} (a : Nat) (hb : 0 < b) :
    IsLeast (reaching b a) (ceilDiv a b) :=
  ⟨le_ceilDiv_mul a hb, fun _ hq => ceilDiv_le hq⟩

/-- The bytes of a row of chroma, where a row of the first plane has `stride`. There are just enough
for its samples, and in one format rows start on boundaries. -/
def Format.ChromaRow (format : Format) (first shape : PlaneShape) (stride row : Nat) : Prop :=
  ∃ exact, IsLeast (reaching (first.bytes * shape.horizontal) (stride * shape.bytes)) exact ∧
    if format = .yvu420Android then IsLeast (multiplesFrom 16 exact) row else row = exact

theorem Format.rowBytes_chroma {format : Format} {first shape : PlaneShape} {p : Nat}
    (stride : Nat) (hp : p ≠ 0) (hb : 0 < first.bytes * shape.horizontal) :
    format.ChromaRow first shape stride (format.rowBytes first stride p shape) := by
  refine ⟨_, ceilDiv_isLeast _ hb, ?_⟩
  rw [rowBytes, if_neg hp]
  dsimp only
  split
  · exact ceilDiv_mul_isLeast _ (by decide)
  · rfl

namespace Metadata

variable {m m' m₂ m₂' : Metadata} {format : Format} {first : PlaneShape} {shapes : List PlaneShape}
  {stride height : UInt32} {p n offset stop : Nat}

/-- The planes of `shapes` fill the buffer in their order, with rows of `stride` bytes in the first
plane, and nothing else is recorded. -/
structure Filled (format : Format) (first : PlaneShape) (stride height : UInt32)
    (shapes : List PlaneShape) (m : Metadata) : Prop where
  count : m.numPlanes = shapes.length
  first_row : m.strides.entry 0 = stride
  rows : ∀ p shape, shapes[p]? = some shape → p ≠ 0 →
    format.ChromaRow first shape stride.toNat (m.strides.entry p).toNat
  sizes : ∀ p shape, shapes[p]? = some shape →
    ∃ rows, IsLeast (reaching shape.vertical height.toNat) rows ∧
      (m.sizes.entry p).toNat = (m.strides.entry p).toNat * rows
  start : m.offsets.entry 0 = 0
  next : ∀ p, p + 1 < shapes.length → (m.offsets.entry (p + 1)).toNat =
    (m.offsets.entry p).toNat + (m.sizes.entry p).toNat
  stop : ∀ p, p + 1 = shapes.length → m.totalSize.toNat =
    (m.offsets.entry p).toNat + (m.sizes.entry p).toNat
  total : m.totalSize.toNat = m.planeSum
  tiles : m.Tiles 0 m.totalSize.toNat
  rest : ∀ p, shapes.length ≤ p →
    m.strides.entry p = 0 ∧ m.offsets.entry p = 0 ∧ m.sizes.entry p = 0

theorem Lies.next (h : m.Lies stop p n offset) {i : Nat} (hi : i + 1 < n) :
    (m.offsets.entry (p + i + 1)).toNat =
      (m.offsets.entry (p + i)).toNat + (m.sizes.entry (p + i)).toNat := by
  induction n generalizing p offset i with
  | zero => omega
  | succ n ih =>
    obtain ⟨hstart, hrest⟩ := h
    cases i with
    | zero =>
      obtain ⟨n, rfl⟩ := Nat.exists_eq_add_one_of_ne_zero (show n ≠ 0 by omega)
      change _ = (m.offsets.entry p).toNat + _
      rw [hstart]
      exact hrest.1
    | succ i =>
      have hnext := ih hrest (i := i) (by omega)
      rwa [Nat.add_right_comm p 1 i] at hnext

/-- The last plane ends where they all do. -/
theorem Lies.last (h : m.Lies stop p n offset) {i : Nat} (hi : i + 1 = n) :
    stop = (m.offsets.entry (p + i)).toNat + (m.sizes.entry (p + i)).toNat := by
  induction n generalizing p offset i with
  | zero => omega
  | succ n ih =>
    obtain ⟨hstart, hrest⟩ := h
    cases i with
    | zero =>
      obtain rfl : n = 0 := by omega
      rw [Nat.add_zero, hstart]
      exact hrest.symm
    | succ i =>
      have hlast := ih hrest (i := i) (by omega)
      rwa [Nat.add_right_comm p 1 i] at hlast

/-- What a layout that succeeds is made of. -/
theorem layOut_ok (h : layOut format stride height m = .ok () m') :
    ∃ first rest, format.planes? = some (first :: rest) ∧
      m'.Lies m'.totalSize.toNat 0 (rest.length + 1) 0 ∧
      m'.Rows format first stride height 0 (first :: rest) ∧
      (∀ p, rest.length + 1 ≤ p →
        m'.strides.entry p = 0 ∧ m'.offsets.entry p = 0 ∧ m'.sizes.entry p = 0) ∧
      m' = { m with
        strides := m'.strides
        offsets := m'.offsets
        sizes := m'.sizes
        numPlanes := rest.length + 1
        totalSize := m'.totalSize } := by
  obtain ⟨shapes, hs, h⟩ := (layOut_lays format stride height m).of_ok h
  obtain ⟨first, rest, rfl⟩ := List.exists_cons_of_length_pos (Format.planes_length hs).1
  exact ⟨first, rest, hs, h⟩

theorem layOut_filled (h : layOut format stride height m = .ok () m') :
    ∃ first rest, format.planes? = some (first :: rest) ∧
      m'.Filled format first stride height (first :: rest) := by
  obtain ⟨first, rest, hs, hlies, hrows, hrest, hothers⟩ := layOut_ok h
  have hpos := Format.divisors_pos hs
  have hcount : m'.numPlanes = rest.length + 1 := by rw [hothers]
  obtain ⟨hplanes, -⟩ := hrows.measured hlies fun s hm => (hpos s hm).1
  simp only [Nat.zero_add] at hplanes
  refine ⟨first, rest, hs, hcount, (Except.ok.inj hrows.1).symm, ?_, ?_,
    UInt32.toNat_inj.mp hlies.1, ?_, ?_, ?_, ?_, hrest⟩
  · intro p shape hp hne
    obtain ⟨hrow, -, -⟩ := hplanes p shape hp
    rw [hrow]
    exact Format.rowBytes_chroma _ hne (hpos shape (List.mem_of_getElem? hp)).1
  · intro p shape hp
    obtain ⟨hrow, -, hsize⟩ := hplanes p shape hp
    rw [hsize, hrow]
    exact ⟨_, ceilDiv_isLeast _ (hpos shape (List.mem_of_getElem? hp)).2, rfl⟩
  · intro p hp
    simpa only [Nat.zero_add] using hlies.next hp
  · intro p hp
    simpa only [Nat.zero_add] using hlies.last hp
  · have hstop := hlies.stop_eq
    simpa only [planeSum, hcount, Nat.zero_add] using hstop
  · rw [← hcount] at hlies
    exact hlies.tiles

/-- What is recorded of planes does not depend on what was recorded before. -/
theorem layOut_agree (h : layOut format stride height m = .ok () m')
    (h₂ : layOut format stride height m₂ = .ok () m₂') :
    m₂' = { m₂ with
      strides := m'.strides
      offsets := m'.offsets
      sizes := m'.sizes
      numPlanes := m'.numPlanes
      totalSize := m'.totalSize } := by
  obtain ⟨first, rest, hs, hlies, hrows, hrest, hothers⟩ := layOut_ok h
  obtain ⟨_, _, hs₂, hlies₂, hrows₂, hrest₂, hothers₂⟩ := layOut_ok h₂
  cases hs.symm.trans hs₂
  have hb : ∀ shape ∈ first :: rest, 0 < first.bytes * shape.horizontal :=
    fun shape hm => (Format.divisors_pos hs shape hm).1
  obtain ⟨hplanes, hstop⟩ := hrows.measured hlies hb
  obtain ⟨hplanes₂, hstop₂⟩ := hrows₂.measured hlies₂ hb
  simp only [Nat.zero_add] at hplanes hplanes₂
  have hentries : ∀ p, m₂'.strides.entry p = m'.strides.entry p ∧
      m₂'.offsets.entry p = m'.offsets.entry p ∧ m₂'.sizes.entry p = m'.sizes.entry p := by
    intro p
    cases hp : (first :: rest)[p]? with
    | none =>
      have hp : rest.length + 1 ≤ p := List.getElem?_eq_none_iff.mp hp
      obtain ⟨hr, ho, hz⟩ := hrest p hp
      obtain ⟨hr₂, ho₂, hz₂⟩ := hrest₂ p hp
      exact ⟨hr₂.trans hr.symm, ho₂.trans ho.symm, hz₂.trans hz.symm⟩
    | some shape =>
      obtain ⟨hr, ho, hz⟩ := hplanes p shape hp
      obtain ⟨hr₂, ho₂, hz₂⟩ := hplanes₂ p shape hp
      exact ⟨UInt32.toNat_inj.mp (hr₂.trans hr.symm), UInt32.toNat_inj.mp (ho₂.trans ho.symm),
        UInt64.toNat_inj.mp (hz₂.trans hz.symm)⟩
  have hstrides : m₂'.strides = m'.strides := Planes.ext_entry fun p _ => (hentries p).1
  have hoffsets : m₂'.offsets = m'.offsets := Planes.ext_entry fun p _ => (hentries p).2.1
  have hsizes : m₂'.sizes = m'.sizes := Planes.ext_entry fun p _ => (hentries p).2.2
  have htotal : m₂'.totalSize = m'.totalSize := UInt64.toNat_inj.mp (hstop₂.trans hstop.symm)
  have hcount : m'.numPlanes = rest.length + 1 := by rw [hothers]
  rw [hothers₂, hstrides, hoffsets, hsizes, htotal, hcount]

/-- Whether a layout succeeds does not depend on what was recorded before either. -/
theorem layOut_again (h : layOut format stride height m = .ok () m') (m₂ : Metadata) :
    ∃ m₂', layOut format stride height m₂ = .ok () m₂' := by
  cases h₂ : layOut format stride height m₂ with
  | ok _ m₂' => exact ⟨m₂', rfl⟩
  | error e m₂' =>
    have hfails := (layOut_error_iff format stride height m₂ e).mp ⟨m₂', h₂⟩
    exact absurd hfails ((layOut_stops format stride height m).of_ok h e)

/-- A layout fills the buffer with the planes of its format, and leaves alone what is no part of it.
Whatever was recorded of planes before is gone. -/
theorem layOut_tiles (h : layOut format stride height m = .ok () m') :
    (∃ first rest, format.planes? = some (first :: rest) ∧
      m'.Filled format first stride height (first :: rest)) ∧
    (m'.width = m.width ∧ m'.height = m.height ∧ m'.format = m.format ∧
      m'.useFlags = m.useFlags ∧ m'.modifier = m.modifier) ∧
    ∀ m₂, layOut format stride height m₂ = .ok () { m₂ with
      strides := m'.strides
      offsets := m'.offsets
      sizes := m'.sizes
      numPlanes := m'.numPlanes
      totalSize := m'.totalSize } := by
  refine ⟨layOut_filled h, ?_, fun m₂ => ?_⟩
  · obtain ⟨_, _, -, -, -, -, hothers⟩ := layOut_ok h
    rw [hothers]
    exact ⟨rfl, rfl, rfl, rfl, rfl⟩
  · obtain ⟨m₂', h₂⟩ := layOut_again h m₂
    rw [h₂, layOut_agree h h₂]

/-- Five rows of five pixels in two planes, where three planes were recorded before. -/
theorem layOut_tiles_over :
    let old : Metadata :=
      { width := 4, height := 4, format := .yvu420, numPlanes := 3, strides := #v[4, 2, 2, 0],
        offsets := #v[0, 16, 20, 0], sizes := #v[16, 4, 4, 0], totalSize := 24, modifier := 7 }
    let new : Metadata :=
      { old with
        numPlanes := 2, strides := #v[5, 5, 0, 0], offsets := #v[0, 25, 0, 0],
        sizes := #v[25, 15, 0, 0], totalSize := 40 }
    layOut .nv12 5 5 old = .ok () new ∧
      new.Filled .nv12 ⟨1, 1, 1⟩ 5 5 [⟨1, 1, 1⟩, ⟨2, 2, 2⟩] := by
  intro old new
  have hlay : layOut .nv12 5 5 old = .ok () new := rfl
  obtain ⟨⟨first, rest, hs, hfilled⟩, -, -⟩ := layOut_tiles hlay
  cases (rfl : Format.nv12.planes? = some Format.biplanar420).symm.trans hs
  exact ⟨hlay, hfilled⟩

end Metadata

end GraphicsBuffers
