import GraphicsBuffers.Proofs.ByteSize
import GraphicsBuffers.Proofs.RoundTrip
import GraphicsBuffers.Proofs.Shape

/-!
Which memory from elsewhere is accepted, and what is then recorded of it. Each plane must lie within
its own descriptor; planes that share one, and say where they start, fill it from the first start.
-/

namespace GraphicsBuffers

namespace Metadata

/-- The bytes of plane `p`, counted from the start of its descriptor. -/
def planeRange (m : Metadata) (p : Nat) : Set Nat :=
  Set.Ico (m.offsets.entry p).toNat ((m.offsets.entry p).toNat + (m.sizes.entry p).toNat)

/-- The planes lie apart, in their order, and fill the bytes from `start` to `stop`. -/
structure Tiles (m : Metadata) (start stop : Nat) : Prop where
  ordered : ∀ p q, p < q → q < m.numPlanes →
    (m.offsets.entry p).toNat + (m.sizes.entry p).toNat ≤ (m.offsets.entry q).toNat
  disjoint : ∀ p q, p < q → q < m.numPlanes → Disjoint (m.planeRange p) (m.planeRange q)
  covers : ⋃ p < m.numPlanes, m.planeRange p = Set.Ico start stop

variable {m : Metadata} {p n offset stop : Nat}

theorem Lies.start_le (h : m.Lies stop p n offset) {i : Nat} (hi : i < n) :
    offset ≤ (m.offsets.entry (p + i)).toNat := by
  induction n generalizing p offset i with
  | zero => omega
  | succ n ih =>
    obtain ⟨hstart, hrest⟩ := h
    cases i with
    | zero => exact Nat.le_of_eq hstart.symm
    | succ i =>
      have hnext := ih hrest (i := i) (by omega)
      rw [Nat.add_right_comm] at hnext
      exact Nat.le_trans (Nat.le_add_right _ _) hnext

theorem Lies.before (h : m.Lies stop p n offset) {i j : Nat} (hij : i < j) (hj : j < n) :
    (m.offsets.entry (p + i)).toNat + (m.sizes.entry (p + i)).toNat ≤
      (m.offsets.entry (p + j)).toNat := by
  induction n generalizing p offset i j with
  | zero => omega
  | succ n ih =>
    obtain ⟨hstart, hrest⟩ := h
    obtain ⟨j, rfl⟩ := Nat.exists_eq_add_one_of_ne_zero (Nat.ne_zero_of_lt hij)
    cases i with
    | zero =>
      have hnext := hrest.start_le (i := j) (by omega)
      rw [Nat.add_right_comm] at hnext
      rw [← hstart] at hnext
      exact hnext
    | succ i =>
      have hnext := ih hrest (i := i) (j := j) (by omega) (by omega)
      rwa [Nat.add_right_comm, Nat.add_right_comm p 1 j] at hnext

theorem Lies.mem_iff (h : m.Lies stop p n offset) (b : Nat) :
    (∃ i < n, b ∈ m.planeRange (p + i)) ↔ offset ≤ b ∧ b < stop := by
  induction n generalizing p offset with
  | zero =>
    obtain rfl : offset = stop := h
    exact iff_of_false (by simp) (by omega)
  | succ n ih =>
    obtain ⟨hstart, hrest⟩ := h
    have hle := hrest.le
    have hnext := ih hrest
    constructor
    · rintro ⟨i, hi, hb⟩
      cases i with
      | zero =>
        obtain ⟨hlow, hhigh⟩ := hb
        rw [Nat.add_zero, hstart] at hlow hhigh
        omega
      | succ i =>
        have := hnext.mp ⟨i, by omega, by rwa [Nat.add_right_comm]⟩
        omega
    · rintro ⟨hlow, hhigh⟩
      by_cases hb : b < offset + (m.sizes.entry p).toNat
      · exact ⟨0, by omega, by rw [planeRange, Nat.add_zero, hstart]; exact ⟨hlow, hb⟩⟩
      · obtain ⟨i, hi, hm⟩ := hnext.mpr ⟨by omega, hhigh⟩
        exact ⟨i + 1, by omega, by rwa [Nat.add_right_comm] at hm⟩

/-- Planes that lie one behind the other fill the bytes from the first start to the last end. -/
theorem Lies.tiles (h : m.Lies stop 0 m.numPlanes offset) : m.Tiles offset stop := by
  have hordered : ∀ p q, p < q → q < m.numPlanes →
      (m.offsets.entry p).toNat + (m.sizes.entry p).toNat ≤ (m.offsets.entry q).toNat := by
    intro p q hpq hq
    simpa only [Nat.zero_add] using h.before hpq hq
  refine ⟨hordered, fun p q hpq hq => ?_, ?_⟩
  · apply Set.Ico_disjoint_Ico.mpr
    exact ((Nat.min_le_left _ _).trans (hordered p q hpq hq)).trans (Nat.le_max_right _ _)
  · ext b
    have hmem := h.mem_iff b
    simp only [Nat.zero_add] at hmem
    simpa only [Set.mem_iUnion, Set.mem_Ico, exists_prop] using hmem

end Metadata

/-- The bytes that the descriptor reaches to, where it can be seeked. -/
def Descriptor.bytes (d : Descriptor) : Nat :=
  match d.size with
  | .ok size => size.toNat
  | .error _ => 0

theorem Descriptor.bytes_of_size {d : Descriptor} {size : UInt64} (h : d.size = .ok size) :
    d.bytes = size.toNat := by
  rw [bytes, h]

namespace ImportData

/-- Where plane `p` of `count` ends in memory of `size` bytes: where the next one starts, if it says
so, and otherwise with the memory. -/
def stopOf (data : ImportData) (count p size : Nat) : Nat :=
  if p + 1 < count ∧ data.offsets.entry (p + 1) ≠ 0 then (data.offsets.entry (p + 1)).toNat
  else size

/-- Plane `p` of `count` lies within the descriptor. -/
def Within (data : ImportData) (count p : Nat) (d : Descriptor) : Prop :=
  ∃ size, d.size = .ok size ∧
    (data.offsets.entry p).toNat ≤ data.stopOf count p size.toNat ∧
    data.stopOf count p size.toNat ≤ size.toNat

/-- There is a descriptor for each plane of the format, and the plane lies within it. -/
def Acceptable (data : ImportData) : Prop :=
  ∃ shapes, data.format.planes? = some shapes ∧ shapes.length ≤ data.descriptors.length ∧
    ∀ p < shapes.length, ∀ d ∈ data.descriptors[p]?, data.Within shapes.length p d

/-- The bytes of plane `p` of `count`, from its offset to where it ends. -/
def planeBytes (data : ImportData) (count p : Nat) : Nat :=
  data.stopOf count p ((data.descriptors[p]?.map Descriptor.bytes).getD 0) -
    (data.offsets.entry p).toNat

/-- The planes of the format. -/
def planeCount (data : ImportData) : Nat := (data.format.planes?.getD []).length

/-- The bytes of all planes, counted without bound. -/
def totalBytes (data : ImportData) : Nat :=
  ∑ p ∈ Finset.range data.planeCount, data.planeBytes data.planeCount p

/-- Plane `p` of `count` is recorded as the data has it, and with just the bytes that it takes up
in the descriptor. -/
structure Records (data : ImportData) (count p : Nat) (d : Descriptor) (m : Metadata) : Prop where
  stride : m.strides.entry p = data.strides.entry p
  offset : m.offsets.entry p = data.offsets.entry p
  bytes : ∃ size, d.size = .ok size ∧
    (m.offsets.entry p).toNat + (m.sizes.entry p).toNat = data.stopOf count p size.toNat ∧
    data.stopOf count p size.toNat ≤ size.toNat

variable {data : ImportData} {count p n : Nat} {d : Descriptor} {ds : List Descriptor}
  {m m' : Metadata} {size : UInt64}

theorem planeEnd_toNat (hp : p < count) (size : UInt64) :
    (data.planeEnd count p size).toNat = data.stopOf count p size.toNat := by
  have hcases : (p + 1 = count ∨ data.offsets.entry (p + 1) = 0) ↔
      ¬(p + 1 < count ∧ data.offsets.entry (p + 1) ≠ 0) := by
    rw [not_and_or, not_not]
    exact or_congr_left (by omega)
  by_cases hnext : p + 1 < count ∧ data.offsets.entry (p + 1) ≠ 0
  · rw [planeEnd, if_neg (fun h => hcases.mp h hnext), stopOf, if_pos hnext, UInt32.toNat_toUInt64]
  · rw [planeEnd, if_pos (hcases.mpr hnext), stopOf, if_neg hnext]

theorem planeBytes_of_size (hd : data.descriptors[p]? = some d) (hsize : d.size = .ok size) :
    data.planeBytes count p =
      data.stopOf count p size.toNat - (data.offsets.entry p).toNat := by
  rw [planeBytes, hd, Option.map_some, Option.getD_some, Descriptor.bytes_of_size hsize]

/-- Planes that lie within their descriptors are recorded, unless their bytes overflow. -/
theorem placePlanes_of_within (hcount : p + ds.length = count)
    (hds : ∀ i d, ds[i]? = some d → data.descriptors[p + i]? = some d)
    (hw : ∀ i d, ds[i]? = some d → data.Within count (p + i) d) (m : Metadata) :
    let total := m.totalSize.toNat + ∑ i ∈ Finset.range ds.length, data.planeBytes count (p + i)
    (total < 2 ^ 64 → ∃ m', placePlanes data count p ds m = some (.ok m') ∧
      m'.totalSize.toNat = total) ∧
    (2 ^ 64 ≤ total → placePlanes data count p ds m = none) := by
  induction ds generalizing p m with
  | nil =>
    refine ⟨fun _ => ⟨m, rfl, rfl⟩, fun h => ?_⟩
    have := m.totalSize.toNat_lt
    simp only [List.length_nil, Finset.range_zero, Finset.sum_empty] at h
    omega
  | cons d ds ih =>
    simp only [List.length_cons] at hcount
    obtain ⟨size, hd, hlow, hhigh⟩ := hw 0 d rfl
    rw [Nat.add_zero, ← planeEnd_toNat (by omega)] at hlow hhigh
    have hhere : data.descriptors[p]? = some d := hds 0 d rfl
    have hbytes : (data.planeSize p (data.planeEnd count p size)).toNat =
        data.planeBytes count p := by
      rw [planeSize_toNat hlow, planeBytes_of_size hhere hd, planeEnd_toNat (by omega)]
    have hsplit : ∑ i ∈ Finset.range (ds.length + 1), data.planeBytes count (p + i) =
        data.planeBytes count p + ∑ i ∈ Finset.range ds.length,
          data.planeBytes count (p + 1 + i) := by
      rw [Finset.sum_range_succ', Nat.add_comm]
      simp only [Nat.add_assoc, Nat.add_comm 1, Nat.add_zero]
    rw [placePlanes_cons hd rfl hlow hhigh, placePlane, List.length_cons, hsplit, ← hbytes]
    cases hsum : sum? m.totalSize (data.planeSize p (data.planeEnd count p size)) with
    | none =>
      have := sum?_eq_none.mp hsum
      exact ⟨fun h => by omega, fun _ => rfl⟩
    | some total =>
      have hnext (i : Nat) (d' : Descriptor) (h : ds[i]? = some d') :
          data.descriptors[p + 1 + i]? = some d' ∧ data.Within count (p + 1 + i) d' := by
        rw [Nat.add_right_comm]
        exact ⟨hds (i + 1) d' h, hw (i + 1) d' h⟩
      have hrest := ih (by omega) (fun i d' h => (hnext i d' h).1) (fun i d' h => (hnext i d' h).2)
        (data.recordPlane p (data.planeEnd count p size) total m)
      rw [← Nat.add_assoc, sum?_eq_some.mp hsum]
      exact hrest

/-- Only where the descriptors reach to more bytes than 64 bits can count do the planes. -/
theorem placePlanes_stops (h : placePlanes data count p ds m = none) :
    2 ^ 64 ≤ m.totalSize.toNat + (ds.map Descriptor.bytes).sum := by
  induction ds generalizing p m with
  | nil => cases h
  | cons d ds ih =>
    unfold placePlanes at h
    split at h
    · cases h
    rename_i size hsize
    dsimp only at h
    split at h
    · cases h
    rename_i hfits
    simp only [UInt64.lt_iff_toNat_lt, UInt32.toNat_toUInt64, not_or, Nat.not_lt] at hfits
    have hplane : (data.planeSize p (data.planeEnd count p size)).toNat ≤ d.bytes := by
      rw [planeSize_toNat hfits.1, Descriptor.bytes_of_size hsize]
      omega
    rw [List.map_cons, List.sum_cons]
    rw [placePlane] at h
    cases hsum : sum? m.totalSize (data.planeSize p (data.planeEnd count p size)) with
    | none =>
      have := sum?_eq_none.mp hsum
      omega
    | some total =>
      rw [hsum] at h
      have hadd := sum?_eq_some.mp hsum
      have hrest : 2 ^ 64 ≤ total.toNat + (ds.map Descriptor.bytes).sum := ih h
      omega

/-- The planes from `p` on leave those before as they were recorded. -/
theorem placePlanes_keeps (h : placePlanes data count p ds m = some (.ok m')) :
    m'.numPlanes = m.numPlanes ∧ ∀ q < p, m'.strides.entry q = m.strides.entry q ∧
      m'.offsets.entry q = m.offsets.entry q ∧ m'.sizes.entry q = m.sizes.entry q := by
  induction ds generalizing p m with
  | nil =>
    cases h
    exact ⟨rfl, fun _ _ => ⟨rfl, rfl, rfl⟩⟩
  | cons d ds ih =>
    obtain ⟨size, total, -, -, -, -, h⟩ := placePlanes_cons_ok h
    obtain ⟨hnum, hbefore⟩ := ih h
    refine ⟨hnum, fun q hq => ?_⟩
    have hpq : p ≠ q := by omega
    obtain ⟨hstride, hoffset, hsize⟩ := hbefore q (by omega)
    obtain ⟨hstride', hoffset', hsize'⟩ :=
      recordPlane_other data p (data.planeEnd count p size) total m hpq
    exact ⟨hstride.trans hstride', hoffset.trans hoffset', hsize.trans hsize'⟩

theorem placePlanes_first {stop total : UInt64} (hp : p < 4)
    (h : placePlanes data count (p + 1) ds (data.recordPlane p stop total m) = some (.ok m')) :
    m'.strides.entry p = data.strides.entry p ∧ m'.offsets.entry p = data.offsets.entry p ∧
      m'.sizes.entry p = data.planeSize p stop := by
  obtain ⟨hstride, hoffset, hsize⟩ := (placePlanes_keeps h).2 p (Nat.lt_succ_self p)
  obtain ⟨hstride', hoffset', hsize'⟩ := recordPlane_self data p stop total m hp
  exact ⟨hstride.trans hstride', hoffset.trans hoffset', hsize.trans hsize'⟩

/-- Planes that are accepted are recorded, one for each descriptor. -/
theorem placePlanes_records (hcount : p + ds.length = count) (hc : count ≤ 4)
    (h : placePlanes data count p ds m = some (.ok m')) :
    ∀ i d, ds[i]? = some d → data.Records count (p + i) d m' := by
  induction ds generalizing p m with
  | nil => simp
  | cons d ds ih =>
    simp only [List.length_cons] at hcount
    obtain ⟨size, total, hd, hlow, hhigh, -, h⟩ := placePlanes_cons_ok h
    intro i e he
    cases i with
    | zero =>
      cases he
      obtain ⟨hstride, hoffset, hsize⟩ := placePlanes_first (by omega) h
      have hbytes := planeSize_toNat hlow
      rw [← hsize] at hbytes
      rw [planeEnd_toNat (by omega)] at hlow hhigh hbytes
      refine ⟨hstride, hoffset, size, hd, ?_, hhigh⟩
      rw [Nat.add_zero, hoffset]
      omega
    | succ i =>
      have hplane := ih (by omega) h i e he
      rwa [Nat.add_right_comm] at hplane

/-- The total is that of the planes. -/
theorem placePlanes_total (hcount : p + ds.length ≤ 4)
    (h : placePlanes data count p ds m = some (.ok m')) :
    m'.totalSize.toNat = m.totalSize.toNat +
      ∑ i ∈ Finset.range ds.length, (m'.sizes.entry (p + i)).toNat := by
  induction ds generalizing p m with
  | nil =>
    cases h
    simp
  | cons d ds ih =>
    simp only [List.length_cons] at hcount
    obtain ⟨size, total, -, -, -, hsum, h⟩ := placePlanes_cons_ok h
    have hfirst := (placePlanes_first (by omega) h).2.2
    rw [← hfirst, sum?_eq_some] at hsum
    have htotal : m'.totalSize.toNat = total.toNat + _ := ih (by omega) h
    rw [htotal, ← hsum, List.length_cons, Finset.sum_range_succ', Nat.add_assoc,
      Nat.add_comm (m'.sizes.entry p).toNat]
    simp only [Nat.add_assoc, Nat.add_comm 1, Nat.add_zero]

theorem take_length (h : n ≤ ds.length) : 0 + (ds.take n).length = n := by
  rw [Nat.zero_add, List.length_take_of_le h]

/-- Accepted memory has a descriptor for each plane of its format, and each plane is recorded. -/
theorem metadata_records (h : data.metadata = some (.ok m)) :
    ∃ shapes, data.format.planes? = some shapes ∧ shapes.length = m.numPlanes ∧
      m.numPlanes ≤ data.descriptors.length ∧
      (∀ p < m.numPlanes, ∃ d, data.descriptors[p]? = some d ∧
        data.Records m.numPlanes p d m) ∧
      m.totalSize.toNat = m.planeSum := by
  obtain ⟨m₀, hm₀, hfew, h⟩ := metadata_ok h
  obtain ⟨shapes, hshapes, hm₀⟩ := bind_eq_ok.mp hm₀
  have hshapes := Format.planes_ok hshapes
  cases hm₀
  dsimp only at hfew h
  have hlength := take_length hfew
  have hfour := (Format.planes_length hshapes).2
  have hplanes := placePlanes_records hlength hfour h
  have htotal := placePlanes_total (by rwa [hlength]) h
  have hnum : m.numPlanes = shapes.length := (placePlanes_keeps h).1
  refine ⟨shapes, hshapes, hnum.symm, by omega, fun p hp => ?_, ?_⟩
  · rw [hnum] at hp ⊢
    have hd : data.descriptors[p]? = some data.descriptors[p] := List.getElem?_eq_getElem _
    refine ⟨_, hd, ?_⟩
    have hplane := hplanes p _ ((List.getElem?_take_of_lt hp).trans hd)
    rwa [Nat.zero_add] at hplane
  · rw [Nat.zero_add] at hlength
    rw [htotal, hlength, Metadata.planeSum, hnum]
    simp only [Nat.zero_add, UInt64.toNat_zero]

theorem acceptable_of_metadata (h : data.metadata = some (.ok m)) : data.Acceptable := by
  obtain ⟨shapes, hshapes, hnum, hfew, hplanes, -⟩ := metadata_records h
  rw [← hnum] at hfew hplanes
  refine ⟨shapes, hshapes, hfew, fun p hp d hd => ?_⟩
  obtain ⟨d', hd', -, hoffset, size, hsize, hstop, hfits⟩ := hplanes p hp
  cases hd.symm.trans hd'
  exact ⟨size, hsize, by rw [← hoffset]; omega, hfits⟩

theorem planeCount_eq {shapes : List PlaneShape} (hs : data.format.planes? = some shapes) :
    data.planeCount = shapes.length := by
  rw [planeCount, hs, Option.getD_some]

/-- Acceptable memory is recorded, unless its bytes overflow. -/
theorem metadata_of_acceptable (h : data.Acceptable) :
    (data.totalBytes < 2 ^ 64 →
      ∃ m, data.metadata = some (.ok m) ∧ m.totalSize.toNat = data.totalBytes) ∧
    (2 ^ 64 ≤ data.totalBytes → data.metadata = none) := by
  obtain ⟨shapes, hshapes, hfew, hwithin⟩ := h
  have hlength := take_length hfew
  have htaken (i : Nat) (d : Descriptor) (hd : (data.descriptors.take shapes.length)[i]? = some d) :
      i < shapes.length ∧ data.descriptors[i]? = some d := by
    have hi : i < shapes.length := by
      have := (List.getElem?_eq_some_iff.mp hd).1
      omega
    exact ⟨hi, (List.getElem?_take_of_lt hi).symm.trans hd⟩
  let empty : Metadata := {
    width := data.width
    height := data.height
    format := data.format
    useFlags := data.useFlags
    numPlanes := shapes.length
    modifier := data.modifier }
  have hmetadata : data.metadata = placePlanes data shapes.length 0
      (data.descriptors.take shapes.length) empty := by
    simp only [metadata, Metadata.unplaced, Format.planes_of_some hshapes, bind, Except.bind, pure,
      Except.pure, if_neg (Nat.not_lt.mpr hfew)]
    rfl
  have hwithin (i : Nat) (d : Descriptor)
      (hd : (data.descriptors.take shapes.length)[i]? = some d) :
      data.Within shapes.length (0 + i) d := by
    rw [Nat.zero_add]
    exact hwithin i (htaken i d hd).1 d (htaken i d hd).2
  have hplaced := placePlanes_of_within hlength
    (fun i d hd => by rw [Nat.zero_add]; exact (htaken i d hd).2) hwithin empty
  have htotal : empty.totalSize.toNat +
      ∑ i ∈ Finset.range (data.descriptors.take shapes.length).length,
        data.planeBytes shapes.length (0 + i) = data.totalBytes := by
    rw [Nat.zero_add] at hlength
    rw [hlength, totalBytes, planeCount_eq hshapes]
    simp only [Nat.zero_add, UInt64.toNat_zero, empty]
  rw [hmetadata]
  rwa [htotal] at hplaced

/-- Descriptors whose bytes 64 bits can count never stop the process. -/
theorem metadata_stops (h : data.metadata = none) :
    2 ^ 64 ≤ (data.descriptors.map Descriptor.bytes).sum := by
  unfold metadata at h
  split at h
  · cases h
  rename_i m hm
  split at h
  · cases h
  obtain ⟨shapes, -, hm⟩ := bind_eq_ok.mp hm
  cases hm
  have htaken := placePlanes_stops h
  simp only [UInt64.toNat_zero, Nat.zero_add] at htaken
  calc 2 ^ 64
    _ ≤ ((data.descriptors.take shapes.length).map Descriptor.bytes).sum := htaken
    _ ≤ (data.descriptors.map Descriptor.bytes).sum :=
      ((List.take_sublist _ _).map _).sum_le_sum fun _ _ => Nat.zero_le _

/-- What accepted memory is recorded as. -/
structure Accepted (data : ImportData) (m : Metadata) : Prop where
  format : m.format = data.format
  shaped : m.Shaped
  planes : ∀ p < m.numPlanes, ∃ d, data.descriptors[p]? = some d ∧ data.Records m.numPlanes p d m
  inside : ∀ p < m.numPlanes, ∃ d size, data.descriptors[p]? = some d ∧ d.size = .ok size ∧
    (m.offsets.entry p).toNat + (m.sizes.entry p).toNat ≤ size.toNat
  tiles : ∀ size, (∀ p < m.numPlanes, ∀ d ∈ data.descriptors[p]?, d.size = .ok size) →
    (∀ p, p + 1 < m.numPlanes → data.offsets.entry (p + 1) ≠ 0) →
    m.Tiles (data.offsets.entry 0).toNat size.toNat

/-- Planes of one descriptor that say where they start lie one behind the other. -/
theorem lies_of_records
    (hplanes : ∀ p < m.numPlanes, ∃ d, data.Records m.numPlanes p d m ∧ d.size = .ok size)
    (hnext : ∀ p, p + 1 < m.numPlanes → data.offsets.entry (p + 1) ≠ 0)
    (hn : p + 1 + n = m.numPlanes) :
    m.Lies size.toNat (p + 1) n (data.stopOf m.numPlanes p size.toNat) := by
  induction n generalizing p with
  | zero => exact if_neg fun h => by omega
  | succ n ih =>
    obtain ⟨d, ⟨-, hoffset, size', hsize', hstop, -⟩, hsize⟩ := hplanes (p + 1) (by omega)
    cases hsize.symm.trans hsize'
    have hstart : data.stopOf m.numPlanes p size.toNat = (m.offsets.entry (p + 1)).toNat := by
      rw [hoffset]
      exact if_pos ⟨by omega, hnext p (by omega)⟩
    refine ⟨hstart.symm, ?_⟩
    rw [hstart, hstop]
    exact ih (by omega)

theorem tiles_of_records (hpos : 0 < m.numPlanes)
    (hplanes : ∀ p < m.numPlanes, ∃ d, data.Records m.numPlanes p d m ∧ d.size = .ok size)
    (hnext : ∀ p, p + 1 < m.numPlanes → data.offsets.entry (p + 1) ≠ 0) :
    m.Tiles (data.offsets.entry 0).toNat size.toNat := by
  obtain ⟨k, hk⟩ := Nat.exists_eq_add_one_of_ne_zero (Nat.ne_of_gt hpos)
  obtain ⟨d, ⟨-, hoffset, size', hsize', hstop, -⟩, hsize⟩ := hplanes 0 hpos
  cases hsize.symm.trans hsize'
  have hlies := lies_of_records (p := 0) (n := k) hplanes hnext (by omega)
  rw [← hstop] at hlies
  apply Metadata.Lies.tiles
  rw [hk, ← hoffset]
  exact ⟨rfl, hlies⟩

theorem metadata_accepted (h : data.metadata = some (.ok m)) : data.Accepted m := by
  obtain ⟨shapes, hshapes, hlength, -, hplanes, -⟩ := metadata_records h
  obtain ⟨m₀, hm₀, hrelaid⟩ := metadata_relays h
  refine ⟨?_, hrelaid.shaped, hplanes, fun p hp => ?_, fun size hsizes hnext => ?_⟩
  · obtain ⟨_, -, hm₀⟩ := bind_eq_ok.mp hm₀
    cases hm₀
    exact hrelaid.format
  · obtain ⟨d, hd, -, -, size, hsize, hstop, hfits⟩ := hplanes p hp
    exact ⟨d, size, hd, hsize, hstop ▸ hfits⟩
  · have hrecorded : ∀ p < m.numPlanes,
        ∃ d, data.Records m.numPlanes p d m ∧ d.size = .ok size := by
      intro p hp
      obtain ⟨d, hd, hr⟩ := hplanes p hp
      exact ⟨d, hr, hsizes p hp d hd⟩
    exact tiles_of_records (hlength ▸ (Format.planes_length hshapes).1) hrecorded hnext

end ImportData

namespace Allocator

/-- Memory that is not to be mapped is imported exactly where each of its planes lies within its own
descriptor, and each is then recorded with the bytes it has there. -/
theorem importBuffer_accepts (a : Allocator) {data : ImportData} (f : Focus)
    (hu : data.useFlags.intersects .software = false)
    (hsum : (data.descriptors.map Descriptor.bytes).sum < 2 ^ 64)
    (hd : Unfailing f.host.answers.duplicates) (hi : Unfailing f.host.answers.inspections) :
    ∃ act, (backend a).importBuffer data = some act ∧
      ((∃ f', act f = .ok () f') ↔ data.Acceptable) ∧
      ∀ f', act f = .ok () f' → data.Accepted f'.buffer.metadata := by
  cases hm : data.metadata with
  | none => exact absurd (ImportData.metadata_stops hm) (Nat.not_le.mpr hsum)
  | some described =>
    refine ⟨_, Backend.importBuffer_described _ hm, ?_⟩
    cases described with
    | error e =>
      have hfails (f' : Focus) : (backend a).wrapBuffer data (.error e) f ≠ .ok () f' := nofun
      refine ⟨iff_of_false (fun ⟨f', h⟩ => hfails f' h) fun h => ?_, fun f' h => (hfails f' h).elim⟩
      -- Acceptable memory is either recorded or overflows.
      obtain ⟨hfits, hoverflows⟩ := ImportData.metadata_of_acceptable h
      rcases Nat.lt_or_ge data.totalBytes (2 ^ 64) with hlt | hle
      · obtain ⟨m, hok, -⟩ := hfits hlt
        cases hm.symm.trans hok
      · cases hm.symm.trans (hoverflows hle)
    | ok m =>
      obtain ⟨_, _, _, hfew, -⟩ := ImportData.metadata_records hm
      have hwraps : Yields ((backend a).wrapBuffer data (.ok m)) f _ _ :=
        wrapBuffer_wraps a f hfew hu hd hi
      obtain ⟨_, f', hf', -⟩ := hwraps.exists_ok
      refine ⟨iff_of_true ⟨f', hf'⟩ (ImportData.acceptable_of_metadata hm), fun f' h => ?_⟩
      rw [hwraps.of_ok h]
      exact ImportData.metadata_accepted hm

end Allocator

namespace ImportData

/-- Memory of two planes that share a descriptor. -/
def nv12Memory : ImportData where
  descriptors := [.memory 1 96, .memory 1 96]
  strides := #v[8, 8, 0, 0]
  offsets := #v[0, 64, 0, 0]
  modifier := 0
  width := 8
  height := 8
  format := .nv12
  useFlags := .texture

end ImportData

theorem Allocator.importBuffer_accepts_nv12 :
    ∃ act f', (backend ⟨.supplied, .linked⟩).importBuffer .nv12Memory = some act ∧
      act { host := {} } = .ok () f' ∧ ImportData.nv12Memory.Accepted f'.buffer.metadata ∧
      f'.buffer.metadata.Tiles 0 96 := by
  have hunmapped : ImportData.nv12Memory.useFlags.intersects .software = false := by decide
  obtain ⟨act, hact, haccepts, hrecorded⟩ :=
    importBuffer_accepts ⟨.supplied, .linked⟩ { host := {} } hunmapped (by decide) nofun nofun
  have hacceptable : ImportData.nv12Memory.Acceptable := by
    refine ⟨Format.biplanar420, rfl, by decide, fun p hp d hd => ⟨96, ?_⟩⟩
    have hp : p < 2 := hp
    interval_cases p <;> cases hd <;> decide
  obtain ⟨f', hf'⟩ := haccepts.mpr hacceptable
  have h := hrecorded f' hf'
  have hnum : f'.buffer.metadata.numPlanes = 2 := by
    obtain ⟨shapes, hshapes, hlength⟩ := h.shaped.planes
    rw [h.format] at hshapes
    cases (rfl : Format.nv12.planes? = some Format.biplanar420).symm.trans hshapes
    exact hlength.symm
  refine ⟨act, f', hact, hf', h, h.tiles 96 (fun p hp d hd => ?_) fun p hp => ?_⟩
  · rw [hnum] at hp
    interval_cases p <;> cases hd <;> rfl
  · rw [hnum] at hp
    obtain rfl : p = 0 := by omega
    decide

/-! ### The total -/

theorem Format.planes_few {f : Format} {shapes : List PlaneShape} (h : f.planes? = some shapes) :
    shapes.length ≤ 3 := by
  have hall : ∀ e ∈ planeTable, e.2.length ≤ 3 := by decide
  exact hall _ (mem_planeTable h)

theorem Metadata.size_le_planeSum {m : Metadata} {p : Nat} (hp : p < m.numPlanes) :
    (m.sizes.entry p).toNat ≤ m.planeSum :=
  Finset.single_le_sum (f := fun p => (m.sizes.entry p).toNat) (fun _ _ => Nat.zero_le _)
    (Finset.mem_range.mpr hp)

namespace ImportData

variable {data : ImportData} {p : Nat}

/-- A plane of acceptable memory ends within its descriptor. -/
theorem Acceptable.plane (h : data.Acceptable) (hp : p < data.planeCount) :
    ∃ d size, d ∈ data.descriptors ∧ d.size = .ok size ∧
      data.planeBytes data.planeCount p + (data.offsets.entry p).toNat =
        data.stopOf data.planeCount p size.toNat ∧
      data.stopOf data.planeCount p size.toNat ≤ size.toNat := by
  obtain ⟨shapes, hshapes, hfew, hwithin⟩ := h
  rw [planeCount_eq hshapes] at hp ⊢
  have hd : data.descriptors[p]? = some data.descriptors[p] := List.getElem?_eq_getElem _
  obtain ⟨size, hsize, hlow, hhigh⟩ := hwithin p hp _ hd
  refine ⟨_, size, List.mem_of_getElem? hd, hsize, ?_, hhigh⟩
  rw [planeBytes_of_size hd hsize]
  omega

theorem Acceptable.planeBytes_lt (h : data.Acceptable) {bound : Nat}
    (hseek : ∀ d ∈ data.descriptors, ∀ size, d.size = .ok size → size.toNat < bound)
    (hp : p < data.planeCount) : data.planeBytes data.planeCount p < bound := by
  obtain ⟨d, size, hd, hsize, hbytes, hfits⟩ := h.plane hp
  have := hseek d hd size hsize
  omega

/-- A plane that ends where the next one starts shares the bytes of the next one's descriptor. -/
theorem Acceptable.pairBytes_lt (h : data.Acceptable) {bound : Nat}
    (hseek : ∀ d ∈ data.descriptors, ∀ size, d.size = .ok size → size.toNat < bound)
    (hp : p + 1 < data.planeCount) (hstart : data.offsets.entry (p + 1) ≠ 0) :
    data.planeBytes data.planeCount p + data.planeBytes data.planeCount (p + 1) < bound := by
  obtain ⟨_, size, -, -, hbytes, -⟩ := h.plane (p := p) (by omega)
  obtain ⟨d', size', hd', hsize', hbytes', hfits'⟩ := h.plane hp
  rw [stopOf, if_pos ⟨hp, hstart⟩] at hbytes
  have := hseek d' hd' size' hsize'
  omega

/-- Planes need more than 64 bits together only where all of three take up descriptors to the end:
one that ends where the next one starts shares a descriptor's bytes with it. -/
theorem Acceptable.overflow (h : data.Acceptable)
    (hseek : ∀ d ∈ data.descriptors, ∀ size, d.size = .ok size → size.toNat < 2 ^ 63)
    (hsum : 2 ^ 64 ≤ data.totalBytes) :
    data.planeCount = 3 ∧ data.offsets.entry 1 = 0 ∧ data.offsets.entry 2 = 0 := by
  have hthree : data.planeCount ≤ 3 := by
    obtain ⟨shapes, hshapes, -⟩ := h
    rw [planeCount_eq hshapes]
    exact Format.planes_few hshapes
  have hnum : data.planeCount = 3 := by
    have hbound : data.totalBytes ≤ (Finset.range data.planeCount).card • (2 ^ 63 - 1) :=
      Finset.sum_le_card_nsmul _ _ _ fun p hp =>
        Nat.le_pred_of_lt (h.planeBytes_lt hseek (Finset.mem_range.mp hp))
    rw [Finset.card_range, smul_eq_mul] at hbound
    omega
  have hthird :
      data.totalBytes = data.planeBytes 3 0 + data.planeBytes 3 1 + data.planeBytes 3 2 := by
    rw [totalBytes, hnum]
    simp only [Finset.sum_range_succ, Finset.sum_range_zero, Nat.zero_add]
  have hplane (p : Nat) (hp : p < 3) : data.planeBytes 3 p < 2 ^ 63 := by
    rw [← hnum] at hp ⊢
    exact h.planeBytes_lt hseek hp
  have hpair (p : Nat) (hp : p + 1 < 3) (hstart : data.offsets.entry (p + 1) ≠ 0) :
      data.planeBytes 3 p + data.planeBytes 3 (p + 1) < 2 ^ 63 := by
    rw [← hnum] at hp ⊢
    exact h.pairBytes_lt hseek hp hstart
  have h0 := hplane 0 (by decide)
  have h2 := hplane 2 (by decide)
  refine ⟨hnum, ?_, ?_⟩
  · by_contra hstart
    have h01 : data.planeBytes 3 0 + data.planeBytes 3 1 < 2 ^ 63 := hpair 0 (by decide) hstart
    omega
  · by_contra hstart
    have h12 : data.planeBytes 3 1 + data.planeBytes 3 2 < 2 ^ 63 := hpair 1 (by decide) hstart
    omega

/-- The total of acceptable memory is that of its planes, and so no less than any of them, as long as
64 bits can count it. That they cannot takes three planes that all take up their descriptors to the
end; then the process stops. -/
theorem metadata_total (h : data.Acceptable)
    (hseek : ∀ d ∈ data.descriptors, ∀ size, d.size = .ok size → size.toNat < 2 ^ 63) :
    (data.totalBytes < 2 ^ 64 → ∃ m, data.metadata = some (.ok m) ∧
      m.totalSize.toNat = data.totalBytes ∧ m.totalSize.toNat = m.planeSum ∧
      ∀ p < m.numPlanes, m.sizes.entry p ≤ m.totalSize) ∧
    (2 ^ 64 ≤ data.totalBytes → data.planeCount = 3 ∧ data.offsets.entry 1 = 0 ∧
      data.offsets.entry 2 = 0 ∧ data.metadata = none) := by
  obtain ⟨hfits, hoverflows⟩ := metadata_of_acceptable h
  constructor
  · intro hlt
    obtain ⟨m, hm, htotal⟩ := hfits hlt
    obtain ⟨-, -, -, -, -, hsum⟩ := metadata_records hm
    refine ⟨m, hm, htotal, hsum, fun p hp => ?_⟩
    rw [UInt64.le_iff_toNat_le, hsum]
    exact Metadata.size_le_planeSum hp
  · intro hle
    obtain ⟨hnum, hfirst, hsecond⟩ := h.overflow hseek hle
    exact ⟨hnum, hfirst, hsecond, hoverflows hle⟩

/-- Memory whose planes all take up a descriptor of the greatest size that can be seeked. -/
def vastMemory (format : Format) (planes : Nat) : ImportData where
  descriptors := List.replicate planes (.memory 1 0x7FFFFFFFFFFFFFFF)
  strides := Planes.zero
  offsets := Planes.zero
  modifier := 0
  width := 8
  height := 8
  format := format
  useFlags := .texture

theorem vastMemory_seeks (format : Format) (planes : Nat) :
    ∀ d ∈ (vastMemory format planes).descriptors, ∀ size, d.size = .ok size →
      size.toNat < 2 ^ 63 := by
  intro d hd size hsize
  obtain rfl := List.eq_of_mem_replicate hd
  cases hsize
  decide

theorem vastMemory_acceptable {format : Format} {planes : Nat} {shapes : List PlaneShape}
    (hs : format.planes? = some shapes) (hp : shapes.length = planes) :
    (vastMemory format planes).Acceptable := by
  refine ⟨shapes, hs, by simp [vastMemory, hp], fun p _ d hd => ?_⟩
  obtain rfl := List.eq_of_mem_replicate (List.mem_of_getElem? hd)
  have hzero (q : Nat) : (vastMemory format planes).offsets.entry q = 0 := Planes.entry_zero q
  refine ⟨_, rfl, ?_, ?_⟩ <;> simp [stopOf, hzero]

/-- Two planes of any size are counted. -/
theorem metadata_total_nv12 : ∃ m, (vastMemory .nv12 2).metadata = some (.ok m) ∧
    m.planeSum = 2 ^ 64 - 2 ∧ m.totalSize.toNat = m.planeSum := by
  have hbytes : (vastMemory .nv12 2).totalBytes = 2 ^ 64 - 2 := by decide
  have hacceptable : (vastMemory .nv12 2).Acceptable := vastMemory_acceptable rfl rfl
  obtain ⟨hfits, -⟩ := metadata_total hacceptable (vastMemory_seeks .nv12 2)
  obtain ⟨m, hm, htotal, hsum, -⟩ := hfits (by rw [hbytes]; decide)
  exact ⟨m, hm, by rw [← hsum, htotal, hbytes], hsum⟩

/-- Three planes are not: nothing comes of memory that every check accepts. -/
theorem metadata_total_yvu420 : (vastMemory .yvu420 3).Acceptable ∧
    (∀ d ∈ (vastMemory .yvu420 3).descriptors, ∀ size, d.size = .ok size → size.toNat < 2 ^ 63) ∧
    (vastMemory .yvu420 3).totalBytes = 3 * (2 ^ 63 - 1) ∧
    (vastMemory .yvu420 3).metadata = none :=
  have hacceptable : (vastMemory .yvu420 3).Acceptable := vastMemory_acceptable rfl rfl
  ⟨hacceptable, vastMemory_seeks .yvu420 3, by decide, rfl⟩

end ImportData

end GraphicsBuffers
