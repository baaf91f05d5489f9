import GraphicsBuffers.Proofs.ByteSize

/-!
Where a layout stops. Planes are placed in their order, and the first that finds no place decides
the failure: the product that its row is found from needs more than 32 bits, or else its start does.
Nothing else that is counted on the way can leave its integers.
-/

namespace GraphicsBuffers

namespace Metadata

variable {format : Format} {first shape : PlaneShape} {shapes rest : List PlaneShape}
  {stride height : UInt32} {p offset i : Nat} {e e' : Error}

/-! ### Planes without a place -/

/-- What stops a layout at plane `i` of `shapes`, the first of which is plane `p` and starts at
`offset`. The row is found before the start is looked at. -/
inductive Fault (format : Format) (first : PlaneShape) (stride height : UInt32) (p offset : Nat)
    (shapes : List PlaneShape) (i : Nat) : Error → Prop
  | row {shape : PlaneShape} (hs : shapes[i]? = some shape) (hp : p + i ≠ 0)
      (h : 2 ^ 32 ≤ stride.toNat * shape.bytes) :
      Fault format first stride height p offset shapes i
        (.arithmetic ⟨"stride", stride.toNat.toUInt64⟩
          ⟨"bytes_per_pixel", shape.bytes.toUInt64⟩ "*")
  | start {shape : PlaneShape} (hs : shapes[i]? = some shape)
      (hrow : p + i ≠ 0 → stride.toNat * shape.bytes < 2 ^ 32)
      (h : 2 ^ 32 ≤ offset +
        ((format.planeBytes first stride.toNat height.toNat p shapes).take i).sum) :
      Fault format first stride height p offset shapes i .conversion

/-- The first plane that finds no place is stopped with the error. -/
def FirstFault (format : Format) (first : PlaneShape) (stride height : UInt32) (p offset : Nat)
    (shapes : List PlaneShape) (e : Error) : Prop :=
  ∃ i, Fault format first stride height p offset shapes i e ∧
    ∀ j < i, ∀ e', ¬Fault format first stride height p offset shapes j e'

theorem Fault.unique (h : Fault format first stride height p offset shapes i e)
    (h' : Fault format first stride height p offset shapes i e') : e = e' := by
  cases h with
  | row hs hp hlarge =>
    cases h' with
    | row hs' => cases hs.symm.trans hs'; rfl
    | start hs' hrow =>
      cases hs.symm.trans hs'
      exact absurd (hrow hp) (Nat.not_lt.mpr hlarge)
  | start hs hrow =>
    cases h' with
    | row hs' hp hlarge =>
      cases hs.symm.trans hs'
      exact absurd (hrow hp) (Nat.not_lt.mpr hlarge)
    | start => rfl

theorem FirstFault.unique (h : FirstFault format first stride height p offset shapes e)
    (h' : FirstFault format first stride height p offset shapes e') : e = e' := by
  obtain ⟨i, hi, hbefore⟩ := h
  obtain ⟨j, hj, hbefore'⟩ := h'
  rcases Nat.lt_trichotomy i j with hij | rfl | hij
  · exact absurd hi (hbefore' i hij e)
  · exact hi.unique hj
  · exact absurd hj (hbefore j hij e')

/-- If any plane is at fault, one is the first. -/
theorem Fault.exists_first (h : Fault format first stride height p offset shapes i e) :
    ∃ e, FirstFault format first stride height p offset shapes e := by
  induction i using Nat.strongRecOn generalizing e with
  | ind i ih =>
    by_cases hbefore : ∃ j < i, ∃ e', Fault format first stride height p offset shapes j e'
    · obtain ⟨j, hj, e', h'⟩ := hbefore
      exact ih j hj h'
    · exact ⟨e, i, h, fun j hj e' h' => hbefore ⟨j, hj, e', h'⟩⟩

/-- A plane is at fault exactly where one of the two numbers is too large. -/
theorem fault_iff (hs : shapes[i]? = some shape) :
    (∃ e, Fault format first stride height p offset shapes i e) ↔
      p + i ≠ 0 ∧ 2 ^ 32 ≤ stride.toNat * shape.bytes ∨ 2 ^ 32 ≤ offset +
        ((format.planeBytes first stride.toNat height.toNat p shapes).take i).sum := by
  constructor
  · intro h
    obtain ⟨e, h⟩ := h
    cases h with
    | row hs' hp h =>
      cases hs.symm.trans hs'
      exact Or.inl ⟨hp, h⟩
    | start _ _ h => exact Or.inr h
  · intro h
    by_cases hrow : p + i ≠ 0 ∧ 2 ^ 32 ≤ stride.toNat * shape.bytes
    · exact ⟨_, .row hs hrow.1 hrow.2⟩
    · refine ⟨_, .start hs (fun hp => ?_) (h.resolve_left hrow)⟩
      exact Nat.lt_of_not_le fun hle => hrow ⟨hp, hle⟩

theorem not_fault_of_none (hs : shapes[i]? = none) :
    ¬Fault format first stride height p offset shapes i e := by
  intro h
  cases h with
  | row hs' => cases hs.symm.trans hs'
  | start hs' => cases hs.symm.trans hs'

/-- The faults of later planes are those of a layout that starts behind the first. -/
theorem fault_succ :
    Fault format first stride height p offset (shape :: shapes) (i + 1) e ↔
      Fault format first stride height (p + 1) (offset +
        format.rowBytes first stride.toNat p shape * ceilDiv height.toNat shape.vertical)
        shapes i e := by
  have hp : p + (i + 1) = p + 1 + i := by omega
  have hstart : offset +
      ((format.planeBytes first stride.toNat height.toNat p (shape :: shapes)).take (i + 1)).sum =
      offset + format.rowBytes first stride.toNat p shape * ceilDiv height.toNat shape.vertical +
        ((format.planeBytes first stride.toNat height.toNat (p + 1) shapes).take i).sum := by
    rw [Format.planeBytes, List.take_succ_cons, List.sum_cons, Nat.add_assoc]
  constructor
  · intro h
    cases h with
    | row hs hne hlarge => exact .row hs (hp ▸ hne) hlarge
    | start hs hrow hlarge => exact .start hs (hp ▸ hrow) (hstart ▸ hlarge)
  · intro h
    cases h with
    | row hs hne hlarge => exact .row hs (hp ▸ hne) hlarge
    | start hs hrow hlarge => exact .start hs (hp ▸ hrow) (hstart ▸ hlarge)

theorem FirstFault.head (h : Fault format first stride height p offset shapes 0 e) :
    FirstFault format first stride height p offset shapes e :=
  ⟨0, h, fun j hj => absurd hj (Nat.not_lt_zero j)⟩

theorem FirstFault.tail
    (hhead : ∀ e', ¬Fault format first stride height p offset (shape :: shapes) 0 e')
    (h : FirstFault format first stride height (p + 1) (offset +
      format.rowBytes first stride.toNat p shape * ceilDiv height.toNat shape.vertical) shapes e) :
    FirstFault format first stride height p offset (shape :: shapes) e := by
  obtain ⟨i, hi, hbefore⟩ := h
  refine ⟨i + 1, fault_succ.mpr hi, fun j hj e' h' => ?_⟩
  cases j with
  | zero => exact hhead e' h'
  | succ j => exact hbefore j (by omega) e' (fault_succ.mp h')

/-! ### What never leaves its integers -/

/-- Whatever is counted for plane `p` on the way to its place can be counted: nothing is divided by
zero, a row whose product fits is found, and so are the bytes of the plane and where the next one
starts. -/
structure Countable (format : Format) (first : PlaneShape) (stride height : UInt32) (p : Nat)
    (shape : PlaneShape) : Prop where
  divisor : 0 < first.bytes * shape.horizontal
  divisor_lt : first.bytes * shape.horizontal < 2 ^ 32
  vertical : 0 < shape.vertical
  row : (p ≠ 0 → stride.toNat * shape.bytes < 2 ^ 32) →
    ∃ row, planeRow format first stride p shape = .ok row
  size : ∀ row, planeRow format first stride p shape = .ok row →
    ∃ size, checked64 .times ⟨"row_bytes", row.toNat⟩
      ⟨"rows", ceilDiv height.toNat shape.vertical⟩ = .ok size ∧
      ∀ offset : UInt64, offset.toNat < 2 ^ 32 → ∃ next,
        checked64 .plus ⟨"offset", offset.toNat⟩ ⟨"plane_size", size.toNat⟩ = .ok next

theorem planeRow_of_le (format : Format) (first : PlaneShape) (hp : p ≠ 0)
    (h : 2 ^ 32 ≤ stride.toNat * shape.bytes) :
    planeRow format first stride p shape = .error (.arithmetic
      ⟨"stride", stride.toNat.toUInt64⟩ ⟨"bytes_per_pixel", shape.bytes.toUInt64⟩ "*") := by
  have hscaled : checked32 .times ⟨"stride", stride.toNat⟩ ⟨"bytes_per_pixel", shape.bytes⟩ = _ :=
    checkedWord_times_of_le h
  rw [planeRow, if_neg hp, chromaStride, hscaled, Named.operand_natCast, Named.operand_natCast]
  rfl

/-- A row of chroma at half the width is shorter than the product that it is found from, and so can
be rounded up. -/
theorem rowBytes_lt (hd : first.bytes * shape.horizontal = 2)
    (h : stride.toNat * shape.bytes < 2 ^ 32) :
    format.rowBytes first stride.toNat (p + 1) shape < 2 ^ 32 := by
  rw [Format.rowBytes, if_neg p.succ_ne_zero, hd]
  dsimp only
  unfold ceilDiv
  split <;> omega

/-- The bytes of a plane, and the end of one that starts below 4 GiB, need no more than 64 bits. -/
theorem size_of_row (height : UInt32) (hv : 0 < shape.vertical) (row : UInt32) :
    ∃ size, checked64 .times ⟨"row_bytes", row.toNat⟩
      ⟨"rows", ceilDiv height.toNat shape.vertical⟩ = .ok size ∧
      ∀ offset : UInt64, offset.toNat < 2 ^ 32 → ∃ next,
        checked64 .plus ⟨"offset", offset.toNat⟩ ⟨"plane_size", size.toNat⟩ = .ok next := by
  have hrow : row.toNat ≤ 2 ^ 32 - 1 := Nat.le_pred_of_lt row.toNat_lt
  have hheight : height.toNat ≤ 2 ^ 32 - 1 := Nat.le_pred_of_lt height.toNat_lt
  have hrows : ceilDiv height.toNat shape.vertical ≤ height.toNat :=
    ceilDiv_le (Nat.le_mul_of_pos_right _ hv)
  have hproduct : row.toNat * ceilDiv height.toNat shape.vertical ≤
      (2 ^ 32 - 1) * (2 ^ 32 - 1) := Nat.mul_le_mul hrow (Nat.le_trans hrows hheight)
  obtain ⟨size, hsize⟩ : ∃ size, checked64 .times ⟨"row_bytes", row.toNat⟩
      ⟨"rows", ceilDiv height.toNat shape.vertical⟩ = .ok size :=
    checkedWord_times_of_lt (Nat.lt_of_le_of_lt hproduct (by decide))
  have hexact : size.toNat = _ := checkedWord_times hsize
  refine ⟨size, hsize, fun offset hoffset => checkedWord_plus_of_lt ?_⟩
  change offset.toNat + size.toNat < 2 ^ 64
  omega

theorem planes_countable (hs : format.planes? = some (first :: rest))
    (hi : (first :: rest)[p]? = some shape) :
    Countable format first stride height p shape := by
  obtain ⟨hh, -, -⟩ := Format.planes_shapes hs
  obtain ⟨hd, hv⟩ := Format.divisors_pos hs shape (List.mem_of_getElem? hi)
  have hsize : ∀ row, planeRow format first stride p shape = .ok row → _ :=
    fun row _ => size_of_row height hv row
  cases p with
  | zero =>
    cases hi
    have hall : ∀ e ∈ Format.planeTable, ∀ first ∈ e.2.head?, first.bytes < 2 ^ 32 := by decide
    have hlt := hall _ (Format.mem_planeTable hs) first rfl
    rw [← Nat.mul_one first.bytes, ← hh] at hlt
    exact ⟨hd, hlt, hv, fun _ => ⟨stride, rfl⟩, hsize⟩
  | succ p =>
    obtain ⟨hbytes, hhorizontal, -⟩ :=
      Format.planes_chroma hs shape (List.mem_of_getElem? hi)
    have htwo : first.bytes * shape.horizontal = 2 := by rw [hbytes, hhorizontal]
    refine ⟨hd, by omega, hv, fun hscaled => ?_, hsize⟩
    exact planeRow_of_lt hscaled (rowBytes_lt htwo (hscaled p.succ_ne_zero))

/-! ### The layout -/

/-- The planes are placed until one of them is at fault. -/
theorem layPlanes_stops (hc : ∀ i shape, shapes[i]? = some shape →
      Countable format first stride height (p + i) shape) (offset : UInt64) (m : Metadata) :
    Yields (layPlanes format first stride height p offset shapes) m
      (fun _ _ => ∀ i e, ¬Fault format first stride height p offset.toNat shapes i e)
      (fun e _ => FirstFault format first stride height p offset.toNat shapes e) := by
  induction shapes generalizing p offset m with
  | nil => exact fun i e => not_fault_of_none rfl
  | cons shape rest ih =>
    have hhere : Countable format first stride height p shape := hc 0 shape rfl
    have hhead : (∃ e, Fault format first stride height p offset.toNat (shape :: rest) 0 e) ↔
        p ≠ 0 ∧ 2 ^ 32 ≤ stride.toNat * shape.bytes ∨ 2 ^ 32 ≤ offset.toNat := by
      refine (fault_iff List.getElem?_cons_zero).trans ?_
      rw [List.take_zero, List.sum_nil, Nat.add_zero, Nat.add_zero]
    unfold layPlanes
    by_cases hrow : p ≠ 0 ∧ 2 ^ 32 ≤ stride.toNat * shape.bytes
    · have hfails := planeRow_of_le format first hrow.1 hrow.2
      rw [planeRow] at hfails
      rw [yields_bind, yields_ofExcept_error hfails]
      exact .head (.row rfl hrow.1 hrow.2)
    have hfits : p ≠ 0 → stride.toNat * shape.bytes < 2 ^ 32 :=
      fun hp => Nat.lt_of_not_le fun hle => hrow ⟨hp, hle⟩
    obtain ⟨row, hrow'⟩ := hhere.row hfits
    obtain ⟨size, hsize, hnext⟩ := hhere.size row hrow'
    have hexact := planeRow_ok hhere.divisor hrow'
    rw [planeRow] at hrow'
    simp only [yields_bind, yields_modify, yields_ofExcept_ok hrow', yields_ofExcept_ok hsize]
    by_cases hstart : 2 ^ 32 ≤ offset.toNat
    · rw [yields_ofExcept_error (narrow_of_le hstart)]
      exact .head (.start rfl hfits (by simpa using hstart))
    obtain ⟨next, hnext⟩ := hnext offset (by omega)
    rw [yields_ofExcept_ok (narrow_of_lt (by omega)), yields_ofExcept_ok hnext]
    have hclear : ∀ e, ¬Fault format first stride height p offset.toNat (shape :: rest) 0 e :=
      fun e h => (hhead.mp ⟨e, h⟩).elim hrow hstart
    have hend : next.toNat = offset.toNat +
        format.rowBytes first stride.toNat p shape * ceilDiv height.toNat shape.vertical := by
      have hsum : next.toNat = offset.toNat + size.toNat := checkedWord_plus hnext
      have hproduct : size.toNat = _ := checkedWord_times hsize
      rw [hsum, hproduct, hexact]
    have hrest : ∀ i shape, rest[i]? = some shape →
        Countable format first stride height (p + 1 + i) shape := by
      intro i shape hi
      have := hc (i + 1) shape hi
      rwa [← Nat.add_assoc, Nat.add_right_comm] at this
    apply (ih hrest next _).imp
    · intro _ _ h i e hf
      rw [hend] at h
      cases i with
      | zero => exact hclear e hf
      | succ i => exact h i e (fault_succ.mp hf)
    · intro e _ h
      rw [hend] at h
      exact .tail hclear h

end Metadata

open Metadata

/-- Why a layout in the format fails: there are no planes, or the first plane that finds no place
tells. -/
inductive Format.Fails (format : Format) (stride height : UInt32) : Error → Prop
  | shapeless (hs : format.planes? = none) : Fails format stride height .formatWithoutPlanes
  | plane {first : PlaneShape} {rest : List PlaneShape} {e : Error}
      (hs : format.planes? = some (first :: rest))
      (h : FirstFault format first stride height 0 0 (first :: rest) e) :
      Fails format stride height e

namespace Metadata

variable {format : Format} {shape : PlaneShape} {stride height : UInt32}

theorem layOut_stops (format : Format) (stride height : UInt32) (m : Metadata) :
    Yields (layOut format stride height) m (fun _ _ => ∀ e, ¬format.Fails stride height e)
      (fun e _ => format.Fails stride height e) := by
  unfold layOut
  cases hs : format.planes? with
  | none =>
    have hfails : format.planes = .error .formatWithoutPlanes := by simp [Format.planes, hs]
    rw [yields_bind, yields_ofExcept_error hfails]
    exact .shapeless hs
  | some shapes =>
    obtain ⟨first, rest, rfl⟩ := List.exists_cons_of_length_pos (Format.planes_length hs).1
    simp only [yields_bind, yields_modify, yields_ofExcept_ok (Format.planes_of_some hs)]
    have hc : ∀ i shape, (first :: rest)[i]? = some shape →
        Countable format first stride height (0 + i) shape := by
      intro i shape hi
      rw [Nat.zero_add]
      exact planes_countable hs hi
    apply (layPlanes_stops hc 0 m).imp
    · intro _ _ h e hf
      cases hf with
      | shapeless hs' => cases hs.symm.trans hs'
      | plane hs' hf =>
        cases hs.symm.trans hs'
        obtain ⟨i, hi, -⟩ := hf
        exact h i e hi
    · exact fun e _ h => .plane hs h

theorem fails_unique {e e' : Error} (h : format.Fails stride height e)
    (h' : format.Fails stride height e') : e = e' := by
  cases h with
  | shapeless hs =>
    cases h' with
    | shapeless => rfl
    | plane hs' => cases hs.symm.trans hs'
  | plane hs h =>
    cases h' with
    | shapeless hs' => cases hs.symm.trans hs'
    | plane hs' h' =>
      cases hs.symm.trans hs'
      exact h.unique h'

/-- Some plane of the format finds no place: the product that its row is found from is too large,
or its start is. -/
theorem exists_fails_iff (format : Format) (stride height : UInt32) :
    (∃ e, format.Fails stride height e) ↔ format.planes? = none ∨
      ∃ first rest, format.planes? = some (first :: rest) ∧
        ∃ p shape, (first :: rest)[p]? = some shape ∧
          (p ≠ 0 ∧ 2 ^ 32 ≤ stride.toNat * shape.bytes ∨ 2 ^ 32 ≤
            ((format.planeBytes first stride.toNat height.toNat 0
              (first :: rest)).take p).sum) := by
  constructor
  · intro h
    obtain ⟨e, h⟩ := h
    cases h with
    | shapeless hs => exact Or.inl hs
    | @plane first rest _ hs h =>
      obtain ⟨p, hp, -⟩ := h
      obtain ⟨shape, hshape⟩ : ∃ shape, (first :: rest)[p]? = some shape :=
        Option.ne_none_iff_exists'.mp fun hnone => not_fault_of_none hnone hp
      have hlarge := (fault_iff hshape).mp ⟨e, hp⟩
      rw [Nat.zero_add, Nat.zero_add] at hlarge
      exact Or.inr ⟨first, rest, hs, p, shape, hshape, hlarge⟩
  · intro h
    rcases h with hs | ⟨first, rest, hs, p, shape, hshape, hlarge⟩
    · exact ⟨_, .shapeless hs⟩
    · obtain ⟨e, h⟩ : ∃ e, Fault format first stride height 0 0 (first :: rest) p e :=
        (fault_iff hshape).mpr (by simpa using hlarge)
      obtain ⟨e, hfirst⟩ := h.exists_first
      exact ⟨e, .plane hs hfirst⟩

/-- The first row needs no product and the first plane starts at once. -/
theorem not_fails_single (hs : format.planes? = some [shape]) (e : Error) :
    ¬format.Fails stride height e := by
  intro h
  obtain hnone | ⟨first, rest, hs', p, _, hp, hlarge⟩ := (exists_fails_iff _ _ _).mp ⟨e, h⟩
  · cases hs.symm.trans hnone
  · cases hs.symm.trans hs'
    obtain rfl : p = 0 := by
      have := (List.getElem?_eq_some_iff.mp hp).1
      simpa using this
    simp at hlarge

theorem layOut_error_iff (format : Format) (stride height : UInt32) (m : Metadata) (e : Error) :
    (∃ m', layOut format stride height m = .error e m') ↔ format.Fails stride height e := by
  have hstops := layOut_stops format stride height m
  cases hlay : layOut format stride height m with
  | ok _ m' =>
    refine iff_of_false (fun h => ?_) (hstops.of_ok hlay e)
    obtain ⟨_, h⟩ := h
    cases h
  | error e' m' =>
    have hfails := hstops.of_error hlay
    constructor
    · intro h
      obtain ⟨_, h⟩ := h
      cases h
      exact hfails
    · intro h
      exact ⟨m', by rw [fails_unique hfails h]⟩

/-- A layout fails where the format has no planes, or where some plane finds no place, and the first
such plane tells why. Nothing else that is counted on the way leaves its integers. -/
theorem layOut_fails (format : Format) (stride height : UInt32) (m : Metadata) :
    (∀ e, (∃ m', layOut format stride height m = .error e m') ↔ format.Fails stride height e) ∧
    ((∃ e m', layOut format stride height m = .error e m') ↔ format.planes? = none ∨
      ∃ first rest, format.planes? = some (first :: rest) ∧
        ∃ p shape, (first :: rest)[p]? = some shape ∧
          (p ≠ 0 ∧ 2 ^ 32 ≤ stride.toNat * shape.bytes ∨ 2 ^ 32 ≤
            ((format.planeBytes first stride.toNat height.toNat 0
              (first :: rest)).take p).sum)) ∧
    (∀ first rest, format.planes? = some (first :: rest) → ∀ p shape,
      (first :: rest)[p]? = some shape → Countable format first stride height p shape) ∧
    (∀ shape, format.planes? = some [shape] →
      ∃ m', layOut format stride height m = .ok () m') := by
  have herror := layOut_error_iff format stride height m
  refine ⟨herror, ?_, fun first rest hs p shape => planes_countable hs, fun shape hs => ?_⟩
  · rw [← exists_fails_iff]
    exact exists_congr herror
  · cases hlay : layOut format stride height m with
    | ok _ m' => exact ⟨m', rfl⟩
    | error e m' => exact absurd ((herror e).mp ⟨m', hlay⟩) (not_fails_single hs e)

end Metadata

end GraphicsBuffers
