import GraphicsBuffers.Proofs.Request

/-!
Rounding up at the limit of a type. A number is rounded to the least multiple of a power of two
wherever the type can hold that multiple, and nowhere else. So the rounding is monotone, and changes
nothing when it is repeated.
-/

namespace GraphicsBuffers

/-! ### Least multiples -/

section

variable {a v w m n limit : Nat}

/-- The rounded number stays below a limit that is itself a multiple just where the number does with
the whole mask added. -/
theorem isLeast_multiplesFrom_lt_iff (ha : 0 < a) (hlimit : a ∣ limit)
    (hm : IsLeast (multiplesFrom a v) m) : m < limit ↔ v + (a - 1) < limit := by
  obtain ⟨hdvd, hle⟩ := hm.1
  constructor
  · intro h
    -- Between two multiples there is room for the mask.
    have hroom : m + a ≤ limit := by
      apply Nat.le_of_not_lt
      intro hlt
      exact absurd (Nat.le_of_lt_add_of_dvd hlt hlimit hdvd) (Nat.not_le.mpr h)
    omega
  · intro h
    have hceil : m = ceilDiv v a * a := hm.unique (ceilDiv_mul_isLeast v ha)
    have hmul : ceilDiv v a * a ≤ v + a - 1 := Nat.div_mul_le_self _ _
    omega

theorem isLeast_multiplesFrom_self (h : IsLeast (multiplesFrom a v) m) :
    IsLeast (multiplesFrom a m) m :=
  ⟨⟨h.1.1, Nat.le_refl m⟩, fun _ hk => hk.2⟩

theorem isLeast_multiplesFrom_mono (hvw : v ≤ w) (hm : IsLeast (multiplesFrom a v) m)
    (hn : IsLeast (multiplesFrom a w) n) : m ≤ n :=
  hm.2 ⟨hn.1.1, Nat.le_trans hvw hn.1.2⟩

/-- A power of two that a word holds divides the number of such words. -/
theorem dvd_of_isPowerOfTwo {size : Nat} (h : n.isPowerOfTwo) (hlt : n < 2 ^ size) :
    n ∣ 2 ^ size := by
  obtain ⟨k, rfl⟩ := h
  exact Nat.pow_dvd_pow 2 (Nat.le_of_lt ((Nat.pow_lt_pow_iff_right (by decide)).mp hlt))

end

/-! ### Roundings of words -/

/-- Words of `size` bits are rounded up to the multiples of `align`. That fails only as an overflow,
and only where the words cannot hold the multiple. -/
structure RoundsUp {α : Type} (toNat : α → Nat) (size align : Nat)
    (round : α → Except Error α) : Prop where
  least : ∀ value r, round value = .ok r → IsLeast (multiplesFrom align (toNat value)) (toNat r)
  succeeds : ∀ value m, IsLeast (multiplesFrom align (toNat value)) m →
    ((∃ r, round value = .ok r) ↔ m < 2 ^ size)
  fails : ∀ value e, round value = .error e →
    e = .arithmetic ⟨"value", (toNat value).toUInt64⟩ ⟨"mask", (align - 1).toUInt64⟩ "+"
  again : ∀ value r, round value = .ok r → round r = .ok r
  monotone : ∀ value value' r', toNat value ≤ toNat value' → round value' = .ok r' →
    ∃ r, round value = .ok r ∧ toNat r ≤ toNat r'

section

variable {α : Type} [Word α] {align : α}

/-- Rounding succeeds just where the words can hold the least multiple. -/
theorem roundUp_succeeds (halign : (Word.toNat align).isPowerOfTwo) {value : α} {m : Nat}
    (hm : IsLeast (multiplesFrom (Word.toNat align) (Word.toNat value)) m) :
    (∃ r, roundUp value align = .ok r) ↔ m < 2 ^ Word.size α := by
  have ⟨k, hk⟩ := halign
  have hpos := Nat.pos_of_isPowerOfTwo halign
  constructor
  · rintro ⟨r, hr⟩
    have hr' : Word.toNat r = m := by
      rw [roundUp_ok hk hr, ← hk]
      exact (ceilDiv_mul_isLeast _ hpos).unique hm
    exact hr' ▸ Word.toNat_lt r
  · intro h
    have hdvd := dvd_of_isPowerOfTwo halign (Word.toNat_lt align)
    refine roundUp_of_lt hk ?_
    rw [← hk]
    exact (isLeast_multiplesFrom_lt_iff hpos hdvd hm).mp h

theorem roundUp_rounds (halign : (Word.toNat align).isPowerOfTwo) :
    RoundsUp Word.toNat (Word.size α) (Word.toNat align) (roundUp · align) := by
  have ⟨k, hk⟩ := halign
  have hpos := Nat.pos_of_isPowerOfTwo halign
  have hleast : ∀ value r, roundUp value align = .ok r →
      IsLeast (multiplesFrom (Word.toNat align) (Word.toNat value)) (Word.toNat r) := by
    intro value r h
    rw [roundUp_ok hk h, ← hk]
    exact ceilDiv_mul_isLeast _ hpos
  refine ⟨hleast, fun _ _ => roundUp_succeeds halign, ?_, ?_, ?_⟩
  · intro value e h
    rw [hk]
    exact roundUp_error hk h
  · intro value r h
    have hself := isLeast_multiplesFrom_self (hleast value r h)
    obtain ⟨r', hr'⟩ := (roundUp_succeeds halign hself).mpr (Word.toNat_lt r)
    rw [hr', Word.toNat_inj ((hleast r r' hr').unique hself)]
  · intro value value' r' hle h'
    have hleast' := hleast value' r' h'
    have hm := ceilDiv_mul_isLeast (Word.toNat value) hpos
    have hlt' := Nat.lt_of_le_of_lt (isLeast_multiplesFrom_mono hle hm hleast') (Word.toNat_lt r')
    obtain ⟨r, hr⟩ := (roundUp_succeeds halign hm).mpr hlt'
    exact ⟨r, hr, isLeast_multiplesFrom_mono hle (hleast value r hr) hleast'⟩

end

/-- To a power of two, both roundings come to the least multiple wherever their type can hold it. -/
theorem align_roundsUp :
    (∀ align : UInt32, align.toNat.isPowerOfTwo →
      RoundsUp UInt32.toNat 32 align.toNat (align32 · align)) ∧
    ∀ align : UInt64, align.toNat.isPowerOfTwo →
      RoundsUp UInt64.toNat 64 align.toNat (align64 · align) :=
  ⟨fun _ h => roundUp_rounds h, fun _ h => roundUp_rounds h⟩

/-- The greatest power of two of a type is its own multiple, though with the mask it comes to the
greatest number of the type. A number greater by one has no multiple there. -/
theorem align_roundsUp_limit :
    (0x80000000 : UInt32).toNat.isPowerOfTwo ∧ (0x8000000000000000 : UInt64).toNat.isPowerOfTwo ∧
      (∃ r, align32 0x80000000 0x80000000 = .ok r) ∧
      (¬∃ r, align32 0x80000001 0x80000000 = .ok r) ∧
      (∃ r, align64 0x8000000000000000 0x8000000000000000 = .ok r) ∧
      ¬∃ r, align64 0x8000000000000001 0x8000000000000000 = .ok r := by
  have hpower32 : (0x80000000 : UInt32).toNat.isPowerOfTwo := ⟨31, rfl⟩
  have hpower64 : (0x8000000000000000 : UInt64).toNat.isPowerOfTwo := ⟨63, rfl⟩
  obtain ⟨h32, h64⟩ := align_roundsUp
  have h32 := (h32 _ hpower32).succeeds
  have h64 := (h64 _ hpower64).succeeds
  refine ⟨hpower32, hpower64, ?_, ?_, ?_, ?_⟩
  · exact (h32 0x80000000 0x80000000 (ceilDiv_mul_isLeast 0x80000000 (by decide))).mpr (by decide)
  · rw [h32 0x80000001 0x100000000 (ceilDiv_mul_isLeast 0x80000001 (by decide))]
    decide
  · exact (h64 0x8000000000000000 0x8000000000000000
      (ceilDiv_mul_isLeast 0x8000000000000000 (by decide))).mpr (by decide)
  · rw [h64 0x8000000000000001 0x10000000000000000
      (ceilDiv_mul_isLeast 0x8000000000000001 (by decide))]
    decide

end GraphicsBuffers
