import GraphicsBuffers.Arithmetic
import Mathlib.Algebra.Group.Nat.Defs

/-!
Words in range, and rounding up: to a quotient, and to a multiple of a power of two by clearing the
bits below it.
-/

namespace GraphicsBuffers

theorem le_ceilDiv_mul {b : Nat} (a : Nat) (hb : 0 < b) : a ≤ ceilDiv a b * b := by
  have hmod := Nat.mod_lt (a + b - 1) hb
  have hdiv := Nat.div_add_mod (a + b - 1) b
  rw [Nat.mul_comm] at hdiv
  unfold ceilDiv
  omega

theorem ceilDiv_one (a : Nat) : ceilDiv a 1 = a := by simp [ceilDiv]

theorem ceilDiv_le {a b k : Nat} (h : a ≤ k * b) : ceilDiv a b ≤ k := by
  rcases Nat.eq_zero_or_pos b with rfl | hb
  · simp [ceilDiv]
  · have hlt : a + b - 1 < (k + 1) * b := by
      rw [Nat.add_mul]
      omega
    exact Nat.le_of_lt_succ ((Nat.div_lt_iff_lt_mul hb).mpr hlt)

theorem ceilDiv_zero (b : Nat) : ceilDiv 0 b = 0 :=
  Nat.le_zero.mp (ceilDiv_le (Nat.zero_le _))

/-- Only a multiple is not rounded up. -/
theorem ceilDiv_mul_le_iff {a b : Nat} (hb : 0 < b) : ceilDiv a b * b ≤ a ↔ b ∣ a := by
  constructor
  · intro h
    exact ⟨ceilDiv a b, by rw [Nat.mul_comm]; exact Nat.le_antisymm (le_ceilDiv_mul a hb) h⟩
  · rintro ⟨k, rfl⟩
    rw [Nat.mul_comm b k]
    exact Nat.mul_le_mul_right b (ceilDiv_le (Nat.le_refl _))

theorem ceilDiv_pos {a b : Nat} (ha : 0 < a) (hb : 0 < b) : 0 < ceilDiv a b := by
  have := le_ceilDiv_mul a hb
  rcases Nat.eq_zero_or_pos (ceilDiv a b) with h | h
  · rw [h] at this
    omega
  · exact h

theorem and_add_and_not {w : Nat} (x m : BitVec w) :
    (x &&& m).toNat + (x &&& ~~~m).toNat = x.toNat := by
  have hd : (x &&& m) &&& (x &&& ~~~m) = 0#w := by
    ext i hi
    simp only [BitVec.getElem_and, BitVec.getElem_not, BitVec.getElem_zero]
    cases x[i] <;> cases m[i] <;> rfl
  have hs : (x &&& m) + (x &&& ~~~m) = x := by
    rw [BitVec.add_eq_or_of_and_eq_zero _ _ hd]
    ext i hi
    simp only [BitVec.getElem_or, BitVec.getElem_and, BitVec.getElem_not]
    cases x[i] <;> cases m[i] <;> rfl
  rw [← BitVec.toNat_add_of_and_eq_zero hd, hs]

/-- Clearing the bits of a mask leaves the multiples of what lies above it. -/
theorem clear_low {w k : Nat} (x mask : BitVec w) (hm : mask.toNat = 2 ^ k - 1) :
    (x &&& ~~~mask).toNat = x.toNat / 2 ^ k * 2 ^ k := by
  have hsplit := and_add_and_not x mask
  rw [BitVec.toNat_and, hm, Nat.and_two_pow_sub_one_eq_mod] at hsplit
  have hdiv := Nat.div_add_mod x.toNat (2 ^ k)
  rw [Nat.mul_comm] at hdiv
  omega

theorem IntRange.unsigned_high (size : Nat) :
    (IntRange.unsigned size).high = (2 ^ size - 1 : Nat) :=
  congrArg Nat.cast (BitVec.toNat_allOnes (v := size))

section

variable {α : Type} [Word α] {sign : Sign} {x y : Named} {r m n : Nat} {a b : String}

theorem Word.toNat_lt (x : α) : Word.toNat x < 2 ^ Word.size α := (Word.toBits x).isLt

theorem checkedWord_of_lt (hr : sign.result? x.value y.value = some (r : Int))
    (h : r < 2 ^ Word.size α) : ∃ z : α, checkedWord sign x y = .ok z := by
  have hhigh : (r : Int) ≤ (IntRange.unsigned (Word.size α)).high := by
    rw [IntRange.unsigned_high]
    omega
  rw [checkedWord, checked_of_range hr (Int.natCast_nonneg r) hhigh]
  exact ⟨_, rfl⟩

theorem checkedWord_plus_of_lt (h : m + n < 2 ^ Word.size α) :
    ∃ z : α, checkedWord .plus ⟨a, m⟩ ⟨b, n⟩ = .ok z :=
  checkedWord_of_lt (r := m + n) rfl h

theorem checkedWord_times_of_lt (h : m * n < 2 ^ Word.size α) :
    ∃ z : α, checkedWord .times ⟨a, m⟩ ⟨b, n⟩ = .ok z :=
  checkedWord_of_lt (r := m * n) rfl h

theorem checkedWord_times_of_le (h : 2 ^ Word.size α ≤ m * n) :
    (checkedWord .times ⟨a, m⟩ ⟨b, n⟩ : Except Error α) =
      .error (.arithmetic (Named.operand ⟨a, m⟩) (Named.operand ⟨b, n⟩) "*") := by
  have hhigh : (IntRange.unsigned (Word.size α)).high < (m : Int) * n := by
    rw [← Int.natCast_mul]
    have hpos := Nat.two_pow_pos (Word.size α)
    rw [IntRange.unsigned_high]
    omega
  rw [checkedWord, checked_of_high rfl hhigh]
  rfl

end

section

variable {α : Type} [Word α] {value align r : α} {k : Nat}

theorem mask_toNat (ha : Word.toNat align = 2 ^ k) : (Word.toBits align - 1).toNat = 2 ^ k - 1 := by
  have hpos := Nat.two_pow_pos k
  have hone : (1 : BitVec (Word.size α)).toNat = 1 := by
    have hlt := Word.toNat_lt align
    rw [ha] at hlt
    exact Nat.mod_eq_of_lt (Nat.lt_of_le_of_lt hpos hlt)
  have hle : (1 : BitVec (Word.size α)) ≤ Word.toBits align := by
    rw [BitVec.le_def, hone]
    exact Nat.le_trans hpos (Nat.le_of_eq ha.symm)
  rw [BitVec.toNat_sub_of_le hle, hone]
  exact congrArg (· - 1) ha

theorem roundUp_ok (ha : Word.toNat align = 2 ^ k) (h : roundUp value align = .ok r) :
    Word.toNat r = ceilDiv (Word.toNat value) (2 ^ k) * 2 ^ k := by
  obtain ⟨bumped, hb, h⟩ := bind_eq_ok.mp h
  have hpos := Nat.two_pow_pos k
  have hmask := mask_toNat ha
  have hsum : Word.toNat bumped = Word.toNat value + 2 ^ k - 1 := by
    rw [checkedWord_plus hb, hmask]
    omega
  rw [← Except.ok.inj h, Word.toNat_ofBits, clear_low _ _ hmask]
  exact congrArg (· / 2 ^ k * 2 ^ k) hsum

theorem roundUp_of_lt (ha : Word.toNat align = 2 ^ k)
    (h : Word.toNat value + (2 ^ k - 1) < 2 ^ Word.size α) : ∃ r, roundUp value align = .ok r := by
  rw [← mask_toNat ha] at h
  obtain ⟨bumped, hb⟩ := checkedWord_plus_of_lt h
  exact ⟨_, bind_eq_ok.mpr ⟨bumped, hb, rfl⟩⟩

theorem roundUp_error {e : Error} (ha : Word.toNat align = 2 ^ k)
    (h : roundUp value align = .error e) :
    e = .arithmetic ⟨"value", (Word.toNat value).toUInt64⟩ ⟨"mask", (2 ^ k - 1).toUInt64⟩ "+" := by
  rw [← Named.operand_natCast, ← Named.operand_natCast, ← mask_toNat ha]
  rcases bind_eq_error.mp h with h | ⟨_, -, h⟩
  · exact checkedWord_error h
  · cases h

end

end GraphicsBuffers
