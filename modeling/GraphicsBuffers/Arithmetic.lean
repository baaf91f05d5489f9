import GraphicsBuffers.Error

/-!
Integer arithmetic that fails where the exact result lies outside the type, and the rounding built
on it.
-/

namespace GraphicsBuffers

/-- An integer type, by its least and greatest values. -/
structure IntRange where
  low : Int
  high : Int
deriving DecidableEq, Repr

/-- The unsigned integers of `size` bits. -/
def IntRange.unsigned (size : Nat) : IntRange := ⟨0, (BitVec.allOnes size).toNat⟩

inductive Sign
  | plus | minus | times | divided
deriving DecidableEq, Repr

namespace Sign

def symbol : Sign → String
  | plus => "+"
  | minus => "-"
  | times => "*"
  | divided => "/"

/-- The exact result. A quotient is truncated toward zero, and none exists for a zero divisor. -/
def result? : Sign → Int → Int → Option Int
  | plus, x, y => some (x + y)
  | minus, x, y => some (x - y)
  | times, x, y => some (x * y)
  | divided, x, y => if y = 0 then none else some (x.tdiv y)

end Sign

/-- A number under the name that a failed operation gives it. -/
structure Named where
  name : String
  value : Int
deriving DecidableEq, Repr

def Named.operand (n : Named) : Operand := ⟨n.name, (n.value % 0x10000000000000000).toNat.toUInt64⟩

theorem Named.operand_natCast (name : String) (n : Nat) :
    Named.operand ⟨name, n⟩ = ⟨name, n.toUInt64⟩ := by
  have hmod : ((n : Int) % 0x10000000000000000).toNat = n % 0x10000000000000000 := by omega
  rw [operand, hmod]
  congr 1
  apply UInt64.toNat_inj.mp
  simp only [Nat.toUInt64_eq, UInt64.toNat_ofNat']
  omega

def checked (range : IntRange) (sign : Sign) (x y : Named) : Except Error Int :=
  match sign.result? x.value y.value with
  | none => .error (.arithmetic x.operand y.operand sign.symbol)
  | some r =>
    if range.low ≤ r ∧ r ≤ range.high then .ok r
    else .error (.arithmetic x.operand y.operand sign.symbol)

/-! ### Words -/

/-- A type of unsigned integers of a fixed number of bits. -/
class Word (α : Type) where
  size : Nat
  toBits : α → BitVec size
  ofBits : BitVec size → α
  ofBits_toBits : ∀ x, ofBits (toBits x) = x
  toBits_ofBits : ∀ b, toBits (ofBits b) = b

instance : Word UInt32 := ⟨32, UInt32.toBitVec, UInt32.ofBitVec, fun _ => rfl, fun _ => rfl⟩

instance : Word UInt64 := ⟨64, UInt64.toBitVec, UInt64.ofBitVec, fun _ => rfl, fun _ => rfl⟩

section

variable {α : Type} [Word α]

def Word.toNat (x : α) : Nat := (Word.toBits x).toNat

def checkedWord (sign : Sign) (x y : Named) : Except Error α :=
  (checked (.unsigned (Word.size α)) sign x y).map fun r => Word.ofBits (.ofNat _ r.toNat)

/-- The least multiple of `align`, a power of two, that is at least `value`. -/
def roundUp (value align : α) : Except Error α := do
  let mask := Word.toBits align - 1
  let bumped : α ← checkedWord .plus ⟨"value", Word.toNat value⟩ ⟨"mask", mask.toNat⟩
  pure (Word.ofBits (Word.toBits bumped &&& ~~~mask))

end

abbrev checked32 (sign : Sign) (x y : Named) : Except Error UInt32 := checkedWord sign x y

abbrev checked64 (sign : Sign) (x y : Named) : Except Error UInt64 := checkedWord sign x y

abbrev align32 (value align : UInt32) : Except Error UInt32 := roundUp value align

abbrev align64 (value align : UInt64) : Except Error UInt64 := roundUp value align

/-- The sum, or nothing where it overflows. -/
def sum? (x y : UInt64) : Option UInt64 :=
  if x.toNat + y.toNat < 0x10000000000000000 then some (x + y) else none

/-- Fails where the number needs more than 32 bits. -/
def narrow (n : UInt64) : Except Error UInt32 :=
  if n.toNat < 0x100000000 then .ok n.toUInt32 else .error .conversion

/-- Fails where the number is too large for a signed 32-bit integer. -/
def signed (n : UInt32) : Except Error UInt32 :=
  if n.toNat < 0x80000000 then .ok n else .error .conversion

/-- The quotient rounded up. -/
def ceilDiv (a b : Nat) : Nat := (a + b - 1) / b

/-! ### Results in range -/

theorem bind_eq_ok {ε α β : Type} {x : Except ε α} {f : α → Except ε β} {b : β} :
    x >>= f = .ok b ↔ ∃ a, x = .ok a ∧ f a = .ok b := by
  cases x with
  | ok a => simp [bind, Except.bind]
  | error e => simp [bind, Except.bind]

theorem bind_eq_error {ε α β : Type} {x : Except ε α} {f : α → Except ε β} {e : ε} :
    x >>= f = .error e ↔ x = .error e ∨ ∃ a, x = .ok a ∧ f a = .error e := by
  cases x with
  | ok a => simp [bind, Except.bind]
  | error e => simp [bind, Except.bind]

theorem map_eq_error {ε α β : Type} {x : Except ε α} {f : α → β} {e : ε} :
    x.map f = .error e ↔ x = .error e := by
  cases x <;> simp [Except.map]

theorem sum?_eq_some {x y z : UInt64} : sum? x y = some z ↔ x.toNat + y.toNat = z.toNat := by
  have hz := z.toNat_lt
  unfold sum?
  split
  · rename_i hlt
    have hadd : (x + y).toNat = x.toNat + y.toNat := by
      rw [UInt64.toNat_add]
      exact Nat.mod_eq_of_lt hlt
    rw [Option.some_inj, ← UInt64.toNat_inj, hadd]
  · rename_i hle
    exact iff_of_false nofun fun h => by omega

theorem sum?_eq_none {x y : UInt64} :
    sum? x y = none ↔ 0x10000000000000000 ≤ x.toNat + y.toNat := by
  unfold sum?
  split
  · rename_i hlt
    exact iff_of_false nofun (Nat.not_le.mpr hlt)
  · rename_i hle
    exact iff_of_true rfl (Nat.le_of_not_lt hle)

theorem narrow_ok {n : UInt64} {m : UInt32} (h : narrow n = .ok m) : m.toNat = n.toNat := by
  unfold narrow at h
  split at h
  · cases h
    rw [UInt64.toNat_toUInt32]
    omega
  · cases h

theorem narrow_of_lt {n : UInt64} (h : n.toNat < 0x100000000) : narrow n = .ok n.toUInt32 := if_pos h

theorem narrow_of_le {n : UInt64} (h : 0x100000000 ≤ n.toNat) : narrow n = .error .conversion :=
  if_neg (Nat.not_lt.mpr h)

theorem signed_ok {n m : UInt32} (h : signed n = .ok m) : m = n ∧ n.toNat < 0x80000000 := by
  unfold signed at h
  split at h
  · rename_i hlt
    exact ⟨(Except.ok.inj h).symm, hlt⟩
  · cases h

theorem signed_error {n : UInt32} {e : Error} (h : signed n = .error e) :
    e = .conversion ∧ 0x80000000 ≤ n.toNat := by
  unfold signed at h
  split at h
  · cases h
  · rename_i hlt
    exact ⟨(Except.error.inj h).symm, Nat.le_of_not_lt hlt⟩

theorem checked_ok {range : IntRange} {sign : Sign} {x y : Named} {r : Int}
    (h : checked range sign x y = .ok r) :
    sign.result? x.value y.value = some r ∧ range.low ≤ r ∧ r ≤ range.high := by
  unfold checked at h
  split at h
  · cases h
  · rename_i r' hr
    split at h
    · rename_i hrange
      cases h
      exact ⟨hr, hrange⟩
    · cases h

theorem checked_of_range {range : IntRange} {sign : Sign} {x y : Named} {r : Int}
    (hr : sign.result? x.value y.value = some r) (hlow : range.low ≤ r) (hhigh : r ≤ range.high) :
    checked range sign x y = .ok r := by
  unfold checked
  rw [hr]
  exact if_pos ⟨hlow, hhigh⟩

theorem checked_of_high {range : IntRange} {sign : Sign} {x y : Named} {r : Int}
    (hr : sign.result? x.value y.value = some r) (hhigh : range.high < r) :
    checked range sign x y = .error (.arithmetic x.operand y.operand sign.symbol) := by
  unfold checked
  rw [hr]
  exact if_neg fun h => Int.not_le.mpr hhigh h.2

theorem checked_error {range : IntRange} {sign : Sign} {x y : Named} {e : Error}
    (h : checked range sign x y = .error e) : e = .arithmetic x.operand y.operand sign.symbol := by
  unfold checked at h
  split at h
  · exact (Except.error.inj h).symm
  · split at h
    · cases h
    · exact (Except.error.inj h).symm

section

variable {α : Type} [Word α] {sign : Sign} {x y : Named} {z : α} {m n : Nat} {a b : String}

theorem Word.toNat_inj {z w : α} (h : Word.toNat z = Word.toNat w) : z = w := by
  rw [← Word.ofBits_toBits z, ← Word.ofBits_toBits w, BitVec.eq_of_toNat_eq h]

theorem Word.toNat_ofBits (b : BitVec (Word.size α)) : Word.toNat (Word.ofBits b : α) = b.toNat := by
  rw [Word.toNat, Word.toBits_ofBits]

theorem checkedWord_ok (h : checkedWord sign x y = .ok z) :
    sign.result? x.value y.value = some (Word.toNat z : Int) := by
  unfold checkedWord at h
  cases hr : checked (.unsigned (Word.size α)) sign x y with
  | error e => simp [hr, Except.map] at h
  | ok r =>
    simp only [hr, Except.map, Except.ok.injEq] at h
    obtain ⟨hr, hlow, hhigh⟩ := checked_ok hr
    have hpos := Nat.two_pow_pos (Word.size α)
    have hlt : r.toNat < 2 ^ Word.size α := by
      simp only [IntRange.unsigned, BitVec.toNat_allOnes] at hlow hhigh
      omega
    have hcast : (r.toNat : Int) = r := Int.toNat_of_nonneg hlow
    rw [hr, ← h, Word.toNat_ofBits, BitVec.toNat_ofNat, Nat.mod_eq_of_lt hlt, hcast]

theorem checkedWord_error {e : Error} (h : (checkedWord sign x y : Except Error α) = .error e) :
    e = .arithmetic x.operand y.operand sign.symbol :=
  checked_error (map_eq_error.mp h)

theorem checkedWord_plus (h : checkedWord .plus ⟨a, m⟩ ⟨b, n⟩ = .ok z) :
    Word.toNat z = m + n := by
  have hz : (m : Int) + n = Word.toNat z := Option.some.inj (checkedWord_ok h)
  omega

theorem checkedWord_times (h : checkedWord .times ⟨a, m⟩ ⟨b, n⟩ = .ok z) :
    Word.toNat z = m * n := by
  have hz : (m : Int) * n = Word.toNat z := Option.some.inj (checkedWord_ok h)
  exact_mod_cast hz.symm

end

end GraphicsBuffers
