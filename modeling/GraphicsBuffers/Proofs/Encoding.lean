import GraphicsBuffers.Text.Utf8
import Mathlib

/-!
What text is as bytes. Reading bytes as text succeeds exactly for those that a text is written with,
and shows those as that text where it cannot fail.
-/

namespace GraphicsBuffers.Utf8

variable {a b c d : UInt8} {bytes : List UInt8} {l : Lead} {v position : Nat}

/-! ### One character -/

theorem isContinuation_iff : isContinuation b = true ↔ 0x80 ≤ b.toNat ∧ b.toNat ≤ 0xBF := by
  simp [isContinuation, UInt8.le_iff_toNat_le]

theorem lead?_eq_some : lead? a = some l ↔
    a.toNat < 0x80 ∧ l = ⟨0, 0, 0⟩ ∨
    0xC2 ≤ a.toNat ∧ a.toNat < 0xE0 ∧ l = ⟨1, 0x80, 0xBF⟩ ∨
    0xE0 ≤ a.toNat ∧ a.toNat < 0xF0 ∧
      l = ⟨2, if a.toNat = 0xE0 then 0xA0 else 0x80, if a.toNat = 0xED then 0x9F else 0xBF⟩ ∨
    0xF0 ≤ a.toNat ∧ a.toNat < 0xF5 ∧
      l = ⟨3, if a.toNat = 0xF0 then 0x90 else 0x80, if a.toNat = 0xF4 then 0x8F else 0xBF⟩ := by
  unfold lead?
  simp only [UInt8.lt_iff_toNat_lt, ← UInt8.toNat_inj, UInt8.reduceToNat]
  grind

/-- With `a` and then `b` a character of `n` further bytes may begin. -/
def Begins (n : Nat) (a b : UInt8) : Prop :=
  ∃ low high, lead? a = some ⟨n, low, high⟩ ∧ low ≤ b ∧ b ≤ high

theorem begins_one : Begins 1 a b ↔
    (0xC2 ≤ a.toNat ∧ a.toNat < 0xE0) ∧ 0x80 ≤ b.toNat ∧ b.toNat ≤ 0xBF := by
  simp [Begins, lead?_eq_some, UInt8.le_iff_toNat_le]

theorem begins_two : Begins 2 a b ↔
    (0xE0 ≤ a.toNat ∧ a.toNat < 0xF0) ∧ (0x80 ≤ b.toNat ∧ b.toNat ≤ 0xBF) ∧
      (a.toNat = 0xE0 → 0xA0 ≤ b.toNat) ∧ (a.toNat = 0xED → b.toNat ≤ 0x9F) := by
  simp only [Begins, lead?_eq_some, Lead.mk.injEq, OfNat.ofNat_ne_zero, OfNat.ofNat_ne_one,
    Nat.reduceEqDiff, false_and, and_false, true_and, or_false, false_or, ↓existsAndEq, and_true,
    UInt8.le_iff_toNat_le, apply_ite UInt8.toNat, UInt8.reduceToNat]
  grind

theorem begins_three : Begins 3 a b ↔
    (0xF0 ≤ a.toNat ∧ a.toNat < 0xF5) ∧ (0x80 ≤ b.toNat ∧ b.toNat ≤ 0xBF) ∧
      (a.toNat = 0xF0 → 0x90 ≤ b.toNat) ∧ (a.toNat = 0xF4 → b.toNat ≤ 0x8F) := by
  simp only [Begins, lead?_eq_some, Lead.mk.injEq, OfNat.ofNat_ne_zero, OfNat.ofNat_ne_one,
    Nat.succ_ne_self, false_and, and_false, true_and, false_or, ↓existsAndEq, and_true,
    UInt8.le_iff_toNat_le, apply_ite UInt8.toNat, UInt8.reduceToNat]
  grind

/-- The bytes spell the character with this code. -/
inductive Spells : List UInt8 → Nat → Prop
  | one {a : UInt8} (ha : a.toNat < 0x80) : Spells [a] a.toNat
  | two {a b : UInt8} (h : Begins 1 a b) : Spells [a, b] (a.toNat % 32 * 64 + payload b)
  | three {a b c : UInt8} (h : Begins 2 a b) (hc : isContinuation c = true) :
      Spells [a, b, c] ((a.toNat % 16 * 64 + payload b) * 64 + payload c)
  | four {a b c d : UInt8} (h : Begins 3 a b) (hc : isContinuation c = true)
      (hd : isContinuation d = true) :
      Spells [a, b, c, d] (((a.toNat % 8 * 64 + payload b) * 64 + payload c) * 64 + payload d)

theorem toNat_ofNat_of_valid (h : v.isValidChar) : (Char.ofNat v).val.toNat = v := by
  unfold Char.ofNat
  rw [dif_pos h]
  rfl

/-- A character is written with the bytes that spell it. -/
theorem Spells.encode (h : Spells bytes v) : String.utf8EncodeChar (Char.ofNat v) = bytes := by
  unfold String.utf8EncodeChar
  cases h with
  | one ha =>
    rw [toNat_ofNat_of_valid (Or.inl (by omega)), if_pos (by omega), UInt8.ofNat_toNat]
  | two h =>
    obtain ⟨ha, hb⟩ := begins_one.mp h
    unfold payload
    rw [toNat_ofNat_of_valid (Or.inl (by omega)), if_neg (by omega), if_pos (by omega)]
    simp only [List.cons.injEq, ← UInt8.toNat_inj, UInt8.toNat_ofNat', and_true]
    omega
  | three h hc =>
    obtain ⟨ha, hb, hlow, hhigh⟩ := begins_two.mp h
    have hc := isContinuation_iff.mp hc
    unfold payload
    rw [toNat_ofNat_of_valid (by unfold Nat.isValidChar; omega), if_neg (by omega),
      if_neg (by omega), if_pos (by omega)]
    simp only [List.cons.injEq, ← UInt8.toNat_inj, UInt8.toNat_ofNat', and_true]
    omega
  | four h hc hd =>
    obtain ⟨ha, hb, hlow, hhigh⟩ := begins_three.mp h
    have hc := isContinuation_iff.mp hc
    have hd := isContinuation_iff.mp hd
    unfold payload
    rw [toNat_ofNat_of_valid (by unfold Nat.isValidChar; omega), if_neg (by omega),
      if_neg (by omega), if_neg (by omega)]
    simp only [List.cons.injEq, ← UInt8.toNat_inj, UInt8.toNat_ofNat', and_true]
    omega

/-- Every character is spelled by the bytes that it is written with. -/
theorem spells_encodeChar (ch : Char) : Spells (String.utf8EncodeChar ch) ch.toNat := by
  have hvalid : ch.val.toNat.isValidChar := ch.valid
  unfold Nat.isValidChar at hvalid
  change Spells _ ch.val.toNat
  simp only [String.utf8EncodeChar]
  generalize ch.val.toNat = v at *
  split
  · convert Spells.one (a := .ofNat v) ?_ using 1
    all_goals
      rw [UInt8.toNat_ofNat']
      omega
  split
  · convert Spells.two (a := .ofNat (v / 64 % 32 + 0xC0)) (b := .ofNat (v % 64 + 0x80))
      (begins_one.mpr ?_) using 1
    all_goals
      simp only [payload, UInt8.toNat_ofNat']
      omega
  split
  · convert Spells.three (a := .ofNat (v / 4096 % 16 + 0xE0)) (b := .ofNat (v / 64 % 64 + 0x80))
      (c := .ofNat (v % 64 + 0x80)) (begins_two.mpr ?_) (isContinuation_iff.mpr ?_) using 1
    all_goals
      simp only [payload, UInt8.toNat_ofNat']
      omega
  · convert Spells.four (a := .ofNat (v / 262144 % 8 + 0xF0)) (b := .ofNat (v / 4096 % 64 + 0x80))
      (c := .ofNat (v / 64 % 64 + 0x80)) (d := .ofNat (v % 64 + 0x80)) (begins_three.mpr ?_)
      (isContinuation_iff.mpr ?_) (isContinuation_iff.mpr ?_) using 1
    all_goals
      simp only [payload, UInt8.toNat_ofNat']
      omega

/-- What spells a character is read as it. -/
theorem Spells.decodeFrom (h : Spells bytes v) (rest : List UInt8) (position : Nat) :
    decodeFrom position (bytes ++ rest) =
      (decodeFrom (position + bytes.length) rest).map (Char.ofNat v :: ·) := by
  cases h with
  | one ha =>
    have hlead := lead?_eq_some.mpr (Or.inl ⟨ha, rfl⟩)
    rw [List.singleton_append, Utf8.decodeFrom, hlead]
    rfl
  | two h =>
    obtain ⟨low, high, hlead, hb⟩ := h
    rw [List.cons_append, List.singleton_append, Utf8.decodeFrom, hlead]
    exact if_pos hb
  | three h hc =>
    obtain ⟨low, high, hlead, hb⟩ := h
    rw [List.cons_append, List.cons_append, List.singleton_append, Utf8.decodeFrom, hlead]
    exact (if_neg (not_not.mpr hb)).trans (if_neg (not_not.mpr hc))
  | four h hc hd =>
    obtain ⟨low, high, hlead, hb⟩ := h
    rw [List.cons_append, List.cons_append, List.cons_append, List.singleton_append,
      Utf8.decodeFrom, hlead]
    exact (if_neg (not_not.mpr hb)).trans
      ((if_neg (not_not.mpr hc)).trans (if_neg (not_not.mpr hd)))

/-! ### Text -/

theorem map_eq_ok {α β ε : Type} {f : α → β} {x : Except ε α} {y : β} :
    x.map f = .ok y ↔ ∃ a, x = .ok a ∧ f a = y := by
  cases x <;> simp [Except.map]

theorem decodeFrom_written {cs : List Char} (h : decodeFrom position bytes = .ok cs) :
    cs.flatMap String.utf8EncodeChar = bytes := by
  -- A character that is read is spelled by the bytes that were taken up; all other cases fail.
  have hread : ∀ {read rest : List UInt8} {v next : Nat} {cs : List Char}, Spells read v →
      (∀ cs, decodeFrom next rest = .ok cs → cs.flatMap String.utf8EncodeChar = rest) →
      (decodeFrom next rest).map (Char.ofNat v :: ·) = .ok cs →
      cs.flatMap String.utf8EncodeChar = read ++ rest := by
    intro read rest v next cs hs ih h
    obtain ⟨cs', hrest, rfl⟩ := map_eq_ok.mp h
    rw [List.flatMap_cons, hs.encode, ih cs' hrest]
  fun_induction decodeFrom position bytes generalizing cs with
  | case1 =>
    cases h
    rfl
  | case3 position a rest low high hlead ih =>
    have ha : a.toNat < 0x80 := by
      simp only [lead?_eq_some, Lead.mk.injEq] at hlead
      omega
    exact hread (.one ha) @ih h
  | case5 position a low high hlead b rest hb ih =>
    exact hread (.two ⟨low, high, hlead, hb⟩) @ih h
  | case12 position a low high hlead b c rest hb hc ih =>
    exact hread (.three ⟨low, high, hlead, not_not.mp hb⟩ (not_not.mp hc)) @ih h
  | case22 position a following low high h0 h1 h2 hlead b c d rest hb hc hd ih =>
    obtain rfl : following = 3 := by
      have h0 : following ≠ 0 := h0
      have h1 : following ≠ 1 := h1
      have h2 : following ≠ 2 := h2
      simp only [lead?_eq_some, Lead.mk.injEq] at hlead
      omega
    exact hread (.four ⟨low, high, hlead, not_not.mp hb⟩ (not_not.mp hc) (not_not.mp hd)) @ih h
  | _ => contradiction

theorem decodeFrom_flatMap (cs : List Char) (position : Nat) :
    decodeFrom position (cs.flatMap String.utf8EncodeChar) = .ok cs := by
  induction cs generalizing position with
  | nil => rfl
  | cons ch cs ih =>
    rw [List.flatMap_cons, (spells_encodeChar ch).decodeFrom, ih, Char.ofNat_toNat]
    rfl

/-- Just the bytes that a text is written with are read as it. -/
theorem decode_eq_ok {s : String} : decode bytes = .ok s ↔ encode s = bytes := by
  unfold decode encode
  rw [map_eq_ok]
  constructor
  · rintro ⟨cs, hcs, rfl⟩
    rw [String.toList_ofList]
    exact decodeFrom_written hcs
  · rintro rfl
    exact ⟨s.toList, decodeFrom_flatMap _ 0, String.ofList_toList⟩

theorem lossyFrom_of_decoded {cs : List Char} (h : decodeFrom 0 bytes = .ok cs) :
    lossyFrom bytes = cs := by
  unfold lossyFrom
  cases bytes with
  | nil => cases h; rfl
  | cons a rest => simp only [h]

/-- Bytes that are a text are shown as it. -/
theorem lossy_encode (s : String) : lossy (encode s) = s := by
  rw [lossy, encode, lossyFrom_of_decoded (decodeFrom_flatMap s.toList 0), String.ofList_toList]

end GraphicsBuffers.Utf8
