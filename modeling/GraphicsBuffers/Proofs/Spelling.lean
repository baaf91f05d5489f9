import GraphicsBuffers.Format
import Mathlib

/-!
How formats are spelled. A format and its four bytes determine each other, and so does the text
that shows them, whichever of its two forms it takes.
-/

namespace GraphicsBuffers.Format

variable {f g : Format} {a b c d : UInt8} {cs ds : List Char}

/-! ### Bytes -/

/-- A byte that is put above the bits of a word is added to it. -/
theorem toNat_or_shiftLeft {x shift : UInt32} {k : Nat} (hshift : shift.toNat = k) (hk : k ≤ 24)
    (hx : x.toNat < 2 ^ k) : (x ||| b.toUInt32 <<< shift).toNat = x.toNat + b.toNat * 2 ^ k := by
  have hfits : b.toNat * 2 ^ k < 2 ^ 32 :=
    calc b.toNat * 2 ^ k
      _ < 2 ^ 8 * 2 ^ k := Nat.mul_lt_mul_of_pos_right b.toNat_lt (Nat.two_pow_pos k)
      _ ≤ 2 ^ 8 * 2 ^ 24 := Nat.mul_le_mul_left _ (Nat.pow_le_pow_right (by decide) hk)
  have hsmall : k % 32 = k := Nat.mod_eq_of_lt (by omega)
  rw [UInt32.toNat_or, UInt32.toNat_shiftLeft, UInt8.toNat_toUInt32, hshift, hsmall,
    Nat.shiftLeft_eq, Nat.mod_eq_of_lt hfits, Nat.or_comm, ← Nat.shiftLeft_eq,
    ← Nat.shiftLeft_add_eq_or_of_lt hx, Nat.shiftLeft_eq, Nat.add_comm]

theorem code_ofBytes (a b c d : UInt8) : (ofBytes a b c d).code.toNat =
    a.toNat + b.toNat * 2 ^ 8 + c.toNat * 2 ^ 16 + d.toNat * 2 ^ 24 := by
  have ha := a.toNat_lt
  have hb := b.toNat_lt
  have hc := c.toNat_lt
  have h1 : a.toUInt32.toNat = a.toNat := UInt8.toNat_toUInt32 a
  have h2 : (a.toUInt32 ||| b.toUInt32 <<< 8).toNat = a.toNat + b.toNat * 2 ^ 8 := by
    rw [toNat_or_shiftLeft (k := 8) rfl (by decide) (by omega), h1]
  have h3 : (a.toUInt32 ||| b.toUInt32 <<< 8 ||| c.toUInt32 <<< 16).toNat =
      a.toNat + b.toNat * 2 ^ 8 + c.toNat * 2 ^ 16 := by
    rw [toNat_or_shiftLeft (k := 16) rfl (by decide) (by omega), h2]
  rw [ofBytes, toNat_or_shiftLeft (k := 24) rfl (by decide) (by omega), h3]

theorem bytes_map_toNat (f : Format) : f.bytes.map UInt8.toNat =
    [f.code.toNat % 2 ^ 8, f.code.toNat / 2 ^ 8 % 2 ^ 8, f.code.toNat / 2 ^ 16 % 2 ^ 8,
      f.code.toNat / 2 ^ 24 % 2 ^ 8] := by
  simp only [bytes, List.map_cons, List.map_nil, UInt32.toNat_toUInt8, UInt32.toNat_shiftRight,
    Nat.shiftRight_eq_div_pow]
  rfl

/-- Four bytes are those of just the format that they make. -/
theorem bytes_eq_iff : f.bytes = [a, b, c, d] ↔ f = ofBytes a b c d := by
  have hf := f.code.toNat_lt
  have ha := a.toNat_lt
  have hb := b.toNat_lt
  have hc := c.toNat_lt
  have hd := d.toNat_lt
  have hbytes : f.bytes = [a, b, c, d] ↔
      f.bytes.map UInt8.toNat = [a, b, c, d].map UInt8.toNat :=
    (List.map_inj_right fun _ _ h => UInt8.toNat_inj.mp h).symm
  have hcode : f = ofBytes a b c d ↔ f.code.toNat = (ofBytes a b c d).code.toNat := by
    rw [UInt32.toNat_inj]
    exact ⟨congrArg code, congrArg mk⟩
  rw [hbytes, bytes_map_toNat, hcode, code_ofBytes]
  simp only [List.map_cons, List.map_nil, List.cons.injEq, and_true]
  omega

theorem bytes_inj (h : f.bytes = g.bytes) : f = g :=
  (bytes_eq_iff.mp h).trans (bytes_eq_iff.mp rfl).symm

/-! ### Characters -/

/-- The character that a byte is the code of. -/
theorem toNat_ofNat (b : UInt8) : (Char.ofNat b.toNat).toNat = b.toNat := by
  have hb := b.toNat_lt
  rw [Char.toNat_ofNat, if_pos (Or.inl (by omega))]

theorem ofNat_inj (h : Char.ofNat b.toNat = Char.ofNat c.toNat) : b = c := by
  rw [← UInt8.toNat_inj, ← toNat_ofNat b, h, toNat_ofNat c]

theorem hexDigit_inj {m n : Nat} (hm : m < 16) (hn : n < 16) (h : hexDigit m = hexDigit n) :
    m = n := by
  have hall : ∀ m < 16, ∀ n < 16, hexDigit m = hexDigit n → m = n := by decide
  exact hall m hm n hn h

theorem hexDigit_eq {n : Nat} (h : n < 16) : hexDigit n = Nat.digitChar n := by
  have hall : ∀ n < 16, hexDigit n = Nat.digitChar n := by decide
  exact hall n h

theorem hexByte_eq (b : UInt8) : hexByte b = (Nat.toDigits 16 b.toNat).leftpad 2 '0' := by
  have hb := b.toNat_lt
  rw [hexByte, hexDigit_eq (by omega), hexDigit_eq (by omega)]
  rcases Nat.lt_or_ge b.toNat 16 with h | h
  · rw [Nat.toDigits_of_lt_base h, Nat.div_eq_of_lt h, Nat.mod_eq_of_lt h]
    rfl
  · have hhigh : 0 < b.toNat / 16 := by omega
    have hdigits : Nat.toDigits 16 (b.toNat / 16) ++ Nat.toDigits 16 (b.toNat % 16) =
        Nat.toDigits 16 (16 * (b.toNat / 16) + b.toNat % 16) :=
      Nat.toDigits_append_toDigits (by decide) hhigh (by omega)
    rw [Nat.toDigits_of_lt_base (by omega), Nat.toDigits_of_lt_base (by omega),
      Nat.div_add_mod] at hdigits
    rw [← hdigits]
    rfl

/-- Bytes are determined by their digits, two for each. -/
theorem flatMap_hexByte_inj {bs bs' : List UInt8} (h : bs.flatMap hexByte = bs'.flatMap hexByte) :
    bs = bs' := by
  induction bs generalizing bs' with
  | nil =>
    cases bs' with
    | nil => rfl
    | cons b' bs' => cases h
  | cons b bs ih =>
    cases bs' with
    | nil => cases h
    | cons b' bs' =>
      rw [List.flatMap_cons, List.flatMap_cons] at h
      simp only [hexByte, List.cons_append, List.nil_append, List.cons.injEq] at h
      obtain ⟨hhigh, hlow, hrest⟩ := h
      have hb := b.toNat_lt
      have hb' := b'.toNat_lt
      have hhigh := hexDigit_inj (by omega) (by omega) hhigh
      have hlow := hexDigit_inj (by omega) (by omega) hlow
      have hbytes : b = b' := UInt8.toNat_inj.mp (by omega)
      rw [hbytes, ih hrest]

/-! ### Text -/

theorem isGraphic_iff : isGraphic b = true ↔ 0x21 ≤ b.toNat ∧ b.toNat ≤ 0x7E := by
  simp [isGraphic, UInt8.le_iff_toNat_le]

/-- The two forms in which a format is shown: by its characters if all of them print, and else by
two digits for each byte, in the order of the bytes. -/
inductive Shown (f : Format) : List Char → Prop
  | characters (h : ∀ b ∈ f.bytes, 0x21 ≤ b.toNat ∧ b.toNat ≤ 0x7E) :
      Shown f (f.bytes.map fun b => Char.ofNat b.toNat)
  | digits (h : ∃ b ∈ f.bytes, ¬(0x21 ≤ b.toNat ∧ b.toNat ≤ 0x7E)) :
      Shown f ('0' :: 'x' :: f.bytes.flatMap fun b => (Nat.toDigits 16 b.toNat).leftpad 2 '0')

/-- Four characters are never ten, so the forms do not meet; each alone shows all bytes. -/
theorem Shown.inj (h : Shown f cs) (h' : Shown g ds) (heq : cs = ds) : f = g := by
  apply bytes_inj
  cases h with
  | characters =>
    cases h' with
    | characters => exact (List.map_inj_right fun _ _ => ofNat_inj).mp heq
    | digits =>
      simp only [← hexByte_eq] at heq
      have hlength : 4 = 10 := congrArg List.length heq
      contradiction
  | digits =>
    simp only [← hexByte_eq] at heq
    cases h' with
    | characters =>
      have hlength : 10 = 4 := congrArg List.length heq
      contradiction
    | digits =>
      simp only [← hexByte_eq, List.cons.injEq, true_and] at heq
      exact flatMap_hexByte_inj heq

theorem text_shown (f : Format) :
    ∃ cs, Shown f cs ∧ f.text = "fourcc(" ++ String.ofList cs ++ ")" := by
  have htext : ∀ cs : List Char, String.ofList ("fourcc(".toList ++ cs ++ [')']) =
      "fourcc(" ++ String.ofList cs ++ ")" := by
    intro cs
    rw [String.ofList_append, String.ofList_append, String.ofList_toList]
  unfold text
  dsimp only
  rw [htext]
  split
  · rename_i h
    exact ⟨_, .characters fun b hb => isGraphic_iff.mp (List.all_eq_true.mp h b hb), rfl⟩
  · rename_i h
    simp only [List.all_eq_true, isGraphic_iff, not_forall, exists_prop] at h
    refine ⟨_, .digits h, ?_⟩
    simp only [← hexByte_eq]

theorem text_inj (h : f.text = g.text) : f = g := by
  obtain ⟨cs, hf, hcs⟩ := text_shown f
  obtain ⟨ds, hg, hds⟩ := text_shown g
  rw [hcs, hds, ← String.toList_inj] at h
  simp only [String.toList_append, String.toList_ofList] at h
  exact hf.inj hg (List.append_cancel_left (List.append_cancel_right h))

/-- A format has four bytes and is made of just those, and different formats have different texts,
whichever of the two forms these take. -/
theorem spelling_unique :
    (∀ f : Format, ∃ a b c d, f.bytes = [a, b, c, d] ∧ ofBytes a b c d = f) ∧
    (∀ a b c d, (ofBytes a b c d).bytes = [a, b, c, d]) ∧
    (∀ f : Format, ∃ cs, Shown f cs ∧ f.text = "fourcc(" ++ String.ofList cs ++ ")") ∧
    ∀ f g : Format, f.text = g.text ↔ f = g := by
  refine ⟨?_, ?_, text_shown, ?_⟩
  · intro f
    exact ⟨_, _, _, _, rfl, (bytes_eq_iff.mp rfl).symm⟩
  · intro a b c d
    exact bytes_eq_iff.mpr rfl
  · intro f g
    exact ⟨text_inj, congrArg text⟩

/-- Characters that look like digits do not make the other form. -/
example : (ofChars '0' 'x' '2' ')').text = "fourcc(0x2))" := by decide

end GraphicsBuffers.Format
