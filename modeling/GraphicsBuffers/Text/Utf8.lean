/-!
UTF-8 text. `decode` reads bytes as characters or says where they stop being text, `lossy` reads
any bytes, and `encode` writes a text.
-/

namespace GraphicsBuffers.Utf8

/-- Where bytes stop being text: `validUpTo` bytes are sound, and the `length` bytes that follow
belong to no character. Without a length, the bytes end inside a character. -/
structure Malformed where
  validUpTo : Nat
  length : Option Nat
deriving DecidableEq, Repr

def Malformed.message (e : Malformed) : String :=
  match e.length with
  | some n => s!"invalid utf-8 sequence of {n} bytes from index {e.validUpTo}"
  | none => s!"incomplete utf-8 byte sequence from index {e.validUpTo}"

/-- What a character's first byte promises: how many bytes follow it, and the least and greatest
value of the first of these. -/
structure Lead where
  following : Nat
  low : UInt8
  high : UInt8
deriving DecidableEq, Repr

def lead? (b : UInt8) : Option Lead :=
  if b < 0x80 then some ⟨0, 0, 0⟩
  else if b < 0xC2 then none
  else if b < 0xE0 then some ⟨1, 0x80, 0xBF⟩
  else if b = 0xE0 then some ⟨2, 0xA0, 0xBF⟩
  else if b = 0xED then some ⟨2, 0x80, 0x9F⟩
  else if b < 0xF0 then some ⟨2, 0x80, 0xBF⟩
  else if b = 0xF0 then some ⟨3, 0x90, 0xBF⟩
  else if b < 0xF4 then some ⟨3, 0x80, 0xBF⟩
  else if b = 0xF4 then some ⟨3, 0x80, 0x8F⟩
  else none

/-- The payload bits of a byte that continues a character. -/
def payload (b : UInt8) : Nat := b.toNat % 64

def isContinuation (b : UInt8) : Bool := 0x80 ≤ b && b ≤ 0xBF

/-- The characters of `bytes`, which start `position` bytes into the text. -/
def decodeFrom (position : Nat) (bytes : List UInt8) : Except Malformed (List Char) :=
  let bad (n : Nat) : Except Malformed (List Char) := .error ⟨position, some n⟩
  let cut : Except Malformed (List Char) := .error ⟨position, none⟩
  match bytes with
  | [] => .ok []
  | a :: rest =>
    match lead? a with
    | none => bad 1
    | some ⟨0, _, _⟩ => (decodeFrom (position + 1) rest).map (Char.ofNat a.toNat :: ·)
    | some ⟨1, low, high⟩ =>
      match rest with
      | [] => cut
      | b :: rest =>
        if low ≤ b ∧ b ≤ high then
          (decodeFrom (position + 2) rest).map
            (Char.ofNat (a.toNat % 32 * 64 + payload b) :: ·)
        else bad 1
    | some ⟨2, low, high⟩ =>
      match rest with
      | [] => cut
      | [b] => if low ≤ b ∧ b ≤ high then cut else bad 1
      | b :: c :: rest =>
        if ¬ (low ≤ b ∧ b ≤ high) then bad 1
        else if ¬ isContinuation c then bad 2
        else (decodeFrom (position + 3) rest).map
          (Char.ofNat ((a.toNat % 16 * 64 + payload b) * 64 + payload c) :: ·)
    | some ⟨_, low, high⟩ =>
      match rest with
      | [] => cut
      | [b] => if low ≤ b ∧ b ≤ high then cut else bad 1
      | [b, c] =>
        if ¬ (low ≤ b ∧ b ≤ high) then bad 1
        else if ¬ isContinuation c then bad 2
        else cut
      | b :: c :: d :: rest =>
        if ¬ (low ≤ b ∧ b ≤ high) then bad 1
        else if ¬ isContinuation c then bad 2
        else if ¬ isContinuation d then bad 3
        else (decodeFrom (position + 4) rest).map
          (Char.ofNat (((a.toNat % 8 * 64 + payload b) * 64 + payload c) * 64 + payload d) :: ·)

def decode (bytes : List UInt8) : Except Malformed String :=
  (decodeFrom 0 bytes).map String.ofList

/-- The characters of `bytes`, in which a replacement character stands for each stretch of them
that belongs to none. -/
def lossyFrom : List UInt8 → List Char
  | [] => []
  | a :: rest =>
    match decodeFrom 0 (a :: rest) with
    | .ok cs => cs
    | .error place =>
      let sound := (decodeFrom 0 ((a :: rest).take place.validUpTo)).toOption.getD []
      match place.length with
      | none => sound ++ ['\uFFFD']
      | some n => sound ++ '\uFFFD' :: lossyFrom (rest.drop (place.validUpTo + n - 1))
termination_by bytes => bytes.length
decreasing_by
  simp only [List.length_drop, List.length_cons]
  omega

/-- Any bytes as a text to be shown. -/
def lossy (bytes : List UInt8) : String := String.ofList (lossyFrom bytes)

/-- The bytes that a text is written with. -/
def encode (s : String) : List UInt8 := s.toList.flatMap String.utf8EncodeChar

end GraphicsBuffers.Utf8
