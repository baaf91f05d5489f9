import GraphicsBuffers.Error

/-!
Pixel formats, named by four-character codes, and the planes that their pixels occupy.
-/

namespace GraphicsBuffers

/-- A four-character code, its first character in the lowest byte. -/
structure Format where
  code : UInt32
deriving DecidableEq, Repr

namespace Format

def ofBytes (a b c d : UInt8) : Format :=
  ⟨a.toUInt32 ||| b.toUInt32 <<< 8 ||| c.toUInt32 <<< 16 ||| d.toUInt32 <<< 24⟩

def bytes (f : Format) : List UInt8 :=
  [f.code.toUInt8, (f.code >>> 8).toUInt8, (f.code >>> 16).toUInt8, (f.code >>> 24).toUInt8]

def ofChars (a b c d : Char) : Format := ofBytes a.toUInt8 b.toUInt8 c.toUInt8 d.toUInt8

def r8 : Format := ofChars 'R' '8' ' ' ' '
def rgb565 : Format := ofChars 'R' 'G' '1' '6'
def bgr565 : Format := ofChars 'B' 'G' '1' '6'
def bgr888 : Format := ofChars 'B' 'G' '2' '4'
def xrgb8888 : Format := ofChars 'X' 'R' '2' '4'
def xbgr8888 : Format := ofChars 'X' 'B' '2' '4'
def argb8888 : Format := ofChars 'A' 'R' '2' '4'
def abgr8888 : Format := ofChars 'A' 'B' '2' '4'
def abgr16161616f : Format := ofChars 'A' 'B' '4' 'H'
def nv12 : Format := ofChars 'N' 'V' '1' '2'
def nv21 : Format := ofChars 'N' 'V' '2' '1'
def yvu420 : Format := ofChars 'Y' 'V' '1' '2'

/-- Like `yvu420`, with chroma rows that start on 16-byte boundaries. -/
def yvu420Android : Format := ofChars '9' '9' '9' '7'

/-- Stands for whichever format suits the requested use. -/
def flexibleImplementation : Format := ofChars '9' '9' '9' '8'

/-- Stands for any 8-bit format with luma and half-size chroma. -/
def flexibleYcbcr420 : Format := ofChars '9' '9' '9' '9'

def hexDigit (n : Nat) : Char := Char.ofNat (if n < 10 then 48 + n else 87 + n)

def hexByte (b : UInt8) : List Char := [hexDigit (b.toNat / 16), hexDigit (b.toNat % 16)]

/-- A printing character of ASCII, the space excluded. -/
def isGraphic (b : UInt8) : Bool := 0x21 ≤ b && b ≤ 0x7E

/-- The four characters where all of them print, and otherwise the bytes in hexadecimal. -/
def text (f : Format) : String :=
  let body :=
    if f.bytes.all isGraphic then f.bytes.map fun b => Char.ofNat b.toNat
    else '0' :: 'x' :: f.bytes.flatMap hexByte
  String.ofList ("fourcc(".toList ++ body ++ [')'])

end Format

/-- One plane of a format: how many pixels share a sample across a row and down a column, and the
bytes of a sample. -/
structure PlaneShape where
  horizontal : Nat
  vertical : Nat
  bytes : Nat
deriving DecidableEq, Repr

namespace Format

/-- One plane that holds whole pixels. -/
def packed (bytes : Nat) : List PlaneShape := [⟨1, 1, bytes⟩]

/-- Luma, then a plane of interleaved chroma pairs. -/
def biplanar420 : List PlaneShape := [⟨1, 1, 1⟩, ⟨2, 2, 2⟩]

/-- Luma, then a plane for each chroma component. -/
def triplanar420 : List PlaneShape := [⟨1, 1, 1⟩, ⟨2, 2, 1⟩, ⟨2, 2, 1⟩]

def planeTable : List (Format × List PlaneShape) := [
  (r8, packed 1),
  (rgb565, packed 2),
  (bgr565, packed 2),
  (bgr888, packed 3),
  (abgr8888, packed 4),
  (xbgr8888, packed 4),
  (argb8888, packed 4),
  (xrgb8888, packed 4),
  (abgr16161616f, packed 8),
  (nv12, biplanar420),
  (nv21, biplanar420),
  (yvu420, triplanar420),
  (yvu420Android, triplanar420)]

def planes? (f : Format) : Option (List PlaneShape) := planeTable.lookup f

def planes (f : Format) : Except Error (List PlaneShape) :=
  match f.planes? with
  | some shapes => .ok shapes
  | none => .error .formatWithoutPlanes

end Format

end GraphicsBuffers
