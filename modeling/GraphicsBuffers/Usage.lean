/-!
What a buffer is to be used for, and how a mapping of it is accessed: sets of flags.
-/

namespace GraphicsBuffers

structure UseFlags where
  bits : UInt64
deriving DecidableEq, Repr

namespace UseFlags

def empty : UseFlags := ⟨0⟩
def scanout : UseFlags := ⟨0x1⟩
def cursor : UseFlags := ⟨0x2⟩
def rendering : UseFlags := ⟨0x4⟩
def linear : UseFlags := ⟨0x10⟩
def texture : UseFlags := ⟨0x20⟩
def cameraWrite : UseFlags := ⟨0x40⟩
def cameraRead : UseFlags := ⟨0x80⟩
def protectedContent : UseFlags := ⟨0x100⟩
def softwareReadOften : UseFlags := ⟨0x200⟩
def softwareReadRarely : UseFlags := ⟨0x400⟩
def softwareWriteOften : UseFlags := ⟨0x800⟩
def softwareWriteRarely : UseFlags := ⟨0x1000⟩
def videoDecoder : UseFlags := ⟨0x2000⟩
def videoEncoder : UseFlags := ⟨0x4000⟩
def frontRendering : UseFlags := ⟨0x10000⟩
def renderscript : UseFlags := ⟨0x20000⟩

def union (a b : UseFlags) : UseFlags := ⟨a.bits ||| b.bits⟩

instance : Union UseFlags := ⟨union⟩

def camera : UseFlags := cameraRead ∪ cameraWrite

/-- Any use that touches the pixels from the CPU. -/
def software : UseFlags :=
  softwareReadOften ∪ softwareWriteOften ∪ softwareReadRarely ∪ softwareWriteRarely ∪
    frontRendering

def textureUse : UseFlags := linear ∪ protectedContent ∪ renderscript ∪ software ∪ texture

def renderUse : UseFlags := textureUse ∪ rendering

/-- Every flag of `b` is in `a`. -/
def contains (a b : UseFlags) : Bool := a.bits &&& b.bits = b.bits

def intersects (a b : UseFlags) : Bool := a.bits &&& b.bits ≠ 0

end UseFlags

/-- How a mapping is accessed, which is passed on as it is. -/
structure MapFlags where
  bits : UInt32
deriving DecidableEq, Repr

end GraphicsBuffers
