import GraphicsBuffers.Capability

/-!
Which combinations are registered for a driver, and which concrete format a flexible one stands for.
-/

namespace GraphicsBuffers.Policy

def renderable : List Format :=
  [.argb8888, .xrgb8888, .abgr8888, .xbgr8888, .rgb565]

def textureOnly : List Format :=
  [.nv12, .nv21, .yvu420, .yvu420Android]

/-- The table with every combination that can be allocated, all of them linear, behind what it
already holds. -/
def register (table : List Combination) : List Combination :=
  let table := Combination.addAll table renderable .linear (.renderUse ∪ .scanout)
  let table := Combination.addAll table textureOnly .linear (.textureUse ∪ .scanout)
  let table := Combination.add table .r8 .linear (.software ∪ .linear)
  let table := Combination.add table .bgr888 .linear .software
  let table := Combination.widen table .nv12 .linear
    (.videoEncoder ∪ .videoDecoder ∪ .cameraRead ∪ .cameraWrite)
  let table := Combination.widen table .nv21 .linear .videoEncoder
  let table := Combination.widen table .r8 .linear
    (.camera ∪ .videoDecoder ∪ .videoEncoder)
  let table := Combination.widen table .yvu420Android .linear .camera
  Combination.widenLinear table

/-- The concrete format for a use; the use itself is passed through. -/
def resolve (format : Format) (flags : UseFlags) : Format × UseFlags :=
  if format = .flexibleImplementation then
    (if flags.intersects .camera then .nv12 else .xbgr8888, flags)
  else if format = .flexibleYcbcr420 then (.nv12, flags)
  else if format = .bgr565 then (.rgb565, flags)
  else (format, flags)

end GraphicsBuffers.Policy
