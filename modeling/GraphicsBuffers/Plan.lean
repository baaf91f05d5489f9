import GraphicsBuffers.Metadata

/-!
How the allocation of a buffer is asked for. A format that has no native equivalent travels as a
row of bytes, and a row of bytes is asked for as a two-dimensional texture.
-/

namespace GraphicsBuffers

structure AllocRequest where
  width : UInt32
  height : UInt32
  format : Format
  linear : Bool
  mapStride : Bool
  scanout : Bool
deriving DecidableEq, Repr

/-- A request, and what is to be remembered of how it came about. -/
structure Plan where
  request : AllocRequest
  scanoutRequired : Bool
  sizeAlign : UInt32
  /-- The layout of a format that travels as bytes. -/
  blob : Option Metadata
deriving DecidableEq, Repr

namespace Plan

def cameraWidthAlign : UInt32 := 32

def cameraSizeAlign : UInt32 := 4096

/-- The width of the texture that a row of bytes is asked for as. -/
def rowWidth : UInt32 := 4096

/-- The request in the buffer's own format. A camera wants aligned rows that can be scanned out. -/
def native (m : Metadata) (flags : UseFlags) : Except Error Plan := do
  let software := flags.intersects .software
  let camera := flags.intersects .camera
  let width ← if camera then align32 m.width cameraWidthAlign else pure m.width
  pure {
    request := {
      width
      height := m.height
      format := m.format
      linear := software
      mapStride := software
      scanout := camera || flags.contains .scanout }
    scanoutRequired := camera
    sizeAlign := if camera then cameraSizeAlign else 1
    blob := none }

/-- The same bytes as one linear row of `r8`. -/
def asBytes (plan : Plan) (m : Metadata) : Except Error Plan := do
  let stride ← Metadata.strideFromWidth m.format plan.request.width
  let layout ← m.laidOut m.format stride plan.request.height
  let total ← align64 layout.totalSize plan.sizeAlign.toUInt64
  let width ← narrow total
  pure { plan with
    request := { plan.request with width, height := 1, format := .r8, linear := true }
    blob := some { layout with totalSize := total } }

def isRow (plan : Plan) : Bool := plan.request.format = .r8 && plan.request.height = 1

/-- A row of bytes as a texture with rows of `rowWidth`. -/
def fold (plan : Plan) : Plan :=
  { plan with
    request := { plan.request with
      width := rowWidth
      height := (ceilDiv plan.request.width.toNat rowWidth.toNat).toUInt32
      mapStride := false } }

def unsupportedNote (m : Metadata) : String :=
  s!"Unable to allocate {m.format.text} format, allocate as 1D buffer"

def foldNote (plan : Plan) : String :=
  s!"Allocate 1D buffer as {plan.request.width}x{plan.request.height} R8 2D texture"

/-- The plan for a buffer, and the notes taken on the way to it. -/
def draw (m : Metadata) (flags : UseFlags) (supported : Bool) :
    Except Error (Plan × List String) := do
  let plan ← native m flags
  let plan ← if supported then pure plan else asBytes plan m
  let notes := if supported then [] else [unsupportedNote m]
  if plan.isRow then pure (plan.fold, notes ++ [foldNote plan.fold])
  else pure (plan, notes)

end Plan

def planAllocation (m : Metadata) (flags : UseFlags) (supported : Bool) : Except Error Plan :=
  (Plan.draw m flags supported).map Prod.fst

end GraphicsBuffers
