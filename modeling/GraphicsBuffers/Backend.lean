import GraphicsBuffers.Buffer
import GraphicsBuffers.Capability

/-!
Drivers and the backends behind them. A backend is a table of operations; a driver adds the
capability table and checks what every backend may rely on.
-/

namespace GraphicsBuffers

/-- What is attached to a driver: its device context, or a value that the backend does not know. -/
inductive DriverState
  | context (c : Context)
  | foreign (value : UInt64)
deriving DecidableEq, Repr

structure Driver where
  combinations : List Combination := []
  state : Option DriverState := none
deriving DecidableEq, Repr

def Driver.context? (d : Driver) : Option Context :=
  match d.state with
  | some (.context c) => some c
  | _ => none

/-- Lets go of what was attached to a driver. -/
def Host.detach (h : Host) : Option DriverState → Host
  | some (.context c) => h.release c
  | _ => h

/-- What one operation works on. -/
structure Focus where
  host : Host
  driver : Driver := {}
  buffer : Buffer := {}
deriving DecidableEq, Repr

abbrev FocusM := EStateM Error Focus

namespace FocusM

def onHost {α : Type} (act : HostM α) : FocusM α
  | s =>
    match act s.host with
    | .ok a h => .ok a { s with host := h }
    | .error e h => .error e { s with host := h }

def onMetadata {α : Type} (act : EStateM Error Metadata α) : FocusM α
  | s =>
    match act s.buffer.metadata with
    | .ok a m => .ok a { s with buffer.metadata := m }
    | .error e m => .error e { s with buffer.metadata := m }

def log (level : LogLevel) (text : String) : FocusM Unit := onHost (HostM.log level text)

end FocusM

structure Backend where
  name : String
  /-- Adds the supported combinations to a driver's table. -/
  register : List Combination → Except Error (List Combination)
  /-- Lets go of what is attached to a driver. -/
  close : Driver → Host → Driver × Host
  create : UInt32 → UInt32 → Format → UseFlags → FocusM Unit
  importData : ImportData → FocusM Unit
  destroy : Buffer → Host → Buffer × Host
  /-- A new descriptor of a plane. -/
  planeDescriptor : Buffer → Nat → HostM Descriptor
  map : MapFlags → FocusM Mapping
  unmap : Mapping → FocusM Mapping
  mapStride : Buffer → UInt32
  /-- The concrete format and use that a request stands for. -/
  resolve : Format → UseFlags → Format × UseFlags := fun format flags => (format, flags)

namespace Backend

def openDriver (b : Backend) : HostM Driver := do
  let table ← ofExcept (b.register [])
  HostM.log .info s!"initialized {b.name} backend with {table.length} combinations"
  pure { combinations := table }

/-- Allocates a new buffer, which takes the place of the one in focus. -/
def createBuffer (b : Backend) (width height : UInt32) (format : Format) (flags : UseFlags) :
    FocusM Unit := do
  let m ← ofExcept (Metadata.unplaced width height format flags)
  modify fun s => { s with buffer := { metadata := m } }
  b.create width height format flags

/-- Wraps memory from elsewhere in a new buffer, which takes the place of the one in focus. The
metadata is as the data was found to describe it. -/
def wrapBuffer (b : Backend) (data : ImportData) (described : Except Error Metadata) :
    FocusM Unit := do
  let m ← ofExcept described
  modify fun s => { s with buffer := { metadata := m } }
  b.importData data

/-- Checks memory from elsewhere and wraps it, unless the check stops the process. -/
def importBuffer (b : Backend) (data : ImportData) : Option (FocusM Unit) :=
  data.metadata.map (b.wrapBuffer data)

def planeOutOfRange : Error := .invalidArgument "plane out of range"

def bufferPlane (b : Backend) (buffer : Buffer) (plane : Nat) : HostM Descriptor :=
  if buffer.metadata.numPlanes ≤ plane then throw planeOutOfRange
  else b.planeDescriptor buffer plane

/-- The digits of an address. -/
def hex (n : Nat) : String := String.ofList (Nat.toDigits 16 n)

def mapBuffer (b : Backend) (flags : MapFlags) : FocusM Mapping := do
  let m ← b.map flags
  FocusM.log .debug s!"mapped {m.length} bytes at 0x{hex m.address.toNat}"
  pure m

def unmapBuffer (b : Backend) (m : Mapping) : FocusM Mapping := do
  let m ← b.unmap m
  pure { m with address := 0 }

end Backend

end GraphicsBuffers
