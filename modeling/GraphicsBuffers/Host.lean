import GraphicsBuffers.Call

/-!
The host process: how its surroundings will answer, which device contexts are held, and everything
that has been called and logged so far. An action on the host keeps its effects when it fails.
-/

namespace GraphicsBuffers

/-- How one allocation is answered. Without a value, the library derives one from the request. -/
structure AllocAnswer where
  status : Int32 := 0
  stride : Option UInt32 := none
  mapStride : Option UInt32 := none
  modifier : Option UInt64 := none
  size : UInt64 := 65536
  descriptor : Bool := true
deriving DecidableEq, Repr

inductive MapAddress
  /-- The next place in the address space. -/
  | placed
  | stored (address : UInt64)
  | untouched
deriving DecidableEq, Repr

/-- How one map call is answered. Without a number, the token's is that of the call. -/
structure MapAnswer where
  address : MapAddress := .placed
  token : Bool := true
  number : Option Nat := none
deriving DecidableEq, Repr

/-- The answers to come, in order. A call past the last of them succeeds. A new handle or device
comes under a number of the library's choosing, which may be that of something that is gone, and
past the last of these under the next number of its kind. The system may fail to duplicate an open
file or to inspect it, with the number of an error. -/
structure Answers where
  allocs : List AllocAnswer := []
  imports : List Bool := []
  handleNumbers : List Nat := []
  maps : List MapAnswer := []
  devices : List Bool := []
  deviceNumbers : List Nat := []
  searches : List (Option Error) := []
  loads : List Bool := []
  duplicates : List (Option Int32) := []
  inspections : List (Option Int32) := []
deriving DecidableEq, Repr

def Answers.append (a b : Answers) : Answers where
  allocs := a.allocs ++ b.allocs
  imports := a.imports ++ b.imports
  handleNumbers := a.handleNumbers ++ b.handleNumbers
  maps := a.maps ++ b.maps
  devices := a.devices ++ b.devices
  deviceNumbers := a.deviceNumbers ++ b.deviceNumbers
  searches := a.searches ++ b.searches
  loads := a.loads ++ b.loads
  duplicates := a.duplicates ++ b.duplicates
  inspections := a.inspections ++ b.inspections

instance : Append Answers := ⟨Answers.append⟩

/-- Answers to add, and the formats that are native from now on, where these change. -/
structure Script where
  supported : Option (List Format) := none
  answers : Answers := {}
deriving DecidableEq, Repr

/-- An installed shared library: its entry points, and whether each returns a table. -/
structure SharedLibrary where
  name : String
  symbols : List (String × Bool)
deriving DecidableEq, Repr

structure Host where
  directory : Directory := ⟨Directory.standardPath, none⟩
  installed : List SharedLibrary := []
  /-- The entries that the vendor library's table lacks. -/
  missing : List String := []
  supported : List Format := []
  answers : Answers := {}
  loads : Nat := 0
  devices : Nat := 0
  imports : Nat := 0
  maps : Nat := 0
  buffers : Nat := 0
  /-- The device contexts in use, each as often as it is held. -/
  held : List Context := []
  events : List Event := []
deriving DecidableEq, Repr

abbrev HostM := EStateM Error Host

namespace Host

def record (h : Host) (c : Call) : Host := { h with events := h.events ++ [.call c] }

def log (h : Host) (level : LogLevel) (text : String) : Host :=
  { h with events := h.events ++ [.log level text] }

def apply (h : Host) (s : Script) : Host :=
  { h with supported := s.supported.getD h.supported, answers := h.answers ++ s.answers }

def supports (h : Host) (f : Format) : Bool := h.supported.contains f

/-- A new memory buffer of `size` bytes. -/
def createMemory (h : Host) (size : UInt64) : Descriptor × Host :=
  (.memory (h.buffers + 1) size, { h with buffers := h.buffers + 1 })

/-- One more holder of the context. -/
def hold (h : Host) (c : Context) : Host := { h with held := c :: h.held }

/-- One holder of the context less. With the last one the device goes, and its library after it. -/
def release (h : Host) (c : Context) : Host :=
  let h := { h with held := h.held.erase c }
  if c ∈ h.held then h
  else (h.record (.destroyDevice c.library c.device)).record (.unload c.library)

end Host

namespace HostM

def log (level : LogLevel) (text : String) : HostM Unit := modify fun h => h.log level text

def record (c : Call) : HostM Unit := modify fun h => h.record c

/-- Passes on a failure of the system, if there is one. -/
def meet : Option Int32 → HostM Unit
  | some code => throw (.io (.numbered code))
  | none => pure ()

/-- A duplicate of an open file, which refers to the same thing. This takes up one answer. -/
def duplicate {α : Type} (file : α) : HostM α := do
  let failure := (← get).answers.duplicates.headD none
  modify fun h => { h with answers.duplicates := h.answers.duplicates.tail }
  meet failure
  pure file

/-- The inode of what a descriptor is of. This takes up one answer. -/
def inspect (d : Descriptor) : HostM UInt64 := do
  let failure := (← get).answers.inspections.headD none
  modify fun h => { h with answers.inspections := h.answers.inspections.tail }
  meet failure
  pure d.inode

end HostM

/-- Runs an action and yields its failure as a value. -/
def attempt {σ α : Type} (act : EStateM Error σ α) : EStateM Error σ (Except Error α)
  | s =>
    match act s with
    | .ok a s => .ok (.ok a) s
    | .error e s => .ok (.error e) s

/-- Runs an action and logs a message before it fails. -/
def HostM.explain {α : Type} (act : HostM α) (text : Error → String) : HostM α
  | h =>
    match act h with
    | .ok a h => .ok a h
    | .error e h => .error e (h.log .error (text e))

end GraphicsBuffers
