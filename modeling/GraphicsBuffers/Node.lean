import GraphicsBuffers.Error

/-!
The directory of device nodes, and what each node answers when it is opened and queried.
-/

namespace GraphicsBuffers

/-- The answers of the kernel driver behind a node. Each query that can fail has the number of the
error that it fails with. -/
structure Device where
  /-- The driver's name, from the second version query; the first one tells only its length. -/
  driver : List UInt8 := []
  lengthError : Option Int32 := none
  driverError : Option Int32 := none
  crtcs : UInt32 := 0
  connectors : UInt32 := 0
  encoders : UInt32 := 0
  resourcesError : Option Int32 := none
  masterError : Option Int32 := none
deriving DecidableEq, Repr

inductive NodeKind
  | device (d : Device)
  | plainFile
  /-- Something that cannot be opened for reading and writing, by the number of the error. -/
  | barred (code : Int32)
deriving DecidableEq, Repr

/-- A file name or a path as the system has it: bytes, which need not be text. -/
abbrev FileName := List UInt8

structure Node where
  name : FileName
  kind : NodeKind
deriving DecidableEq, Repr

namespace Node

/-- The error of a query that the file behind a descriptor does not know. -/
def notDevice : Int32 := 25

/-- Why the node cannot be opened for reading and writing. -/
def openError? (n : Node) : Option IoCause :=
  match n.kind with
  | .barred code => some (.numbered code)
  | .device _ | .plainFile => none

/-- The bytes as a name: free of NUL, and UTF-8. -/
def nameOfBytes (bytes : List UInt8) : Except Error String :=
  match bytes.findIdx? (· = 0) with
  | some position => .error (.interiorNul position)
  | none =>
    match Utf8.decode bytes with
    | .ok name => .ok name
    | .error place => .error (.malformedText place)

def driverName (n : Node) : Except Error String :=
  match n.kind with
  | .device d =>
    match d.lengthError, d.driverError with
    | some code, _ => .error (.system code)
    | none, some code => .error (.system code)
    | none, none => nameOfBytes d.driver
  | _ => .error (.system notDevice)

/-- The node can drive a display: it has a CRTC, a connector and an encoder. -/
def drivesDisplay (n : Node) : Bool :=
  match n.kind with
  | .device d => d.resourcesError.isNone && d.crtcs > 0 && d.connectors > 0 && d.encoders > 0
  | _ => false

/-- Why the node does not give up mode setting. -/
def masterError? (n : Node) : Option Error :=
  match n.kind with
  | .device d => d.masterError.map .system
  | _ => some (.system notDevice)

end Node

inductive NodeClass
  /-- Access to the GPU without mode setting. -/
  | render
  /-- Full access. -/
  | card
deriving DecidableEq, Repr

namespace NodeClass

/-- How the names of the class begin. -/
def stem : NodeClass → String
  | render => "renderD"
  | card => "card"

def accepts (c : NodeClass) (name : FileName) : Bool := (Utf8.encode c.stem).isPrefixOf name

end NodeClass

/-- A directory that may be absent. -/
structure Directory where
  path : FileName
  nodes : Option (List Node)
deriving DecidableEq, Repr

namespace Directory

/-- Where the device nodes of a system are. -/
def standardPath : FileName := Utf8.encode "/dev/dri"

def pathOf (d : Directory) (n : Node) : FileName := d.path ++ Utf8.encode "/" ++ n.name

/-- The nodes in the order of the bytes of their names. -/
def sorted (nodes : List Node) : List Node := nodes.mergeSort fun a b => a.name ≤ b.name

/-- The nodes of a class in the order of their names, of which there must be one. -/
def matching (d : Directory) (c : NodeClass) : Except Error (List Node) :=
  match (d.nodes.getD []).filter fun n => c.accepts n.name with
  | [] => .error (.noMatchingNode s!"{Utf8.lossy d.path}/{c.stem}*")
  | nodes => .ok (sorted nodes)

end Directory

end GraphicsBuffers
