import GraphicsBuffers.Host

/-!
The search for device nodes: the nodes of a class are probed in the order of their names, and a
device context is built on a render node or on the card that drives the display.
-/

namespace GraphicsBuffers

/-- A node that could be opened and named its driver. -/
structure Candidate where
  node : Node
  driver : String
  drivesDisplay : Bool
deriving DecidableEq, Repr

namespace Discovery

/-- Opens a node and asks for its driver. One that fails is logged and passed over. -/
def probe (n : Node) : HostM (Option Candidate) := do
  let path := Utf8.lossy ((← get).directory.pathOf n)
  HostM.record (.openNode n.name)
  match n.openError? with
  | some cause =>
    HostM.log .error s!"Unable to open {path} with error {cause.message}"
    pure none
  | none =>
    HostM.record (.queryVersion n.name)
    match n.driverName with
    | .error e =>
      HostM.log .error s!"Unable to query DRM version of {path}: {e.message}"
      pure none
    | .ok driver =>
      HostM.record (.queryResources n.name)
      HostM.log .debug s!"DRM node {path}: driver {driver}, kms {n.drivesDisplay}"
      pure (some ⟨n, driver, n.drivesDisplay⟩)

/-- The candidates among `nodes`, behind those in `seen`, up to the first at which `stop` holds of
all that have been seen. -/
def visit (stop : List Candidate → Bool) : List Candidate → List Node → HostM (List Candidate)
  | seen, [] => pure seen
  | seen, n :: rest => do
    match ← probe n with
    | none => visit stop seen rest
    | some c =>
      let seen := seen ++ [c]
      if stop seen then pure seen else visit stop seen rest

/-- The candidates of a class. It is an error if no name belongs to the class, but not if none of
its nodes can be used. -/
def findDevices (c : NodeClass) (stop : List Candidate → Bool) : HostM (List Candidate) := do
  let nodes ← ofExcept ((← get).directory.matching c)
  visit stop [] nodes

/-- The first usable render node, and whether its driver is one of `displayless`. Without a usable
node the driver's name counts as empty. -/
def findGpu (displayless : List String) : HostM (Bool × Option Node) := do
  let seen ← findDevices .render fun _ => true
  let name := (seen.head?.map Candidate.driver).getD ""
  HostM.log .info s!"Found GPU {name}"
  pure (displayless.contains name, seen.head?.map Candidate.node)

def lastDrivesDisplay (seen : List Candidate) : Bool :=
  seen.getLast?.any Candidate.drivesDisplay

/-- The first card that drives a display. -/
def findDisplayCard : HostM (Option Node) := do
  let seen ← findDevices .card lastDrivesDisplay
  match seen.getLast? with
  | none => pure none
  | some c =>
    if c.drivesDisplay then
      HostM.log .info s!"Found KMS dev {c.driver}"
      pure (some c.node)
    else pure none

/-- The first card that drives a display, with mode setting left to others. -/
def openDisplayCard : HostM (Option Node) := do
  match ← attempt findDisplayCard with
  | .error e =>
    HostM.log .error s!"Unable to enumerate card nodes: {e.message}"
    pure none
  | .ok none => pure none
  | .ok (some n) =>
    HostM.record (.dropMaster n.name)
    match n.masterError? with
    | some e =>
      let path := Utf8.lossy ((← get).directory.pathOf n)
      HostM.log .debug s!"drop master on {path}: {e.message}"
    | none => pure ()
    pure (some n)

/-- The nodes that a device context is built on. -/
structure Nodes where
  /-- The node that buffers are allocated through. -/
  device : FileName
  /-- The first usable render node. -/
  gpu : Option FileName
deriving DecidableEq, Repr

/-- Buffers are allocated through the display's card where the GPU has no display hardware, unless
they are only to be mapped, and through a duplicate of the GPU's own node in every other case. -/
def selectDevice (displayless mapOnly : Bool) (gpu : Option Node) : HostM Node := do
  if displayless && !mapOnly then
    HostM.log .info "GPU require KMSRO entry, searching for separate KMS driver..."
    match ← openDisplayCard with
    | some card => pure card
    | none =>
      HostM.log .error "Unable to find/open /dev/card node with KMS capabilities."
      throw .noDisplayCard
  else
    match gpu with
    | some n => HostM.duplicate n
    | none =>
      HostM.log .error "Unable to find or open DRM node"
      throw .noUsableNode

def searchDirectory (displayless : List String) (mapOnly : Bool) : HostM Nodes := do
  let (separate, gpu) ←
    match ← attempt (findGpu displayless) with
    | .ok found => pure found
    | .error e =>
      HostM.log .error s!"Unable to find render node: {e.message}"
      pure (false, none)
  let device ← selectDevice separate mapOnly gpu
  pure ⟨device.name, gpu.map Node.name⟩

/-- The nodes that a supplied search comes up with; this takes up one answer. -/
def searchSupplied : HostM Nodes := do
  let failure := ((← get).answers.searches.headD none)
  modify fun h => { h with answers.searches := h.answers.searches.tail }
  match failure with
  | some e => throw e
  | none => pure ⟨Utf8.encode "gbm", some (Utf8.encode "gpu")⟩

def findNodes (source : NodeSource) (mapOnly : Bool) : HostM Nodes := do
  HostM.record (.findNodes source mapOnly)
  match source with
  | .supplied => searchSupplied
  | .directory displayless => searchDirectory displayless mapOnly

end Discovery

end GraphicsBuffers
