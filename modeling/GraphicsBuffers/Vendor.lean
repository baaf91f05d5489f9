import GraphicsBuffers.Host

/-!
The vendor library: how it is loaded, and its table of operations. Every operation is recorded, with
the library that it goes through.
-/

namespace GraphicsBuffers.Vendor

def entries : List String :=
  ["dev_create", "dev_destroy", "get_gbm_format", "alloc", "import", "free", "map", "unmap"]

/-- A table can be used once all of its entries are there. -/
def checkTable (missing : List String) : Except Error Unit :=
  match entries.find? missing.contains with
  | some entry => .error (.missingEntry entry)
  | none => .ok ()

/-- A name as it is passed to the dynamic linker: one NUL may end it, and none may stand inside. -/
def linkerName (name : String) : Except LinkFailure String :=
  let chars := name.toList
  let chars := if chars.getLast? = some '\x00' then chars.dropLast else chars
  if chars.contains '\x00' then .error .interiorNul else .ok (String.ofList chars)

def findLibrary (h : Host) (name : String) : Except LinkFailure SharedLibrary := do
  let name ← linkerName name
  match h.installed.find? fun l => l.name = name with
  | some library => .ok library
  | none => .error .noLibrary

/-- Whether the entry point under the symbol returns a table. -/
def findSymbol (library : SharedLibrary) (symbol : String) : Except LinkFailure Bool := do
  let symbol ← linkerName symbol
  match library.symbols.lookup symbol with
  | some returnsTable => .ok returnsTable
  | none => .error .noSymbol

/-- Whether a shared library and its entry point lead to a usable table. -/
def openShared (h : Host) (name symbol : String) : Except Error Unit :=
  match findLibrary h name with
  | .error cause => .error (.libraryNotOpened name cause)
  | .ok library =>
    match findSymbol library symbol with
    | .error cause => .error (.symbolNotFound symbol cause)
    | .ok false => .error .noOperationTable
    | .ok true => checkTable h.missing

/-- Whether the linked table is handed out and can be used; this takes up one answer. -/
def openLinked (h : Host) : Except Error Unit × Host :=
  let granted := h.answers.loads.headD true
  let h := { h with answers.loads := h.answers.loads.tail }
  (if granted then checkTable h.missing else .error .noOperationTable, h)

def reserve (h : Host) (source : LibrarySource) : Except Error Unit × Host :=
  match source with
  | .linked => openLinked h
  | .shared name symbol => (openShared h name symbol, h)

def loadFailure (source : LibrarySource) (e : Error) (h : Host) : Host :=
  match source with
  | .linked => h
  | .shared name _ => h.log .error s!"Failed to load {name}: {e.message}"

def load (source : LibrarySource) : HostM Library
  | h =>
    match reserve h source with
    | (.ok (), h) =>
      let library : Library := ⟨source, h.loads + 1⟩
      .ok library ({ h with loads := h.loads + 1 }.record (.load source (some library.number)))
    | (.error e, h) => .error e (loadFailure source e (h.record (.load source none)))

/-- A device on the node, or none where the library refuses. -/
def createDevice (library : Library) (node : Option FileName) (h : Host) : Option Nat × Host :=
  let granted := h.answers.devices.headD true
  let h := { h with answers.devices := h.answers.devices.tail }
  if granted then
    let device := h.answers.deviceNumbers.headD (h.devices + 1)
    let h := { h with
      devices := h.devices + 1
      answers.deviceNumbers := h.answers.deviceNumbers.tail }
    (some device, h.record (.createDevice library node (some device)))
  else (none, h.record (.createDevice library node none))

/-- What a successful allocation yields. -/
structure Allocation where
  descriptor : Descriptor
  stride : UInt32
  mapStride : UInt32
  modifier : UInt64
deriving DecidableEq, Repr

/-- Rows of four-byte pixels that start on 64-byte boundaries. -/
def defaultStride (width : UInt32) : UInt32 :=
  ((width.toNat * 4 + 63) / 64 * 64).toUInt32

def tiledModifier : UInt64 := 0x0100000000000001

def allocate (request : AllocRequest) (answer : AllocAnswer) (d : Descriptor) : Allocation :=
  let stride := answer.stride.getD (defaultStride request.width)
  { descriptor := d
    stride
    mapStride := answer.mapStride.getD (if request.mapStride then stride else 0)
    modifier := answer.modifier.getD (if request.linear then 0 else tiledModifier) }

def noDescriptor : Error := .component (-22)

/-- Width and height must be signed 32-bit integers for the request to reach the library. -/
def alloc (library : Library) (device : Nat) (request : AllocRequest) : HostM Allocation := do
  let _ ← ofExcept (signed request.width)
  let _ ← ofExcept (signed request.height)
  HostM.record (.alloc library device request)
  let answer := (← get).answers.allocs.headD {}
  modify fun h => { h with answers.allocs := h.answers.allocs.tail }
  if answer.status ≠ 0 then throw (.component answer.status)
  else if answer.descriptor then
    let (d, h) := (← get).createMemory answer.size
    set h
    pure (allocate request answer d)
  else
    HostM.log .error "backend allocation succeeded without a buffer descriptor"
    throw noDescriptor

/-- A handle for the buffer, or none where the library refuses. -/
def importBuffer (library : Library) (device : Nat) (request : ImportRequest) (h : Host) :
    Option Nat × Host :=
  let granted := h.answers.imports.headD true
  let h := { h with answers.imports := h.answers.imports.tail }
  if granted then
    let handle := h.answers.handleNumbers.headD (h.imports + 1)
    let h := { h with
      imports := h.imports + 1
      answers.handleNumbers := h.answers.handleNumbers.tail }
    (some handle, h.record (.importBuffer library device request (some handle)))
  else (none, h.record (.importBuffer library device request none))

def free (library : Library) (handle : Nat) (h : Host) : Host := h.record (.free library handle)

/-- Where a mapping lies, and the token that ends it. -/
structure Placement where
  address : UInt64
  token : Nat
deriving DecidableEq, Repr

def mapFailed : UInt64 := 0xFFFFFFFFFFFFFFFF

def mapAddress (n : Nat) : UInt64 := (0x10000000 + 0x1000 * n).toUInt64

/-- The address that is found after the `n`th map call; before it, the place holds `mapFailed`. -/
def storedAddress (n : Nat) : MapAddress → UInt64
  | .placed => mapAddress n
  | .stored address => address
  | .untouched => mapFailed

/-- The token that is found after the `n`th map call; where none is stored, the place holds 0. -/
def storedToken (n : Nat) (answer : MapAnswer) : Nat :=
  if answer.token then answer.number.getD n else 0

/-- A mapping is placed at an address other than null and `mapFailed`, and has a token. -/
def placement (n : Nat) (answer : MapAnswer) : Except Error Placement :=
  let address := storedAddress n answer.address
  let token := storedToken n answer
  if address = 0 ∨ address = mapFailed then .error .notMapped
  else if token ≠ 0 then .ok ⟨address, token⟩
  else .error .notMapped

/-- Width and height must be signed 32-bit integers for the call to reach the library. -/
def map (library : Library) (handle : Nat) (width height : UInt32) : HostM Placement := do
  let _ ← ofExcept (signed width)
  let _ ← ofExcept (signed height)
  let n := (← get).maps + 1
  let answer := (← get).answers.maps.headD {}
  modify fun h => { h with maps := n, answers.maps := h.answers.maps.tail }
  HostM.record (.map library handle width height)
  ofExcept (placement n answer)

def unmap (library : Library) (handle token : Nat) (h : Host) : Host :=
  h.record (.unmap library handle token)

end GraphicsBuffers.Vendor
