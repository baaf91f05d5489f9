import GraphicsBuffers.SystemError
import GraphicsBuffers.Text.Utf8

/-!
Why an operation fails, what the failure says, and the status that it is reported under.
-/

namespace GraphicsBuffers

/-- A named operand, as the unsigned 64-bit number that messages show. -/
structure Operand where
  name : String
  value : UInt64
deriving DecidableEq, Repr

inductive IoCause
  | numbered (code : Int32)
  | described (message : String)
deriving DecidableEq, Repr

def IoCause.message : IoCause → String
  | .numbered code => s!"{SystemError.messageOf code} (os error {code})"
  | .described message => message

/-- Why the dynamic linker does not come up with a library or a symbol. -/
inductive LinkFailure
  /-- The name has a NUL inside. -/
  | interiorNul
  | noLibrary
  | noSymbol
deriving DecidableEq, Repr

def LinkFailure.message : LinkFailure → String
  | interiorNul => "interior zero element in parameter"
  | noLibrary => "dlopen failed"
  | noSymbol => "dlsym failed"

inductive Error
  | missingEntry (entry : String)
  | libraryNotOpened (name : String) (cause : LinkFailure)
  | noOperationTable
  | symbolNotFound (name : String) (cause : LinkFailure)
  | arithmetic (left right : Operand) (sign : String)
  | component (code : Int32)
  | deviceNotCreated
  | importRefused
  | invalidArgument (reason : String)
  | noBufferHandle
  | formatWithoutPlanes
  | noMappingToken
  | io (cause : IoCause)
  | notMapped
  | system (code : Int32)
  | noDisplayCard
  | noMatchingNode (pattern : String)
  | noUsableNode
  | interiorNul (position : Nat)
  | conversion
  | malformedText (place : Utf8.Malformed)
deriving DecidableEq, Repr

namespace Error

def message : Error → String
  | missingEntry entry => s!"backend operation table is missing entry `{entry}`"
  | libraryNotOpened name cause =>
    s!"unable to open backend library '{name}': {cause.message}"
  | noOperationTable => "backend entry point returned no operation table"
  | symbolNotFound name cause =>
    s!"unable to find backend symbol '{name}': {cause.message}"
  | arithmetic left right sign =>
    s!"arithmetic failed: {left.name}({left.value}) {sign} {right.name}({right.value})"
  | component code => s!"backend component failed with error {code}"
  | deviceNotCreated => "backend could not create a device for the DRM node"
  | importRefused => "backend failed to import buffer"
  | invalidArgument reason => s!"invalid argument: {reason}"
  | noBufferHandle => "buffer object has no backend handle"
  | formatWithoutPlanes => "invalid DRM format"
  | noMappingToken => "mapping record has no backend token"
  | io cause => s!"an input/output error occur: {cause.message}"
  | notMapped => "backend failed to map buffer"
  | system code => s!"The errno is {SystemError.describe code}"
  | noDisplayCard => "unable to find a DRM card node with KMS capabilities"
  | noMatchingNode pattern => s!"no DRM device node matches {pattern}"
  | noUsableNode => "unable to find or open DRM node"
  | interiorNul position =>
    s!"Nul Error occured nul byte found in provided data at position: {position}"
  | conversion => "int conversion failed: number too large to fit in target type"
  | malformedText place => s!"an utf8 error occured: {place.message}"

/-- The status reported to the caller's allocation framework. A component's own code passes
through unchanged, and a numbered error is negated. -/
def status : Error → Int32
  | component code => code
  | io (.numbered code) => -code
  | io (.described _) => -5
  | system code => -SystemError.reported code
  | arithmetic .. | conversion => -75
  | notMapped => -12
  | _ => -22

end Error

end GraphicsBuffers
