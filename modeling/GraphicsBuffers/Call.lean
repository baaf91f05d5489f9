import GraphicsBuffers.Node
import GraphicsBuffers.Plan

/-!
What passes between the allocator and its surroundings: the calls that it makes, and the messages
that it logs.
-/

namespace GraphicsBuffers

/-- Where a device context takes its nodes from. -/
inductive NodeSource
  /-- A search that is supplied from outside. -/
  | supplied
  /-- The node directory. Drivers named in `displayless` have no display hardware of their own. -/
  | directory (displayless : List String)
deriving DecidableEq, Repr

/-- Where a device context takes the vendor library from. -/
inductive LibrarySource
  /-- A table of operations that is part of the program. -/
  | linked
  /-- A shared library, and the symbol of the entry point that returns its table. -/
  | shared (name symbol : String)
deriving DecidableEq, Repr

/-- A vendor library in use. Each load has its own number. -/
structure Library where
  source : LibrarySource
  number : Nat
deriving DecidableEq, Repr

/-- A device, and the library that created it. -/
structure Context where
  library : Library
  device : Nat
deriving DecidableEq, Repr

/-- An open descriptor: of a numbered memory buffer, or of a stream, in which a seek fails with the
numbered error. -/
inductive Descriptor
  | memory (buffer : Nat) (size : UInt64)
  | stream (code : Int32)
deriving DecidableEq, Repr

namespace Descriptor

def buffer : Descriptor → Nat
  | memory n _ => n
  | stream _ => 0

/-- The key of the underlying file, which all duplicates of a descriptor share. -/
def inode (d : Descriptor) : UInt64 := d.buffer.toUInt64

/-- The bytes of the buffer, found by seeking to its end. -/
def size : Descriptor → Except Error UInt64
  | memory _ n => .ok n
  | stream code => .error (.io (.numbered code))

end Descriptor

/-- A buffer as the vendor library is to see it. -/
structure ImportRequest where
  descriptor : Descriptor
  width : UInt32
  height : UInt32
  stride : UInt32
  modifier : UInt64
  format : Format
deriving DecidableEq, Repr

inductive Call
  | findNodes (source : NodeSource) (mapOnly : Bool)
  | openNode (node : FileName)
  | queryVersion (node : FileName)
  | queryResources (node : FileName)
  | dropMaster (node : FileName)
  | load (source : LibrarySource) (number : Option Nat)
  | unload (library : Library)
  | createDevice (library : Library) (node : Option FileName) (device : Option Nat)
  | destroyDevice (library : Library) (device : Nat)
  | alloc (library : Library) (device : Nat) (request : AllocRequest)
  | importBuffer (library : Library) (device : Nat) (request : ImportRequest)
      (handle : Option Nat)
  | free (library : Library) (handle : Nat)
  | map (library : Library) (handle : Nat) (width height : UInt32)
  | unmap (library : Library) (handle : Nat) (token : Nat)
deriving DecidableEq, Repr

inductive LogLevel
  | error | warn | info | debug | trace
deriving DecidableEq, Repr

inductive Event
  | call (c : Call)
  | log (level : LogLevel) (text : String)
deriving DecidableEq, Repr

def Event.call? : Event → Option Call
  | call c => some c
  | log .. => none

end GraphicsBuffers
