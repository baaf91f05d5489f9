import GraphicsBuffers.Allocator
import GraphicsBuffers.Slots

/-!
Sessions: any number of drivers, buffers, mappings, held contexts and descriptors over one
allocator, each in a numbered slot. Storing into a slot lets go of what it held before.
-/

namespace GraphicsBuffers

structure Session where
  allocator : Allocator
  host : Host
  drivers : Slots Driver := {}
  buffers : Slots Buffer := {}
  mappings : Slots Mapping := {}
  contexts : Slots Context := {}
  descriptors : Slots Descriptor := {}
deriving Repr

namespace Session

/-! ### Storing and dropping -/

def storeDriver (s : Session) (driver : Nat) (d : Driver) : Session :=
  let host := match s.drivers.get? driver with
    | some old => (Allocator.close old s.host).2
    | none => s.host
  { s with drivers := s.drivers.put driver d, host }

def dropDriver (s : Session) (driver : Nat) : Session :=
  match s.drivers.get? driver with
  | some old => { s with drivers := s.drivers.erase driver, host := (Allocator.close old s.host).2 }
  | none => s

def storeBuffer (s : Session) (buffer : Nat) (b : Buffer) : Session :=
  { s with
    buffers := s.buffers.put buffer b
    host := s.host.discard ((s.buffers.get? buffer).bind Buffer.state) }

def dropBuffer (s : Session) (buffer : Nat) : Session :=
  { s with
    buffers := s.buffers.erase buffer
    host := s.host.discard ((s.buffers.get? buffer).bind Buffer.state) }

def storeContext (s : Session) (slot : Nat) (c : Context) : Session :=
  let host := s.host.hold c
  { s with
    contexts := s.contexts.put slot c
    host := match s.contexts.get? slot with
      | some old => host.release old
      | none => host }

def dropContext (s : Session) (slot : Nat) : Session :=
  match s.contexts.get? slot with
  | some old => { s with contexts := s.contexts.erase slot, host := s.host.release old }
  | none => s

def storeDescriptor (s : Session) (descriptor : Nat) (d : Descriptor) : Session :=
  { s with descriptors := s.descriptors.put descriptor d }

end Session

end GraphicsBuffers
