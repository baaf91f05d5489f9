import GraphicsBuffers.Session.Step

/-!
Runs of a session, from one driver in slot 0 until everything is dropped.
-/

namespace GraphicsBuffers.Session

/-- A session with one driver, in slot 0. -/
def start (allocator : Allocator) (host : Host) : Session × Answer :=
  let (s, answer) := openDriver { allocator, host } 0
  match answer with
  | .name _ => (s, .done)
  | answer => (s, answer)

/-- Drops everything: buffers, then held contexts, then drivers, each in the order of the slots. -/
def finish (s : Session) : Session :=
  let s := (s.buffers.entries.map Prod.fst).foldl dropBuffer { s with mappings := {} }
  let s := (s.contexts.entries.map Prod.fst).foldl dropContext s
  (s.drivers.entries.map Prod.fst).foldl dropDriver s

/-- What one operation answered, and what happened meanwhile. -/
structure Report where
  answer : Answer
  events : List Event
deriving DecidableEq, Repr

def report (before after : Session) (answer : Answer) : Report :=
  ⟨answer, after.host.events.drop before.host.events.length⟩

/-- The reports of the operations, and of the end of the session, unless one of them stops the
process. -/
def reports (s : Session) : List Operation → List Report
  | [] => [report s s.finish .ended]
  | op :: rest =>
    let (after, answer) := s.step op
    report s after answer :: if answer = .stopped then [] else reports after rest

/-- The session after some operations. One that stops the process leaves it as it was. -/
def run (s : Session) (ops : List Operation) : Session :=
  ops.foldl (fun s op => (s.step op).1) s

end GraphicsBuffers.Session
