import GraphicsBuffers.Format
import GraphicsBuffers.Usage

/-!
Which formats can be allocated for which uses. The table keeps the order of registration, and a
query takes the entry of greatest priority, among equals the one registered last.
-/

namespace GraphicsBuffers

/-- How the pixels of a registered format are arranged. -/
structure Arrangement where
  priority : UInt32 := 1
  tiling : UInt32 := 0
  modifier : UInt64 := 0
deriving DecidableEq, Repr

/-- Row after row, without tiles or compression. -/
def Arrangement.linear : Arrangement := {}

structure Combination where
  format : Format
  arrangement : Arrangement
  useFlags : UseFlags
deriving DecidableEq, Repr

namespace Combination

def add (table : List Combination) (format : Format) (arrangement : Arrangement)
    (flags : UseFlags) : List Combination :=
  table ++ [⟨format, arrangement, flags⟩]

def addAll (table : List Combination) (formats : List Format) (arrangement : Arrangement)
    (flags : UseFlags) : List Combination :=
  formats.foldl (fun table format => add table format arrangement flags) table

/-- Adds `flags` to each entry of the format whose modifier is the arrangement's. -/
def widen (table : List Combination) (format : Format) (arrangement : Arrangement)
    (flags : UseFlags) : List Combination :=
  table.map fun c =>
    if c.format = format ∧ c.arrangement.modifier = arrangement.modifier then
      { c with useFlags := c.useFlags ∪ flags }
    else c

/-- Lets linear `xrgb8888` and `argb8888` buffers be scanned out and used as cursors. -/
def widenLinear (table : List Combination) : List Combination :=
  let flags := UseFlags.cursor ∪ .scanout
  widen (widen table .xrgb8888 .linear flags) .argb8888 .linear flags

def answers (format : Format) (flags : UseFlags) (c : Combination) : Bool :=
  c.format = format && c.useFlags.contains flags

/-- The later of two entries, unless the earlier one has the greater priority. -/
def prefer : Option Combination → Combination → Option Combination
  | none, c => some c
  | some b, c => if b.arrangement.priority ≤ c.arrangement.priority then some c else some b

def best? (table : List Combination) (format : Format) (flags : UseFlags) :
    Option Combination :=
  (table.filter (answers format flags)).foldl prefer none

end Combination

end GraphicsBuffers
