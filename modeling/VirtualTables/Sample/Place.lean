import VirtualTables.Table.Source

/-!
# Scans of the sample tables

The sample tables show how an engine drives the adapter: they count the calls that reach them, and
some of them keep what each scan was started with. All of them keep their place in values of one
type, so that a context can be handed from one table to another.
-/

namespace VirtualTables
namespace Sample

/-- The place of a scan. -/
inductive Place where
  /-- The numbers of the rows to come. -/
  | rows (numbers : List Nat)
  /-- The paths to come. -/
  | paths (paths : List String)
  /-- The number of rows that were produced. -/
  | produced (count : Nat)
  /-- The number of the next row. -/
  | position (number : Nat)
  deriving DecidableEq, Repr

namespace Place

def rows? : Place → Option (List Nat)
  | rows numbers => some numbers
  | _ => none

def paths? : Place → Option (List String)
  | paths ps => some ps
  | _ => none

def produced? : Place → Option Nat
  | produced count => some count
  | _ => none

def position? : Place → Option Nat
  | position number => some number
  | _ => none

end Place

/-- What a scan was started with. -/
structure Start where
  constraints : List Constraint
  requested : FieldSet
  deriving DecidableEq

/-- What a sample table remembers. -/
structure Usage where
  /-- The number of scans that were started. -/
  prepared : Nat
  /-- The number of times a row was asked for. -/
  advanced : Nat
  /-- What the scans were started with, for a table that keeps it. -/
  starts : Option (List Start)
  deriving DecidableEq

namespace Usage

/-- The memory of a table that was not scanned yet and counts only. -/
def counting : Usage :=
  { prepared := 0, advanced := 0, starts := none }

/-- The memory of a table that was not scanned yet and keeps what scans are started with. -/
def recording : Usage :=
  { prepared := 0, advanced := 0, starts := some [] }

/-- The memory after one more scan was started. -/
def prepare (u : Usage) (ctx : QueryContext Place) : Usage :=
  { u with
    prepared := u.prepared + 1
    starts := u.starts.map (· ++ [⟨ctx.constraints, ctx.requested⟩]) }

/-- The memory after one more row was asked for. -/
def advance (u : Usage) : Usage :=
  { u with advanced := u.advanced + 1 }

/-- The memory with its counts back at zero. -/
def reset (u : Usage) : Usage :=
  { u with prepared := 0, advanced := 0 }

/-- Takes what the scans were started with out of the memory. -/
def takeStarts (u : Usage) : Option (List Start) × Usage :=
  (u.starts, { u with starts := u.starts.map fun _ => [] })

end Usage

end Sample
end VirtualTables
