import VirtualTables.Sample.Listing
import VirtualTables.Text.Utf8

/-!
# A table of the lengths of paths

A query has to say which paths it wants. An equality gives the path itself, known or not, and a
pattern gives the known paths that start as the pattern does. The paths of one constraint follow
those of the one before, so a path that two constraints give comes twice.
-/

namespace VirtualTables
namespace Sample
namespace Paths

/-- The schema of the table. -/
def schema : Schema :=
  ⟨.shared, "tpath_len"⟩

def path : Field :=
  .inSchema schema .utf8 "path"

def pathlen : Field :=
  .inSchema schema (.integer .uint4) "pathlen"

/-- The definition of the table. -/
def definition : TableDef where
  schema := schema
  columns :=
    [((Column.plain path).withOptions .required).withOps [.eq, .like], .plain pathlen]
  attributes := []

/-- The known paths. -/
def known : List String :=
  ["/dev/fd0", "/dev/pci0", "/dev/usb0", "/dev/en0", "/dev/en1", "/dev/pci1", "/dev/ttys001",
    "/home/bob", "/home/elaine", "/root", "/home/staff"]

/-- The paths that a constraint gives. -/
def given (c : Constraint) : List String :=
  match c.op, c.value.asText? with
  | .eq, some value => [value]
  | .like, some pattern => known.filter (startsLike pattern)
  | _, _ => []

/-- The paths that the constraints on the path give. -/
def selected (constraints : List Constraint) : List String :=
  (constraints.filter fun c => c.field = path).flatMap given

/-- The row of a path. -/
def row (text : String) : Row :=
  .ofList
    [(pathlen, .integer .uint4 (.wrap .uint4 (Utf8.encode text.toList).length)),
      (path, .utf8 text)]

/-- The table without the number of rows to come. -/
def virtualTable : VirtualTable Usage Place where
  definition := definition
  prepare u ctx := (u.prepare ctx, ctx.setState (.paths (selected ctx.constraints)))
  next u ctx :=
    match ctx.stateAs? Place.paths? with
    | some (text :: rest) =>
      { memory := u.advance
        context := ctx.setState (.paths rest)
        row := row text
        produced := true }
    | _ => { memory := u.advance, context := ctx, row := .empty, produced := false }

/-- The table. -/
def table : FiniteTable Usage Place where
  toVirtualTable := virtualTable
  remaining ctx := ((ctx.stateAs? Place.paths?).getD []).length
  remaining_next m ctx h := by
    revert h
    cases hs : ctx.stateAs? Place.paths? with
    | none => simp [virtualTable, hs]
    | some paths =>
      cases paths with
      | nil => simp [virtualTable, hs]
      | cons text rest => simp [virtualTable, hs, Place.paths?]

end Paths
end Sample
end VirtualTables
