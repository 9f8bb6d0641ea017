import VirtualTables.Sample.Place

/-!
# A table that breaks

The table produces one row, and then it fails.
-/

namespace VirtualTables
namespace Sample
namespace Broken

/-- The schema of the table. -/
def schema : Schema :=
  ⟨.shared, "broken"⟩

def id : Field :=
  .inSchema schema (.integer .int4) "id"

/-- The definition of the table. -/
def definition : TableDef where
  schema := schema
  columns := [.plain id]
  attributes := []

/-- The table without the number of rows to come. -/
def virtualTable : VirtualTable Usage Place where
  definition := definition
  prepare u ctx := (u.prepare ctx, ctx.setState (.produced 0))
  next u ctx :=
    match ctx.stateAs? Place.produced? with
    | some 0 =>
      { memory := u.advance
        context := ctx.setState (.produced 1)
        row := .ofList [(id, .integer .int4 (.wrap .int4 1))]
        produced := true }
    | some _ =>
      { memory := u.advance
        context := ctx.fail "backing store went away"
        row := .empty
        produced := false }
    | none => { memory := u.advance, context := ctx, row := .empty, produced := false }

/-- The table. -/
def table : FiniteTable Usage Place where
  toVirtualTable := virtualTable
  remaining ctx := 1 - (ctx.stateAs? Place.produced?).getD 1
  remaining_next m ctx h := by
    revert h
    cases hs : ctx.stateAs? Place.produced? with
    | none => simp [virtualTable, hs]
    | some count =>
      cases count with
      | zero => simp [virtualTable, hs, Place.produced?]
      | succ n => simp [virtualTable, hs]

end Broken
end Sample
end VirtualTables
