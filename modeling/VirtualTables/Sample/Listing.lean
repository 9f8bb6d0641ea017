import VirtualTables.Sample.Place

/-!
# Listings

A listing is a sample table with a fixed list of rows. When a scan starts, it selects the rows that
its constraints allow, and then produces them one after another.

* `Listing` — the rows and how they are selected.
* `keyMatches` — the selection by an integer key.
* `literalStart` — the part of a pattern that every matching text starts with.
-/

namespace VirtualTables
namespace Sample

/-- A table with a fixed list of rows. -/
structure Listing where
  definition : TableDef
  rows : List (List (Field × Value))
  /-- The fields that are produced only when they are requested. -/
  optional : List Field
  /-- Whether a row, given by its number, is allowed by the constraints. -/
  selects : List Constraint → Nat → Bool

namespace Listing

/-- The numbers of the rows that the constraints allow. -/
def selected (l : Listing) (constraints : List Constraint) : List Nat :=
  (List.range l.rows.length).filter (l.selects constraints)

/-- The row of a number, as it is produced in a context. -/
def row (l : Listing) (ctx : QueryContext Place) (number : Nat) : Row :=
  .ofList ((l.rows[number]?.getD []).filter fun (field, _) =>
    field ∉ l.optional || ctx.isRequested field)

/-- The table of a listing. -/
def virtualTable (l : Listing) : VirtualTable Usage Place where
  definition := l.definition
  prepare u ctx := (u.prepare ctx, ctx.setState (.rows (l.selected ctx.constraints)))
  next u ctx :=
    match ctx.stateAs? Place.rows? with
    | some (number :: rest) =>
      { memory := u.advance
        context := ctx.setState (.rows rest)
        row := l.row ctx number
        produced := true }
    | _ => { memory := u.advance, context := ctx, row := .empty, produced := false }

/-- The table of a listing, with the number of rows to come in a scan. -/
def table (l : Listing) : FiniteTable Usage Place where
  toVirtualTable := l.virtualTable
  remaining ctx := ((ctx.stateAs? Place.rows?).getD []).length
  remaining_next m ctx h := by
    revert h
    cases hs : ctx.stateAs? Place.rows? with
    | none => simp [virtualTable, hs]
    | some numbers =>
      cases numbers with
      | nil => simp [virtualTable, hs]
      | cons number rest =>
        simp [virtualTable, hs, Place.rows?]

end Listing

/-- Whether a row with the given key meets every equality on the key column. -/
def keyMatches (field : Field) (key : Int) (constraints : List Constraint) : Bool :=
  (constraints.filter (·.isOn field .eq)).all fun c => (c.value.asSigned?.map (·.val)) = some key

/-- The part of a pattern before its first wildcard. -/
def literalStart (pattern : String) : List Char :=
  pattern.toList.takeWhile fun c => c ≠ '%' && c ≠ '_'

/-- Whether a text starts as a pattern does. -/
def startsLike (pattern text : String) : Bool :=
  (literalStart pattern).isPrefixOf text.toList

end Sample
end VirtualTables
