import VirtualTables.Sample.Place

/-!
# Scripted tables

A scripted table follows a script: it produces the rows of the script in order and never filters,
and it fails where the script says so. When it comes to the end it may leave cells behind that are
no row.
-/

namespace VirtualTables
namespace Sample

/-- When and how a scripted table fails while it produces rows. -/
structure Mishap where
  /-- The number of the row at which it fails, counted from zero. -/
  row : Nat
  message : String
  /-- Whether it goes on to produce the row all the same. -/
  returns : Bool
  deriving DecidableEq, Repr

/-- What a scripted table does. -/
structure Script where
  definition : TableDef
  /-- The cells of each row, by the position of their columns. -/
  rows : List (List (Nat × Value))
  /-- The message with which the start of a scan fails. -/
  failPrepare : Option String
  failAt : Option Mishap
  /-- Whether the cells of the first row are left behind at the end. -/
  dirtyEnd : Bool
  deriving DecidableEq

namespace Script

/-- The row of some cells. -/
def row (s : Script) (cells : List (Nat × Value)) : Row :=
  .ofList (cells.filterMap fun (position, value) =>
    (s.definition.column? position).map fun c => (c.field, value))

/-- The answer at the end of the rows. -/
def atEnd (s : Script) (u : Usage) (ctx : QueryContext Place) : Advance Usage Place :=
  { memory := u
    context := ctx
    row := if s.dirtyEnd then (s.rows.head?.map s.row).getD .empty else .empty
    produced := false }

/-- The answer with the row of a number. -/
def produce (s : Script) (u : Usage) (ctx : QueryContext Place) (number : Nat) :
    Advance Usage Place :=
  match s.rows[number]? with
  | some cells => { memory := u, context := ctx, row := s.row cells, produced := true }
  | none => s.atEnd u ctx

/-- The answer at the place of a number. -/
def advance (s : Script) (u : Usage) (ctx : QueryContext Place) (number : Nat) :
    Advance Usage Place :=
  match s.failAt.filter (·.row = number) with
  | none => s.produce u ctx number
  | some mishap =>
    let ctx := ctx.fail mishap.message
    if mishap.returns then s.produce u ctx number
    else { memory := u, context := ctx, row := .empty, produced := false }

/-- The table of a script, without the number of rows to come. -/
def virtualTable (s : Script) : VirtualTable Usage Place where
  definition := s.definition
  prepare u ctx :=
    let failed := s.failPrepare.elim ctx ctx.fail
    (u.prepare ctx, failed.setState (.position 0))
  next u ctx :=
    match ctx.stateAs? Place.position? with
    | some number => s.advance u.advance (ctx.setState (.position (number + 1))) number
    | none => { memory := u.advance, context := ctx, row := .empty, produced := false }

/-- A row is produced only where the script has one, and the place stays as it was set. -/
theorem advance_produced {s : Script} {u : Usage} {ctx : QueryContext Place} {number : Nat}
    (h : (s.advance u ctx number).produced = true) :
    number < s.rows.length ∧ (s.advance u ctx number).context.state = ctx.state := by
  have produce_produced : ∀ c : QueryContext Place, (s.produce u c number).produced = true →
      number < s.rows.length ∧ (s.produce u c number).context.state = c.state := by
    intro c hp
    unfold produce at hp ⊢
    split at hp
    · rename_i cells hc
      have hn := List.getElem?_eq_some_iff.1 hc
      exact ⟨hn.1, by simp⟩
    · simp [atEnd] at hp
  unfold advance at h ⊢
  split at h
  · exact produce_produced ctx h
  · rename_i mishap hm
    by_cases hr : mishap.returns = true
    · simp only [hr, if_true] at h ⊢
      exact produce_produced (ctx.fail mishap.message) h
    · simp [hr] at h

/-- The table of a script. -/
def table (s : Script) : FiniteTable Usage Place where
  toVirtualTable := s.virtualTable
  remaining ctx := s.rows.length - (ctx.stateAs? Place.position?).getD s.rows.length
  remaining_next m ctx h := by
    revert h
    cases hs : ctx.stateAs? Place.position? with
    | none => simp [virtualTable, hs]
    | some number =>
      intro h
      simp only [virtualTable, hs] at h ⊢
      obtain ⟨hn, hc⟩ := advance_produced h
      rw [QueryContext.stateAs?, hc]
      simp only [QueryContext.setState, Option.bind_some, Place.position?, Option.getD_some]
      omega

end Script

end Sample
end VirtualTables
