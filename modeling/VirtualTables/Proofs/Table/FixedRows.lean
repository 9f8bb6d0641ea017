import VirtualTables.Sample.Scripted

/-!
# Tables with a fixed list of rows

The simplest thing a table can do is to hand out the same rows in every scan, in order and without
looking at the constraints.  `VirtualTable.Yields` says this of a table in the middle of a scan,
call by call, and `VirtualTable.Lists` of a table as a whole.  Neither says anything about the cells
that are left behind when the rows are used up: they are no row, and whoever reads them is wrong.

A script that has no failures in it is such a table (`Sample.Script.lists_virtualTable`).
-/

namespace VirtualTables

variable {τ σ : Type}

namespace VirtualTable

/-- A table at some place of a scan goes on to produce the rows of these cells, each set in order,
and then comes to its end, all without a failure. -/
inductive Yields (t : VirtualTable τ σ) : τ → QueryContext σ → List (List (Field × Value)) → Prop
  | done {m : τ} {ctx : QueryContext σ}
      (produced : (t.next m ctx).produced = false)
      (failure : (t.next m ctx).context.failure = none) :
      t.Yields m ctx []
  | row {m : τ} {ctx : QueryContext σ} {cells : List (Field × Value)}
      {rest : List (List (Field × Value))}
      (produced : (t.next m ctx).produced = true)
      (failure : (t.next m ctx).context.failure = none)
      (row : (t.next m ctx).row = .ofList cells)
      (later : t.Yields (t.next m ctx).memory (t.next m ctx).context rest) :
      t.Yields m ctx (cells :: rest)

/-- Every scan of the table produces the rows of these cells. -/
structure Lists (t : VirtualTable τ σ) (rows : List (List (Field × Value))) : Prop where
  prepare : ∀ m ctx, ctx.failure = none → (t.prepare m ctx).2.failure = none
  yields : ∀ m ctx, ctx.failure = none → t.Yields (t.prepare m ctx).1 (t.prepare m ctx).2 rows

end VirtualTable

namespace Sample
namespace Script

variable {s : Script}

/-- The cells that are set in a row, under the fields of their columns. -/
def fieldCells (s : Script) (cells : List (Nat × Value)) : List (Field × Value) :=
  cells.filterMap fun (position, value) ↦
    (s.definition.column? position).map fun c ↦ (c.field, value)

/-- At the place of a number, a script without failures answers with the row of this number. -/
theorem next_of_state (hfail : s.failAt = none) (u : Usage) {ctx : QueryContext Place}
    {number : Nat} (hstate : ctx.state = some (.position number)) :
    s.virtualTable.next u ctx =
      s.produce u.advance (ctx.setState (.position (number + 1))) number := by
  have hplace : ctx.stateAs? Place.position? = some number := by
    rw [QueryContext.stateAs?, hstate]
    rfl
  simp only [virtualTable, hplace, advance, hfail, Option.filter_none]

/-- A script with a row of this number produces it. -/
theorem next_of_row (hfail : s.failAt = none) (u : Usage) {ctx : QueryContext Place} {number : Nat}
    (hstate : ctx.state = some (.position number)) {cells : List (Nat × Value)}
    (hcells : s.rows[number]? = some cells) :
    s.virtualTable.next u ctx =
      { memory := u.advance
        context := ctx.setState (.position (number + 1))
        row := .ofList (s.fieldCells cells)
        produced := true } := by
  rw [next_of_state hfail u hstate, produce, hcells]
  rfl

/-- A script without a row of this number is at its end. -/
theorem next_of_end (hfail : s.failAt = none) (u : Usage) {ctx : QueryContext Place} {number : Nat}
    (hstate : ctx.state = some (.position number)) (hend : s.rows[number]? = none) :
    s.virtualTable.next u ctx =
      s.atEnd u.advance (ctx.setState (.position (number + 1))) := by
  rw [next_of_state hfail u hstate, produce, hend]

/-- From the place of a number, a script without failures goes on with the rows from there. -/
theorem yields_of_state (hfail : s.failAt = none) {rows : List (List (Nat × Value))} {number : Nat}
    (hrows : s.rows.drop number = rows) (u : Usage) {ctx : QueryContext Place}
    (hstate : ctx.state = some (.position number)) (hctx : ctx.failure = none) :
    s.virtualTable.Yields u ctx (rows.map s.fieldCells) := by
  induction rows generalizing number u ctx with
  | nil =>
    have hend : s.rows[number]? = none := by
      rw [← List.head?_drop, hrows, List.head?_nil]
    have hnext := next_of_end hfail u hstate hend
    refine .done ?_ ?_
    · rw [hnext, atEnd]
    · rw [hnext]
      exact hctx
  | cons cells rest ih =>
    have hcells : s.rows[number]? = some cells := by
      rw [← List.head?_drop, hrows, List.head?_cons]
    have hrest : s.rows.drop (number + 1) = rest := by
      rw [← List.tail_drop, hrows, List.tail_cons]
    have hnext := next_of_row hfail u hstate hcells
    refine .row ?_ ?_ ?_ ?_
    · rw [hnext]
    · rw [hnext]
      exact hctx
    · rw [hnext]
    · rw [hnext]
      exact ih hrest _ rfl hctx

/-- **A script without failures produces its rows**, whatever it leaves behind at the end. -/
theorem lists_virtualTable (hprepare : s.failPrepare = none) (hfail : s.failAt = none) :
    s.virtualTable.Lists (s.rows.map s.fieldCells) := by
  constructor
  · intro m ctx hctx
    rw [virtualTable, hprepare]
    exact hctx
  · intro m ctx hctx
    refine yields_of_state hfail List.drop_zero _ ?_ ?_
    · rfl
    · rw [virtualTable, hprepare]
      exact hctx

end Script
end Sample

end VirtualTables
