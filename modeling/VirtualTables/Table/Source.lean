import VirtualTables.Context
import VirtualTables.Row
import VirtualTables.Table.Definition

/-!
# Tables that produce rows

A table is driven through a context: `prepare` starts a scan and puts its place into the context,
and every `next` moves the place and produces a row or the end of the scan. Everything that belongs
to one scan is in its context, so that scans of one table do not disturb each other; what a table
remembers across scans is its *memory*.

* `VirtualTable τ σ` — a table with memory `τ` whose scans keep their place in `σ`.
* `FiniteTable τ σ` — a table every scan of which ends.
* `FiniteTable.drain` — the rows of a scan that is driven to its end.
-/

namespace VirtualTables

/-- What a table answers when it is asked for the next row. -/
structure Advance (τ σ : Type) where
  memory : τ
  context : QueryContext σ
  /-- The cells that the table set. -/
  row : Row
  /-- Whether the cells are a row; otherwise the scan is at its end and they mean nothing. -/
  produced : Bool

/-- A table that an engine can scan. -/
structure VirtualTable (τ σ : Type) where
  definition : TableDef
  prepare : τ → QueryContext σ → τ × QueryContext σ
  next : τ → QueryContext σ → Advance τ σ

/-- A table every scan of which ends: each row it produces lowers a bound on the rows to come. -/
structure FiniteTable (τ σ : Type) extends VirtualTable τ σ where
  remaining : QueryContext σ → Nat
  remaining_next : ∀ m ctx, (next m ctx).produced = true →
    remaining (next m ctx).context < remaining ctx

namespace FiniteTable

variable {τ σ : Type}

/-- The rows that are left in a scan, what is left in the cells at its end, and the table and the
context after it. -/
def drain (t : FiniteTable τ σ) (m : τ) (ctx : QueryContext σ) :
    List Row × τ × QueryContext σ :=
  let a := t.next m ctx
  if _h : a.produced = true then
    let (rows, m, ctx) := t.drain a.memory a.context
    (a.row :: rows, m, ctx)
  else ([], a.memory, a.context)
termination_by t.remaining ctx
decreasing_by exact t.remaining_next m ctx ‹_›

end FiniteTable

end VirtualTables
