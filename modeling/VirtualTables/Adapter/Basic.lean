import VirtualTables.Adapter.Error
import VirtualTables.Engine.Value
import VirtualTables.Plan.Backlog
import VirtualTables.Table.Source
import VirtualTables.Table.Validation

/-!
# The adapter between an engine and a table

An engine sees a table through the calls of this module. It connects to the table, has plans made
for its queries (`bestIndex`), and then opens cursors: `filter` starts a scan by the number of a
plan and the values of its constraints, `next` moves on, and `eof`, `column` and `rowid` look at the
row that the cursor is at.

A cursor is at the end of its scan when its row holds no cell. A failure that the table left in the
context ends the scan at once, and is the answer of the call that found it. All that can be said
against a filter is said before its cursor is touched.

* `Adapter τ σ` — the connection to one table: the table, its memory, and the plans that are kept.
* `Cursor σ` — a cursor: the context of its scan, the row it is at, and the number of that row.
-/

namespace VirtualTables

/-- The connection of an engine to a table. -/
structure Adapter (τ σ : Type) where
  table : VirtualTable τ σ
  memory : τ
  backlog : PlanBacklog

/-- A cursor on a table. It has no context until it is filtered. -/
structure Cursor (σ : Type) where
  context : Option (QueryContext σ)
  row : Row
  /-- The number of rows that the scan has come to. An engine has 64 bits for it, which is enough
  for any number of calls below `2 ^ 63`. -/
  rowid : Nat
  deriving DecidableEq

/-- What an engine learns from a plan. -/
structure PlanOffer where
  id : Int
  slots : List (Option Nat)
  cost : Binary .float8
  rows : Nat
  deriving DecidableEq

namespace Cursor

variable {σ : Type}

/-- A cursor that was not filtered yet. -/
def new : Cursor σ :=
  { context := none, row := .empty, rowid := 0 }

/-- Whether the cursor is not at a row. -/
def eof (c : Cursor σ) : Bool :=
  c.row.isEmpty

/-- Takes a failure out of the context of the cursor. A cursor with a failure is at no row. -/
def settle (c : Cursor σ) (tableName : String) : Except AdapterError Unit × Cursor σ :=
  match c.context with
  | none => (.ok (), c)
  | some ctx =>
    let (failure, ctx) := ctx.takeFailure
    match failure with
    | none => (.ok (), { c with context := some ctx })
    | some reason =>
      (.error (.table (.tableFailed tableName reason)),
        { c with context := some ctx, row := .empty })

end Cursor

namespace Adapter

variable {τ σ : Type}

/-- Connects to a table with a valid definition. -/
def connect (table : VirtualTable τ σ) (memory : τ) (window : Nat) :
    Except AdapterError (Adapter τ σ) :=
  match table.definition.validate with
  | .ok () => .ok { table, memory, backlog := .new window }
  | .error e => .error (.table e)

/-- The definition of the table. -/
def definition (a : Adapter τ σ) : TableDef :=
  a.table.definition

/-- The name of the table. -/
def name (a : Adapter τ σ) : String :=
  a.definition.name

/-- Makes a plan for a query that offers the given candidates and reads the given columns. A plan
without a constraint on a required column is refused. -/
def bestIndex (a : Adapter τ σ) (candidates : List Candidate) (used : BitVec 64) :
    Except TableError PlanOffer × Adapter τ σ :=
  match a.definition.pushdown candidates used with
  | .error e => (.error e, a)
  | .ok p =>
    let (plan, backlog) := a.backlog.mint p.constraints p.requested
    (.ok { id := plan.id, slots := p.slots, cost := p.cost, rows := p.rows }, { a with backlog })

/-- Moves a cursor to the next row of its scan. -/
def next (a : Adapter τ σ) (c : Cursor σ) :
    Except AdapterError Unit × Cursor σ × Adapter τ σ :=
  match c.context with
  | none => (.error .notFiltered, { c with row := .empty }, a)
  | some ctx =>
    let step := a.table.next a.memory ctx
    let c : Cursor σ :=
      { context := some step.context
        row := if step.produced then step.row else .empty
        rowid := if step.produced then c.rowid + 1 else c.rowid }
    let (answer, c) := c.settle a.name
    (answer, c, { a with memory := step.memory })

/-- The constraints of a plan from the one at `slot` on, with their values. The first text that is
not well-formed is refused. -/
def bindFrom (slot : Nat) :
    List PlannedConstraint → List EngineValue → Except AdapterError (List Constraint)
  | p :: planned, v :: values =>
    match v.read? with
    | none => .error (.unreadable slot)
    | some value => (bindFrom (slot + 1) planned values).map (⟨p.field, p.op, value⟩ :: ·)
  | _, _ => .ok []

/-- The constraints of a plan with their values. -/
def bindValues (planned : List PlannedConstraint) (values : List EngineValue) :
    Except AdapterError (List Constraint) :=
  bindFrom 0 planned values

/-- Has the table prepare a scan with a plan and its constraints. The cursor of the scan is at no
row yet. -/
def prepare (a : Adapter τ σ) (p : Plan) (constraints : List Constraint) :
    Except AdapterError Unit × Cursor σ × Adapter τ σ :=
  let ctx := .new constraints p.requested
  let (memory, ctx) := a.table.prepare a.memory ctx
  let (answer, c) := Cursor.settle { context := some ctx, row := .empty, rowid := 0 } a.name
  (answer, c, { a with memory })

/-- Starts a scan with a plan and its constraints, and moves to the first row. -/
def start (a : Adapter τ σ) (p : Plan) (constraints : List Constraint) :
    Except AdapterError Unit × Cursor σ × Adapter τ σ :=
  match a.prepare p constraints with
  | (.error e, c, a) => (.error e, c, a)
  | (.ok (), c, a) => a.next c

/-- Starts a scan by the number of a plan and the values of its constraints. A call with a plan that
is not kept, with a wrong number of values, or with a value that cannot be read changes nothing. -/
def filter (a : Adapter τ σ) (c : Cursor σ) (plan : Int) (values : List EngineValue) :
    Except AdapterError Unit × Cursor σ × Adapter τ σ :=
  match a.backlog.get? plan with
  | none => (.error (.table (.unknownPlan a.name plan)), c, a)
  | some p =>
    if values.length ≠ p.constraints.length then
      (.error (.table (.valueCount a.name p.constraints.length values.length)), c, a)
    else
      match bindValues p.constraints values with
      | .error e => (.error e, c, a)
      | .ok constraints => a.start p constraints

/-- The value of a column at the row of a cursor: that of the column which holds its data, and null
where the table set none. -/
def column (a : Adapter τ σ) (c : Cursor σ) (index : Int) : Except AdapterError EngineValue :=
  let resolved := if 0 ≤ index then a.definition.resolve? index.toNat else none
  match resolved with
  | none => .error (.table (.columnOutOfRange a.name index a.definition.columns.length))
  | some (_, column) => .ok (((c.row.get? column.field).map EngineValue.ofValue).getD .null)

end Adapter

end VirtualTables
