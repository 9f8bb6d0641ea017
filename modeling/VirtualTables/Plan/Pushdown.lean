import VirtualTables.Binary.Rounding
import VirtualTables.Table.Definition
import VirtualTables.Table.Error

/-!
# Deciding which predicates a table handles

An engine offers the predicates of a query as candidates and tells which columns the query reads.
Planning answers which candidates the table handles itself, in which order it wants their values,
which fields it has to produce, and how much a scan will cost.

A candidate is accepted when it can be used, has an operator, and its column, or the one its column
stands for, takes constraints with that operator. A plan that leaves a required column without an
accepted candidate is refused.
-/

namespace VirtualTables

/-- A predicate that an engine offers. An operator that no table can handle is none. -/
structure Candidate where
  column : Int
  op : Option ConstraintOp
  usable : Bool
  deriving DecidableEq, Repr

/-- A predicate that a table will handle; its value comes with the scan. -/
structure PlannedConstraint where
  field : Field
  op : ConstraintOp
  deriving DecidableEq, Repr

/-- The answer to an engine's offer. -/
structure Pushdown where
  /-- The accepted predicates, in the order in which their values are to come. -/
  constraints : List PlannedConstraint
  /-- For each candidate the place of its value, counted from one, if it was accepted. An engine has
  32 bits for a place, which is enough for any number of candidates below `2 ^ 31`. -/
  slots : List (Option Nat)
  /-- The fields that the table has to produce. -/
  requested : FieldSet
  cost : Binary .float8
  rows : Nat
  deriving DecidableEq

namespace TableDef

/-- The position of the column that a candidate constrains, and the constraint, if the table
accepts it. -/
def accept? (d : TableDef) (c : Candidate) : Option (Nat × PlannedConstraint) :=
  if c.usable ∧ 0 ≤ c.column then
    match c.op, d.resolve? c.column.toNat with
    | some op, some (position, column) =>
      if column.takesConstraints && column.accepts op then some (position, ⟨column.field, op⟩)
      else none
    | _, _ => none
  else none

/-- The places of the values of candidates, when `taken` places are taken already. -/
def slotsAfter (d : TableDef) : Nat → List Candidate → List (Option Nat)
  | _, [] => []
  | taken, c :: rest =>
    match d.accept? c with
    | some _ => some (taken + 1) :: slotsAfter d (taken + 1) rest
    | none => none :: slotsAfter d taken rest

/-- The names of the required columns at none of the given positions. -/
def missingColumns (d : TableDef) (positions : List Nat) : List String :=
  (d.columns.zipIdx.filter fun (c, position) =>
    !c.isAlias && c.isRequired && position ∉ positions).map fun (c, _) => c.field.name

/-- Whether a mask of read columns has the column at `index`. The last bit of the mask stands for
every column from 63 on. -/
def reads (used : BitVec 64) (index : Nat) : Bool :=
  used.getLsbD (min index 63)

/-- The fields with the data of the columns that are read. -/
def requestedColumns (d : TableDef) (used : BitVec 64) : FieldSet :=
  .ofList ((List.range d.columns.length).filterMap fun index =>
    if reads used index then (d.resolve? index).map fun (_, c) => c.field else none)

/-- The estimated cost of a scan, and its estimated number of rows: high without a constraint, and
the lower the more constraints there are. -/
def estimate (constraints : Nat) : Binary .float8 × Nat :=
  if constraints = 0 then (.ofInt .float8 1000000, 1000000)
  else (.ofRatio .float8 false 10 constraints, 10)

/-- Decides what the table does for a query with the given candidates that reads the given
columns. -/
def pushdown (d : TableDef) (candidates : List Candidate) (used : BitVec 64) :
    Except TableError Pushdown :=
  let accepted := candidates.filterMap d.accept?
  match d.missingColumns (accepted.map Prod.fst) with
  | [] =>
    .ok
      { constraints := accepted.map Prod.snd
        slots := d.slotsAfter 0 candidates
        requested := d.requestedColumns used
        cost := (estimate accepted.length).1
        rows := (estimate accepted.length).2 }
  | missing => .error (.missingConstraint d.name missing)

end TableDef

end VirtualTables
