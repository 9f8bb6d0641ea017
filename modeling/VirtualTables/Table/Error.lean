import VirtualTables.Diagnostic.Basic

/-!
# Failures of tables

What can go wrong between an engine and a table, from the definition of the table to the rows it
produces. Each failure has a message, and a diagnostic that adds to it.
-/

namespace VirtualTables

/-- A failure that concerns a table. -/
inductive TableError where
  /-- A plan leaves required columns without a constraint. -/
  | missingConstraint (table : String) (missing : List String)
  /-- The rows of a plan are asked for that is not retained. -/
  | unknownPlan (table : String) (plan : Int)
  /-- The number of values is not the number of constraints of the plan. -/
  | valueCount (table : String) (expected actual : Nat)
  /-- The table itself reported a failure. -/
  | tableFailed (table reason : String)
  /-- The definition of the table is contradictory. -/
  | invalidDefinition (table reason : String)
  /-- A column is read that the table does not have. -/
  | columnOutOfRange (table : String) (column : Int) (count : Nat)
  /-- A table of the same name is registered. -/
  | alreadyRegistered (table : String)
  /-- No table of the name is registered. -/
  | unknownTable (table : String)
  deriving DecidableEq, Repr

namespace TableError

/-- What happened, on one line. -/
def message : TableError → String
  | missingConstraint table _ => s!"missing required constraint on table {table}"
  | unknownPlan table plan => s!"unknown plan {plan} for table {table}"
  | valueCount table expected actual =>
    s!"table {table} received {actual} constraint values, plan expects {expected}"
  | tableFailed table reason => s!"table {table} failed: {reason}"
  | invalidDefinition table reason => s!"invalid definition for table {table}: {reason}"
  | columnOutOfRange table column _ => s!"column {column} out of range for table {table}"
  | alreadyRegistered table => s!"table {table} is already registered"
  | unknownTable table => s!"table {table} is not registered"

/-- The code of each kind of failure. -/
def code : TableError → String
  | missingConstraint .. => "VTAB_001"
  | unknownPlan .. => "VTAB_002"
  | valueCount .. => "VTAB_003"
  | tableFailed .. => "VTAB_004"
  | invalidDefinition .. => "VTAB_005"
  | columnOutOfRange .. => "VTAB_006"
  | alreadyRegistered .. => "VTAB_007"
  | unknownTable .. => "VTAB_008"

/-- The line below the message. -/
def label? : TableError → Option String
  | missingConstraint table missing =>
    some (table ++ " requires a constraint on " ++ ", ".intercalate missing)
  | unknownPlan _ plan => some s!"plan {plan} was evicted or never minted"
  | valueCount .. => some "constraint slot count mismatch"
  | tableFailed .. => some "table reported an execution error"
  | invalidDefinition .. => some "invalid table definition"
  | columnOutOfRange _ _ count => some s!"table declares {count} columns"
  | alreadyRegistered _ | unknownTable _ => none

/-- What to do about the failure, where that can be said. -/
def help? : TableError → Option String
  | missingConstraint table missing =>
    some ("Filter " ++ table ++ " by " ++ ", ".intercalate missing ++
      " using one of its supported operators")
  | invalidDefinition .. =>
    some "Alias columns must point at a non-alias column of the same table"
  | alreadyRegistered table => some s!"Remove {table} before registering it again"
  | _ => none

/-- Further remarks. -/
def notes : TableError → List String
  | missingConstraint .. => ["Required columns cannot be scanned without a constraint"]
  | unknownPlan table _ => [s!"Planning and row fetch for {table} are out of sync"]
  | _ => []

/-- The failure as a diagnostic. -/
def diagnostic (e : TableError) : Diagnostic :=
  { code := e.code
    message := e.message
    label := e.label?
    help := e.help?
    notes := e.notes
    causes := [] }

end TableError

end VirtualTables
