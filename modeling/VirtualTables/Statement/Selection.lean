import VirtualTables.Statement.Expression

/-!
# Selections

A selection gives results: the values of expressions, or all columns of a table. It may take the
rows of a table, and of these the ones that meet a condition. In a selection that was only read,
columns and functions are names with the places where they stand.
-/

namespace VirtualTables
namespace Statement

/-- The name of a column, after the names of what it belongs to, at a place. -/
structure ColumnName where
  owners : List String
  name : String
  place : Nat
  /-- Whether it is a text if there is no such column. -/
  isText : Bool
  deriving DecidableEq, Repr

/-- The name of a function at a place. -/
structure FunctionName where
  name : String
  place : Nat
  deriving DecidableEq, Repr

/-- An expression whose names are not resolved. -/
abbrev Phrase := Expression ColumnName FunctionName

/-- What stands above the values of an expression. -/
inductive Heading where
  /-- The label that the expression is given. -/
  | label (s : String)
  /-- The text of an expression without a label. -/
  | text (s : String)
  deriving DecidableEq, Repr

/-- What a selection gives. -/
inductive ResultColumn where
  /-- All columns of the table. -/
  | all
  | expression (e : Phrase) (heading : Heading)

/-- The name of a table, and the label that it is given. -/
structure TableName where
  owner : Option String
  name : String
  label : Option String
  deriving DecidableEq, Repr

/-- A selection. -/
structure Selection where
  results : List ResultColumn
  source : Option TableName
  condition : Option Phrase

/-- The names of the parameters in a selection. -/
def Selection.parameters (s : Selection) : List String :=
  (s.results.flatMap fun
    | .all => []
    | .expression e _ => e.parameters) ++ (s.condition.map (·.parameters)).getD []

end Statement
end VirtualTables
