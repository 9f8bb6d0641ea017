import VirtualTables.Statement.Comparison
import VirtualTables.Statement.Literal

/-!
# Conditions on columns

A condition compares a column with a literal, or asks for one of several literals.
-/

namespace VirtualTables

/-- A condition of a scan; columns are named. -/
inductive Condition where
  | compare (column : String) (how : Comparison) (value : Literal)
  | among (column : String) (values : List Literal)
  deriving DecidableEq

/-- A condition as it is written. -/
def Condition.sql : Condition → String
  | compare column how value => quotedName column ++ " " ++ how.sql ++ " " ++ value.sql
  | among column values =>
    quotedName column ++ " IN (" ++ ", ".intercalate (values.map (·.sql)) ++ ")"

end VirtualTables
