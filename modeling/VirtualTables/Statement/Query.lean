import VirtualTables.Statement.Condition

/-!
# Queries

A query is a statement that gives rows: a list of rows written out, a call of a function, a scan of
a table under conditions, or a text of which nothing is known in advance. An engine is given the
text of a query and knows nothing else of it.
-/

namespace VirtualTables

/-- A scan of one table. -/
structure TableScan where
  table : String
  /-- The names of the columns asked for; all columns when there is no list. -/
  columns : Option (List String)
  conditions : List Condition
  deriving DecidableEq

/-- A statement that gives rows. -/
inductive Query where
  /-- Rows written out, with the names of their columns. -/
  | rows (names : List String) (rows : List (List Literal))
  /-- A call of a function. -/
  | call (function : String) (args : List Literal)
  | scan (s : TableScan)
  | text (sql : String)
  deriving DecidableEq

/-- A scan as it is written. -/
def TableScan.sql (s : TableScan) : String :=
  "SELECT " ++ s.columns.elim "*" (fun names => ", ".intercalate (names.map quotedName)) ++
    " FROM " ++ s.table ++
    if s.conditions = [] then ""
    else " WHERE " ++ " AND ".intercalate (s.conditions.map (·.sql))

namespace Query

/-- The name of the one column of a call. -/
def callName : String :=
  "val"

/-- A row as it is written. -/
def rowSql (names : List String) (row : List Literal) : String :=
  "SELECT " ++ ", ".intercalate
    (List.zipWith (fun literal name => literal.sql ++ " AS " ++ quotedName name) row names)

/-- A query as it is written. -/
def sql : Query → String
  | rows names rs => " UNION ALL ".intercalate (rs.map (rowSql names))
  | call function args =>
    "SELECT " ++ function ++ "(" ++ ", ".intercalate (args.map (·.sql)) ++ ") AS " ++ callName
  | scan s => s.sql
  | text sql => sql

end Query

end VirtualTables
