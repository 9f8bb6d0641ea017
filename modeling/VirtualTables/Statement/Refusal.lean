/-!
# Statements that an engine refuses

An engine refuses a statement while it is prepared, or when it is started, and says why. Where the
fault is at a place in the statement, the statement and the place are part of the message; places
are counted in bytes.
-/

namespace VirtualTables

/-- Why an engine refuses a statement. -/
inductive Refusal where
  /-- The text holds no statement at all. -/
  | noStatement
  | syntaxError (token : String) (offset : Nat)
  | unknownToken (token : String) (offset : Nat)
  /-- The statement stops too early. -/
  | incomplete
  /-- The text holds more than one statement. -/
  | severalStatements
  | noTable (name : String)
  | noColumn (name : String) (offset : Nat)
  | noFunction (name : String) (offset : Nat)
  /-- The engine has a function of the name, but it was replaced by one that was removed since. -/
  | noLongerCallable (name : String) (offset : Nat)
  | tooManyArguments (name : String) (offset : Nat)
  /-- Several values stand where one is needed. -/
  | rowValue
  /-- Operations stand inside each other too deep. -/
  | tooDeep
  /-- All columns are asked for, and no column of the table is shown. -/
  | noShownColumn
  | tooManyColumns
  /-- The statement joins more rows than an engine takes. -/
  | tooManyRows
  /-- The statement joins rows of different lengths. -/
  | unequalRows
  /-- Every plan for the statement was refused. -/
  | noSolution
  /-- Values are needed for parameters, and none are given. -/
  | noParameters (needed : Nat)
  deriving DecidableEq, Repr

namespace Refusal

/-- How deep operations may stand inside each other. -/
def depthLimit : Nat :=
  1000

/-- The greatest number of columns of a table or a result. -/
def columnLimit : Nat :=
  2000

/-- The greatest number of arguments of a function. -/
def argumentLimit : Nat :=
  1000

/-- The greatest number of rows that a statement joins. -/
def rowLimit : Nat :=
  500

/-- A message about a place in a statement. -/
def atPlace (message sql : String) (offset : Nat) : String :=
  s!"{message} in {sql} at offset {offset}"

/-- The message about a statement. -/
def message (sql : String) : Refusal → String
  | noStatement => "bad parameter or other API misuse"
  | syntaxError token offset => atPlace ("near \"" ++ token ++ "\": syntax error") sql offset
  | unknownToken token offset => atPlace ("unrecognized token: \"" ++ token ++ "\"") sql offset
  | incomplete => "incomplete input"
  | severalStatements => "Multiple statements provided"
  | noTable name => "no such table: " ++ name
  | noColumn name offset => atPlace ("no such column: " ++ name) sql offset
  | noFunction name offset => atPlace ("no such function: " ++ name) sql offset
  | noLongerCallable name offset =>
    atPlace ("wrong number of arguments to function " ++ name ++ "()") sql offset
  | tooManyArguments name offset => atPlace ("too many arguments on function " ++ name) sql offset
  | rowValue => "row value misused"
  | tooDeep => s!"Expression tree is too large (maximum depth {depthLimit})"
  | noShownColumn => "no tables specified"
  | tooManyColumns => "too many columns in result set"
  | tooManyRows => "too many terms in compound SELECT"
  | unequalRows =>
    "SELECTs to the left and right of UNION ALL do not have the same number of result columns"
  | noSolution => "no query solution"
  | noParameters needed =>
    s!"Wrong number of parameters passed to query. Got 0, needed {needed}"

end Refusal

end VirtualTables
