import VirtualTables.Database.Basic
import VirtualTables.Statement.Evaluation
import VirtualTables.Statement.Selection

/-!
# Resolving names

The names in an expression stand for the columns of the table that a statement scans and for
functions that can be called. A table without a primary key has one more column that is never
declared, the number of the row.

* `Formula` — an expression with resolved names.
* `Database.resolve` — resolves the names of an expression, or refuses the first one that stands for
  nothing.
-/

namespace VirtualTables

/-- A column of a scanned table. -/
structure ScannedColumn where
  /-- The position of the column; there is none for the number of the row. -/
  position : Option Nat
  affinity : Affinity
  /-- The value that a condition leaves to the column. -/
  fixed : Option EngineValue
  deriving DecidableEq

/-- A function that a statement calls. -/
inductive Callee where
  | function (f : ScalarFunction)
  /-- The engine's own test of a value, given after a pattern. -/
  | pattern (how : Comparison)

/-- An expression with resolved names. -/
abbrev Formula := Expression ScannedColumn Callee

/-- What a statement can name: the columns of a table that is known by a name. -/
structure Scope where
  owner : String
  definition : TableDef

namespace Scope

/-- The names of the number of a row. -/
def rowNames : List String :=
  ["rowid", "oid", "_rowid_"]

/-- The column at a position. -/
def columnAt (s : Scope) (position : Nat) : ScannedColumn :=
  let d := s.definition
  { position := some position
    affinity := .ofType ((d.column? position).elim .undefined (d.declaredType position))
    fixed := none }

/-- Whether the owners before the name of a column stand for the table. -/
def isOwnedBy (s : Scope) : List String → Bool
  | [] => true
  | [table] => EngineName.same s.owner table
  | [schema, table] => EngineName.same "temp" schema && EngineName.same s.owner table
  | _ => false

/-- The column of a name. -/
def column? (s : Scope) (c : Statement.ColumnName) : Option ScannedColumn :=
  if !s.isOwnedBy c.owners then none
  else
    match s.definition.columns.findIdx? fun d => EngineName.same d.declaredName c.name with
    | some position => some (s.columnAt position)
    | none =>
      if !s.definition.hasKey && rowNames.any (EngineName.same c.name) then
        some { position := none, affinity := .number, fixed := none }
      else none

/-- The name above the values of a column. -/
def heading (s : Scope) (c : ScannedColumn) : String :=
  (c.position.bind fun position => (s.definition.column? position).map (·.declaredName)).getD
    "rowid"

end Scope

/-- What a call gives an engine: the value of its result, or the message of its failure. An engine
takes no message with a NUL, and gives one of its own then. -/
def ScalarFunction.invoke (f : ScalarFunction) (args : List EngineValue) :
    Except String EngineValue :=
  match f.call (args.map (·.toValue)) with
  | .ok value => .ok (.ofValue value)
  | .error d =>
    .error (if (EngineName.nulRefusal? d.summary).isSome then "constraint failed" else d.summary)

namespace Callee

/-- The name that a function is called by. -/
def name : Callee → String
  | function f => f.name
  | pattern how => how.sql

/-- The result of a call. -/
def invoke : Callee → List EngineValue → Except String EngineValue
  | function f, args => f.invoke args
  | pattern how, [p, v] => .ok (.ofTruth (how.holds? none v p))
  | pattern _, _ => .ok .null

end Callee

/-- The value of a formula, where the values of columns are known. A fixed column has its value as a
column of its affinity has it. -/
def Formula.valueWith (column : Option Nat → Except String EngineValue) (f : Formula) :
    Except String EngineValue :=
  f.value (·.affinity)
    (fun c =>
      match c.fixed with
      | some v => .ok (c.affinity.adapt v)
      | none => column c.position)
    Callee.invoke

/-- Whether a value that is known, or a failure, makes a condition hold. -/
def Formula.holdsWith (column : Option Nat → Except String EngineValue) (f : Formula) :
    Except String Bool :=
  (f.valueWith column).map fun v => v.isTrue? = some true

/-- The value of a formula without columns, or with none that is not fixed. -/
def Formula.valueAlone (f : Formula) : Except String EngineValue :=
  f.valueWith fun _ => .ok .null

namespace Database

variable {τ σ : Type}

/-- The function that a name stands for. Of the engine's own functions only the tests of patterns
are called, and these only if none was ever registered under the name. -/
def callee (db : Database τ σ) (f : Statement.FunctionName) : Except Refusal Callee :=
  match db.functionNamed? f.name, Comparison.ofFunction? f.name with
  | some function, _ => .ok (.function function)
  | none, how =>
    if db.isReplaced f.name && OwnFunction.isKnown f.name then
      .error (.noLongerCallable f.name f.place)
    else (how.map fun c => .ok (.pattern c)).getD (.error (.noFunction f.name f.place))

/-- Resolves the names in an operation. Several values in a row are no value. -/
def resolveOperation (db : Database τ σ) (scope : Option Scope) :
    Operation Statement.ColumnName Statement.FunctionName →
      Except Refusal (Operation ScannedColumn Callee)
  | .column c =>
    match scope.bind (·.column? c) with
    | some column => .ok (.column column)
    | none =>
      if c.isText then .ok (.constant (.text (Utf8.encode c.name.toList)))
      else .error (.noColumn (".".intercalate (c.owners ++ [c.name])) c.place)
  | .call f => (db.callee f).map .call
  | .tuple => .error .rowValue
  | .constant v => .ok (.constant v)
  | .integer n => .ok (.integer n)
  | .parameter name => .ok (.parameter name)
  | .unary o => .ok (.unary o)
  | .binary o => .ok (.binary o)
  | .among => .ok .among
  | .choose => .ok .choose
  | .cast a => .ok (.cast a)

/-- Resolves the names in an expression. -/
def resolve (db : Database τ σ) (scope : Option Scope) (e : Statement.Phrase) :
    Except Refusal Formula :=
  e.mapM (db.resolveOperation scope)

end Database

end VirtualTables
