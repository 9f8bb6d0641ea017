import VirtualTables.Json.Printer
import VirtualTables.Json.Record
import VirtualTables.Table.Definition

/-!
# Summaries of tables

A summary tells what a table looks like to somebody who wants to query it, as one line of text or
as a JSON record. Reading the record back gives the summary again.
-/

namespace VirtualTables

/-- The summary of a column. -/
structure ColumnInfo where
  name : String
  type : DataType
  options : List String
  ops : List ConstraintOp
  description : String
  /-- The name of the column that an alias stands for. -/
  aliasOf : Option String
  deriving DecidableEq, Repr

/-- The summary of a table. -/
structure TableInfo where
  name : String
  columns : List ColumnInfo
  attributes : List String
  deriving DecidableEq, Repr

namespace ColumnInfo

/-- The summary of a column. That it is an alias shows in its target, not among its options. -/
def ofColumn (c : Column) : ColumnInfo :=
  { name := c.field.name
    type := c.field.type
    options := c.options.names.filter (· ≠ "ALIAS")
    ops := c.ops.toList
    description := c.description
    aliasOf := if c.isAlias then c.target.map (·.name) else none }

/-- A column on one line. -/
def text (c : ColumnInfo) : String :=
  match c.aliasOf with
  | some target => c.name ++ " -> " ++ target
  | none =>
    c.name ++ " " ++ c.type.label ++ String.join (c.options.map (" " ++ ·)) ++
      if c.ops = [] then "" else " [" ++ ",".intercalate (c.ops.map (·.label)) ++ "]"

/-- A column as a JSON record. -/
def toJson (c : ColumnInfo) : Json :=
  .record
    [("name", .text c.name),
      ("type", .text c.type.name),
      ("options", .array (c.options.map .text)),
      ("ops", .array (c.ops.map fun op => .text op.name)),
      ("description", .text c.description),
      ("alias_of", .textOrNull c.aliasOf)]

/-- The type that a JSON value names. -/
def readType? (j : Json) : Option DataType :=
  j.bareChoice?.bind DataType.ofName?

/-- The operator that a JSON value names. -/
def readOp? (j : Json) : Option ConstraintOp :=
  j.bareChoice?.bind ConstraintOp.ofName?

/-- The column that a JSON record describes. -/
def ofJson? (j : Json) : Option ColumnInfo := do
  match ← j.fields? ["name", "type", "options", "ops", "description", "alias_of"] with
  | [name, type, options, ops, description, aliasOf] =>
    some
      { name := ← Json.required Json.text? name
        type := ← Json.required readType? type
        options := ← Json.required (Json.list? Json.text?) options
        ops := ← Json.required (Json.list? readOp?) ops
        description := ← Json.required Json.text? description
        aliasOf := ← Json.optional Json.text? aliasOf }
  | _ => none

end ColumnInfo

namespace TableInfo

/-- The summary of a table. -/
def ofDef (d : TableDef) : TableInfo :=
  { name := d.name
    columns := d.columns.map .ofColumn
    attributes := d.attributes }

/-- A table on one line. -/
def text (t : TableInfo) : String :=
  t.name ++ "(" ++ ", ".intercalate (t.columns.map (·.text)) ++ ")"

/-- A table as a JSON record. -/
def toJson (t : TableInfo) : Json :=
  .record
    [("name", .text t.name),
      ("columns", .array (t.columns.map (·.toJson))),
      ("attributes", .array (t.attributes.map .text))]

/-- The table that a JSON record describes. -/
def ofJson? (j : Json) : Option TableInfo := do
  match ← j.fields? ["name", "columns", "attributes"] with
  | [name, columns, attributes] =>
    some
      { name := ← Json.required Json.text? name
        columns := ← Json.required (Json.list? ColumnInfo.ofJson?) columns
        attributes := ← Json.required (Json.list? Json.text?) attributes }
  | _ => none

/-- The table that a JSON text describes. -/
def parse? (text : String) : Option TableInfo :=
  (Json.parse? text).bind ofJson?

end TableInfo

end VirtualTables
