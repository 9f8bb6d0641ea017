import VirtualTables.Function.Basic
import VirtualTables.Table.Summary

/-!
# Summaries of functions

A summary tells how a function is called, as one line of text or as a JSON record.
-/

namespace VirtualTables

/-- The summary of a function. -/
structure FunctionInfo where
  name : String
  args : List DataType
  deriving DecidableEq, Repr

namespace FunctionInfo

/-- The summary of a function. -/
def ofFunction (f : ScalarFunction) : FunctionInfo :=
  { name := f.name, args := f.expected }

/-- A function on one line. -/
def text (f : FunctionInfo) : String :=
  f.name ++ "(" ++ ", ".intercalate (f.args.map (·.label)) ++ ")"

/-- A function as a JSON record. -/
def toJson (f : FunctionInfo) : Json :=
  .record [("name", .text f.name), ("args", .array (f.args.map fun t => .text t.name))]

/-- The function that a JSON record describes. -/
def ofJson? (j : Json) : Option FunctionInfo := do
  match ← j.fields? ["name", "args"] with
  | [name, args] =>
    some
      { name := ← Json.required Json.text? name
        args := ← Json.required (Json.list? ColumnInfo.readType?) args }
  | _ => none

/-- The function that a JSON text describes. -/
def parse? (text : String) : Option FunctionInfo :=
  (Json.parse? text).bind ofJson?

end FunctionInfo

end VirtualTables
