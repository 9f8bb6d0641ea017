import VirtualTables.Diagnostic.Basic
import VirtualTables.Json.Record

/-!
# Diagnostics in JSON

A diagnostic is a record of code, message, label, help, notes and cause; label, help and cause may
be missing. Each cause stands inside the record it belongs to. Documents may be nested 127 levels
deep, and the notes of a report stand one level below it, which leaves room for chains of 126
reports.
-/

namespace VirtualTables
namespace Diagnostic

/-- The greatest number of reports in a chain that is read. -/
def maxChain : Nat :=
  126

/-- The reports of a chain of at most the given length. -/
def chainOfJson? : Nat → Json → Option (Report × List Report)
  | 0, _ => none
  | n + 1, j => do
    match ← j.fields? ["code", "message", "label", "help", "notes", "cause"] with
    | [code, message, label, help, notes, cause] =>
      let report : Report :=
        { code := ← Json.required Json.text? code
          message := ← Json.required Json.text? message
          label := ← Json.optional Json.text? label
          help := ← Json.optional Json.text? help
          notes := ← Json.required (Json.list? Json.text?) notes }
      match ← Json.optional (chainOfJson? n) cause with
      | none => some (report, [])
      | some (nearest, rest) => some (report, nearest :: rest)
    | _ => none

/-- The diagnostic that a JSON value stands for. -/
def ofJson? (j : Json) : Option Diagnostic :=
  (chainOfJson? maxChain j).map fun (report, causes) => { report with causes }

/-- The diagnostic that a JSON text stands for. -/
def parse? (text : String) : Option Diagnostic :=
  (Json.parse? text).bind ofJson?

end Diagnostic
end VirtualTables
