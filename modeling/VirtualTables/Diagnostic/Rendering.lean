import VirtualTables.Diagnostic.Basic

/-!
# The text of a diagnostic

A report is rendered as a line with its code and message and, if it has them, a line for the label,
and for the help and every note an empty line and a line. Each cause follows after an empty line
and a line that announces it, indented by two more spaces. Only the first line of a text is
indented.
-/

namespace VirtualTables

/-- Two spaces for each level. -/
def indentation (depth : Nat) : String :=
  String.ofList (List.replicate (2 * depth) ' ')

/-- The lines of one report, indented by its depth in the chain of causes. -/
def Report.render (r : Report) (depth : Nat) : String :=
  let indent := indentation depth
  indent ++ "error[" ++ r.code ++ "]: " ++ r.message ++ "\n" ++
    (match r.label with
      | none => ""
      | some label => indent ++ " = " ++ label ++ "\n") ++
    (match r.help with
      | none => ""
      | some help => "\n" ++ indent ++ "help: " ++ help ++ "\n") ++
    String.join (r.notes.map fun note => "\n" ++ indent ++ "note: " ++ note ++ "\n")

namespace Diagnostic

/-- The announced causes of a report of the given depth. -/
def renderCauses : Nat → List Report → String
  | _, [] => ""
  | depth, r :: rest =>
    "\n" ++ indentation depth ++ "caused by:\n" ++ r.render (depth + 1) ++
      renderCauses (depth + 1) rest

/-- The text of a diagnostic. -/
def render (d : Diagnostic) : String :=
  d.toReport.render 0 ++ renderCauses 0 d.causes

end Diagnostic

end VirtualTables
