/-!
# Diagnostics

A diagnostic reports a failure: a code and a message, possibly a label, a help text and notes. A
failure that follows from another one carries the reports of what caused it, nearest cause first;
so a diagnostic is a report together with the chain of reports behind it.
-/

namespace VirtualTables

/-- What is said about one failure. -/
structure Report where
  code : String
  message : String
  label : Option String
  help : Option String
  notes : List String
  deriving DecidableEq, Repr

/-- A report with the reports of its causes. -/
structure Diagnostic extends Report where
  causes : List Report
  deriving DecidableEq, Repr

namespace Diagnostic

/-- A diagnostic with a code and a message only. -/
def plain (code message : String) : Diagnostic :=
  { code, message, label := none, help := none, notes := [], causes := [] }

/-- The diagnostic with one more note. -/
def withNote (d : Diagnostic) (note : String) : Diagnostic :=
  { d with notes := d.notes ++ [note] }

/-- The diagnostic with the given cause in place of its own. -/
def withCause (d cause : Diagnostic) : Diagnostic :=
  { d with causes := cause.toReport :: cause.causes }

/-- The diagnostic without its cause. -/
def withoutCause (d : Diagnostic) : Diagnostic :=
  { d with causes := [] }

/-- The diagnostic of the nearest cause. -/
def cause? (d : Diagnostic) : Option Diagnostic :=
  match d.causes with
  | [] => none
  | report :: rest => some { report with causes := rest }

/-- The report and those of its causes. -/
def chain (d : Diagnostic) : List Report :=
  d.toReport :: d.causes

/-- The code and the message on one line, the form in which a diagnostic passes through an engine
that knows only texts. -/
def summary (d : Diagnostic) : String :=
  d.code ++ ": " ++ d.message

end Diagnostic

end VirtualTables
