import VirtualTables.Diagnostic.Basic

/-!
# Failures of the library itself

An internal error says that an invariant was broken and where; a failed statement says which
statement the engine refused and why.
-/

namespace VirtualTables

/-- The version of the library, which internal errors report. -/
def version : String :=
  "0.1.0"

/-- A place in the source of a program. -/
structure SourcePlace where
  file : String
  line : Nat
  column : Nat
  function : String
  module : String
  deriving DecidableEq, Repr

/-- The place reported when none is known. -/
def SourcePlace.unknown : SourcePlace :=
  { file := "unknown", line := 0, column := 0, function := "unknown", module := "unknown" }

namespace Diagnostic

/-- An internal error at a given place. -/
def internalAt (reason : String) (place : SourcePlace) : Diagnostic :=
  let location := s!"{place.file}:{place.line}:{place.column}"
  { code := "INTERNAL_ERROR"
    message := "Internal error: " ++ reason
    label := some ("Internal invariant violated at " ++ location)
    help := some ("This is an internal error that should never occur in normal operation.\n" ++
      "Location: " ++ location ++ "\nFunction: " ++ place.function ++ "\nModule: " ++
      place.module ++ "\nVersion: " ++ version)
    notes := ["Error occurred in function: " ++ place.function]
    causes := [] }

/-- An internal error at a place that is not known. -/
def internal (reason : String) : Diagnostic :=
  internalAt reason .unknown

/-- A statement that the engine refused, or that failed while it ran. -/
def statementFailed (sql reason : String) : Diagnostic :=
  { code := "QUERY_001"
    message := "Statement failed: " ++ reason
    label := some sql
    help := none
    notes := []
    causes := [] }

end Diagnostic

end VirtualTables
