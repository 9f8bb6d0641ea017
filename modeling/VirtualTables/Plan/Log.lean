import VirtualTables.Diagnostic.Basic

/-!
# The log of refused plans

An engine drops the message of a refused plan and tries another one. The refusals are recorded here
while a statement is prepared, each once, and reported if no plan is left in the end.
-/

namespace VirtualTables

/-- The refusals recorded so far, in order. -/
structure PlanningLog where
  entries : List Diagnostic
  deriving DecidableEq, Repr

namespace PlanningLog

/-- Nothing recorded. -/
def empty : PlanningLog :=
  ⟨[]⟩

/-- The log with one more diagnostic, unless it holds the same one already. -/
def record (l : PlanningLog) (d : Diagnostic) : PlanningLog :=
  if d ∈ l.entries then l else ⟨l.entries ++ [d]⟩

/-- Takes all diagnostics out of the log. -/
def drain (l : PlanningLog) : List Diagnostic × PlanningLog :=
  (l.entries, empty)

/-- The number of diagnostics in the log. -/
def size (l : PlanningLog) : Nat :=
  l.entries.length

end PlanningLog

end VirtualTables
