import VirtualTables.Diagnostic.Internal
import VirtualTables.Table.Error

/-!
# Failures of the adapter

The adapter fails with a failure of its table, or because the engine calls it out of turn. An engine
sees only the summary of a failure.

The values of constraints are read by the library that the adapter talks to the engine through. If
it cannot read one, the adapter passes its failure on; so there is no diagnostic for it.
-/

namespace VirtualTables

/-- A failure between an engine and a table. -/
inductive AdapterError where
  | table (e : TableError)
  /-- The engine connects without a table. -/
  | unbound
  /-- A cursor is moved on before it was filtered. -/
  | notFiltered
  /-- The value for a constraint is a text that is not well-formed. The constraints of a plan are
  counted from zero. -/
  | unreadable (slot : Nat)
  deriving DecidableEq, Repr

namespace AdapterError

/-- The failure as a diagnostic. For a value that it cannot read the library has a text of its own,
which goes on to say what is wrong with the bytes; that part is left out. -/
def report : AdapterError → Except String Diagnostic
  | table e => .ok e.diagnostic
  | unbound => .ok (.internal "virtual table module registered without a table")
  | notFiltered => .ok (.internal "cursor advanced before filter")
  | unreadable slot => .error s!"Conversion error from type Text at index: {slot}"

/-- A text with a sign that shows in place of every NUL. -/
def withoutNul (text : String) : String :=
  text.map fun c => if c = '\x00' then '␀' else c

/-- What the engine is told. -/
def summary (e : AdapterError) : String :=
  match e.report with
  | .ok d => withoutNul d.summary
  | .error text => text

end AdapterError

end VirtualTables
