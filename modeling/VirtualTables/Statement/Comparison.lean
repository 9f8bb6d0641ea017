import VirtualTables.Constraint
import VirtualTables.Engine.Affinity
import VirtualTables.Engine.Names
import VirtualTables.Engine.Order
import VirtualTables.Engine.Pattern

/-!
# Comparisons

Two values are compared in one of eight ways. Nothing is known of a comparison with null.
-/

namespace VirtualTables

/-- How two values are compared. -/
inductive Comparison where
  | eq
  | ne
  | lt
  | le
  | gt
  | ge
  | like
  | glob
  deriving DecidableEq, Repr

namespace Comparison

/-- A comparison as it is written. -/
def sql : Comparison → String
  | eq => "="
  | ne => "!="
  | lt => "<"
  | le => "<="
  | gt => ">"
  | ge => ">="
  | like => "LIKE"
  | glob => "GLOB"

/-- The comparison that is written in a certain way. -/
def ofSql? (text : String) : Option Comparison :=
  [eq, ne, lt, le, gt, ge, like, glob].find? (·.sql = text)

/-- The comparison with a pattern that calls a function of a certain name. -/
def ofFunction? (name : String) : Option Comparison :=
  [like, glob].find? fun c => EngineName.same c.sql name

/-- The operator under which a comparison is offered to a table. -/
def op? : Comparison → Option ConstraintOp
  | eq => some .eq
  | ne => none
  | lt => some .lt
  | le => some .le
  | gt => some .gt
  | ge => some .ge
  | like => some .like
  | glob => some .glob

/-- Whether the comparison is offered to a table only after others. -/
def isOfferedLate : Comparison → Bool
  | ne | like | glob => true
  | _ => false

/-- Whether the order of two values is one of those that a comparison asks for. -/
def admits : Comparison → Ordering → Bool
  | eq, .eq | ne, .lt | ne, .gt | lt, .lt | le, .lt | le, .eq | gt, .gt | ge, .gt | ge, .eq => true
  | _, _ => false

/-- Whether the text of a value matches a pattern. -/
def matches? (test : List Char → List Char → Bool) (value pattern : EngineValue) : Option Bool := do
  return test (← pattern.characters?) (← value.characters?)

/-- Whether two values compare in this way, when they are compared with an affinity. Patterns have
none. -/
def holds? (c : Comparison) (a : Option Affinity) (v w : EngineValue) : Option Bool :=
  match c with
  | like => matches? Pattern.like v w
  | glob => matches? Pattern.glob v w
  | c =>
    let (v, w) := Affinity.aligned a v w
    (v.compare? w).map c.admits

end Comparison

end VirtualTables
