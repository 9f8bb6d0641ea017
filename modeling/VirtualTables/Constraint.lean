import VirtualTables.Field
import VirtualTables.Value.Basic

/-!
# Constraints

A constraint is a predicate that a query puts on a column: an operator and a value. Engines name
operators by codes; those that have one here are the operators a table can be asked to handle.
-/

namespace VirtualTables

/-- The operators that a table can be asked to handle, by ascending code. -/
inductive ConstraintOp where
  | eq
  | gt
  | le
  | lt
  | ge
  | matchText
  | like
  | glob
  | regex
  deriving DecidableEq, Repr

namespace ConstraintOp

/-- Every operator, by ascending code. -/
def all : List ConstraintOp :=
  [eq, gt, le, lt, ge, matchText, like, glob, regex]

/-- The code by which engines name the operator. -/
def code : ConstraintOp → Nat
  | eq => 2
  | gt => 4
  | le => 8
  | lt => 16
  | ge => 32
  | matchText => 64
  | like => 65
  | glob => 66
  | regex => 67

/-- The operator with the given code. -/
def ofCode? (code : Nat) : Option ConstraintOp :=
  all.find? (·.code = code)

/-- The name of the operator in written records. -/
def name : ConstraintOp → String
  | eq => "Eq"
  | gt => "Gt"
  | le => "Le"
  | lt => "Lt"
  | ge => "Ge"
  | matchText => "Match"
  | like => "Like"
  | glob => "Glob"
  | regex => "Regex"

/-- The operator with the given name in written records. -/
def ofName? (name : String) : Option ConstraintOp :=
  all.find? (·.name = name)

/-- The name of the operator in messages. -/
def label : ConstraintOp → String
  | eq => "EQ"
  | gt => "GT"
  | le => "LE"
  | lt => "LT"
  | ge => "GE"
  | matchText => "MATCH"
  | like => "LIKE"
  | glob => "GLOB"
  | regex => "REGEX"

/-- Operators by ascending code. -/
def sort (ops : List ConstraintOp) : List ConstraintOp :=
  ops.mergeSort fun a b => a.code ≤ b.code

end ConstraintOp

/-- A set of operators: its members by ascending code. -/
structure OpSet where
  toList : List ConstraintOp
  ordered : toList.Pairwise fun a b => a.code < b.code
  deriving DecidableEq

namespace OpSet

/-- The set of the operators of a list. -/
def ofList (ops : List ConstraintOp) : OpSet where
  toList := ConstraintOp.all.filter (· ∈ ops)
  ordered := List.Pairwise.filter _ (by decide)

instance : Membership ConstraintOp OpSet :=
  ⟨fun s op => op ∈ s.toList⟩

instance (op : ConstraintOp) (s : OpSet) : Decidable (op ∈ s) :=
  inferInstanceAs (Decidable (op ∈ s.toList))

end OpSet

/-- A predicate on a column: its field, an operator and a value. -/
structure Constraint where
  field : Field
  op : ConstraintOp
  value : Value
  deriving DecidableEq

namespace Constraint

/-- Whether the constraint is on the given field with the given operator. -/
def isOn (c : Constraint) (field : Field) (op : ConstraintOp) : Bool :=
  c.field = field && c.op = op

/-- Equality of constraints as queries see it. -/
def equal (a b : Constraint) : Bool :=
  a.field = b.field && a.op = b.op && a.value.equal b.value

end Constraint

end VirtualTables
