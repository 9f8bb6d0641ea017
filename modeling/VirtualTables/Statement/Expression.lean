import VirtualTables.Engine.Arithmetic
import VirtualTables.Statement.Comparison

/-!
# Expressions

An expression applies an operation to other expressions. Columns and functions are of types that are
left open: in a statement that was only read they are names with places, and once the names are
resolved they are the columns of a table and functions that can be called.

* `Expression κ φ` — an expression with columns of type `κ` and functions of type `φ`.
* `Expression.both` — a conjunction; one with a false side is false at once.
* `Expression.mapM` — the expression with every operation changed.
-/

namespace VirtualTables

/-- What is done with one value. -/
inductive UnaryOperator where
  | not
  | negative
  | positive
  /-- The integer with all bits turned. -/
  | complement
  | isNull
  deriving DecidableEq, Repr

/-- What is done with two values. -/
inductive BinaryOperator where
  | or
  | and
  /-- Equality for which null is a value like others. -/
  | is
  | compare (c : Comparison)
  | arithmetic (a : Arithmetic)
  | concatenate
  deriving DecidableEq, Repr

/-- What an expression does with its parts. -/
inductive Operation (κ φ : Type) where
  | constant (v : EngineValue)
  /-- An integer without a sign, which may be too large for one. -/
  | integer (n : Nat)
  | parameter (name : String)
  | column (c : κ)
  | call (f : φ)
  /-- Several values in a row, which are no value. -/
  | tuple
  | unary (o : UnaryOperator)
  | binary (o : BinaryOperator)
  /-- Whether the first part is one of the others. -/
  | among
  /-- The second part where the first is true, and else the third. -/
  | choose
  | cast (a : Affinity)

namespace Operation

variable {κ φ : Type}

/-- Whether an operation calls a function. -/
def isCall : Operation κ φ → Bool
  | call _ => true
  | _ => false

end Operation

/-- An operation with the expressions it is applied to. -/
inductive Expression (κ φ : Type) where
  | apply (o : Operation κ φ) (parts : List (Expression κ φ))

namespace Expression

variable {κ φ κ' φ' : Type}

/-- A value as it stands. -/
def constant (v : EngineValue) : Expression κ φ :=
  apply (.constant v) []

/-- The result of an operator on one expression. -/
def unary (o : UnaryOperator) (e : Expression κ φ) : Expression κ φ :=
  apply (.unary o) [e]

/-- The result of an operator on two expressions. -/
def binary (o : BinaryOperator) (d e : Expression κ φ) : Expression κ φ :=
  apply (.binary o) [d, e]

/-! ## Looking at expressions -/

/-- All operations of an expression, each before those of its parts. -/
def operations : Expression κ φ → List (Operation κ φ)
  | apply o parts => o :: parts.flatMap operations

/-- The columns of an expression. -/
def columns (e : Expression κ φ) : List κ :=
  e.operations.filterMap fun
    | .column c => some c
    | _ => none

/-- Whether an expression has a value by itself: it has no column and calls no function. -/
def isConstant (e : Expression κ φ) : Bool :=
  e.operations.all fun
    | .column _ | .call _ => false
    | _ => true

/-- The names of the parameters of an expression. -/
def parameters (e : Expression κ φ) : List String :=
  e.operations.filterMap fun
    | .parameter name => some name
    | _ => none

/-- How deep operations stand inside each other. -/
def depth : Expression κ φ → Nat
  | apply _ parts => (parts.map depth).foldl max 0 + 1

/-- Whether an expression is written as a number that is false. -/
def isFalse : Expression κ φ → Bool
  | apply (.integer 0) [] => true
  | _ => false

/-- A conjunction. It is false at once if one side is, unless one of them calls a function. -/
def both (d e : Expression κ φ) : Expression κ φ :=
  if (d.isFalse || e.isFalse) && !(d.operations ++ e.operations).any (·.isCall) then
    apply (.integer 0) []
  else binary .and d e

/-- The expressions that are all asked for by a conjunction. -/
def conjuncts : Expression κ φ → List (Expression κ φ)
  | apply (.binary .and) [d, e] => d.conjuncts ++ e.conjuncts
  | e => [e]

/-- Changes every operation of an expression; the first change that fails is the answer. -/
def mapM {ε : Type} (change : Operation κ φ → Except ε (Operation κ' φ')) :
    Expression κ φ → Except ε (Expression κ' φ')
  | apply o parts => do
    let o ← change o
    let parts ← parts.mapM (mapM change)
    return apply o parts

/-- Changes every operation of an expression. -/
def map (change : Operation κ φ → Operation κ' φ') : Expression κ φ → Expression κ' φ'
  | apply o parts => apply (change o) (parts.map (map change))

end Expression

end VirtualTables
