import VirtualTables.Statement.Expression

/-!
# The values of expressions

What an expression stands for follows from the values of its columns and the results of its
functions. Truth is known or not: null counts as neither true nor false, and what is not known of a
part may still leave the whole known.

* `Operation.result` — the result of an operation on the values of its parts.
* `Expression.value` — the value of an expression.
-/

namespace VirtualTables

namespace Truth

/-- What is known of a disjunction. -/
def or : Option Bool → Option Bool → Option Bool
  | some true, _ | _, some true => some true
  | some false, some false => some false
  | _, _ => none

/-- What is known of a negation. -/
def not (a : Option Bool) : Option Bool :=
  a.map (!·)

/-- What is known of a conjunction. -/
def and (a b : Option Bool) : Option Bool :=
  not (or (not a) (not b))

end Truth

/-- Whether a value is one of a list, when it is compared with an affinity. A list of more than two
values is taken to the affinity before. -/
def isAmong? (a : Option Affinity) (v : EngineValue) (items : List EngineValue) : Option Bool :=
  let adapt := (a.map (·.ofChoice.adapt)).getD id
  let tests :=
    if items.length ≤ 2 then items.map (Comparison.eq.holds? a v)
    else items.map fun w => Comparison.eq.holds? none (adapt v) (adapt w)
  tests.foldl Truth.or (some false)

/-- A value that is taken to a kind, whatever it is. -/
def Affinity.cast (a : Affinity) (v : EngineValue) : EngineValue :=
  match a, v with
  | _, .null => .null
  | .number, v => (v.integer?.map .integer).getD .null
  | .real, v => (v.float?.map .real).getD .null
  | .text, v => (v.textBytes?.map .text).getD .null
  | .anything, v => (v.textBytes?.map .blob).getD .null

/-- The result of an operator on a value. -/
def UnaryOperator.result (v : EngineValue) : UnaryOperator → EngineValue
  | not => .ofTruth (Truth.not v.isTrue?)
  | negative => Arithmetic.subtract.apply (.ofInt 0) v
  | positive => v
  | complement => Arithmetic.subtract.apply (.ofInt (-1)) ((v.integer?.map .integer).getD .null)
  | isNull => .ofTruth (some (v = .null))

/-- The result of an operator on two values, which are compared with an affinity. -/
def BinaryOperator.result (a : Option Affinity) (v w : EngineValue) :
    BinaryOperator → EngineValue
  | or => .ofTruth (Truth.or v.isTrue? w.isTrue?)
  | and => .ofTruth (Truth.and v.isTrue? w.isTrue?)
  | is =>
    .ofTruth ((Comparison.eq.holds? a v w).or (some (v = .null && w = .null)))
  | compare c => .ofTruth (c.holds? a v w)
  | arithmetic how => how.apply v w
  | concatenate =>
    match v.textBytes?, w.textBytes? with
    | some b, some c => .text (b ++ c)
    | _, _ => .null

/-- The result of an operation that needs no column and no function, on values with affinities. -/
def Operation.result {κ φ : Type} (o : Operation κ φ) (affinities : List (Option Affinity))
    (values : List EngineValue) : EngineValue :=
  match o, affinities, values with
  | constant v, _, _ => v
  | integer n, _, _ => .ofInt n
  | unary how, _, [v] => how.result v
  | binary how, [a, b], [v, w] => how.result (Affinity.joint? a b) v w
  | among, a :: _, v :: items => .ofTruth (isAmong? a v items)
  | choose, _, [test, v, w] => if test.isTrue? = some true then v else w
  | cast a, _, [v] => a.cast v
  | _, _, _ => .null

namespace Expression

variable {κ φ : Type}

/-- The affinity of an expression, if it has one: that of a column or of a cast. -/
def affinity? (affinityOf : κ → Affinity) : Expression κ φ → Option Affinity
  | apply (.column c) _ => some (affinityOf c)
  | apply (.cast a) _ => some a
  | _ => none

/-- The value of a number without a sign with a sign before it. -/
def negated? : Expression κ φ → Option EngineValue
  | apply (.integer n) [] => some (.ofInt (-n))
  | apply (.constant (.real x)) [] => some (.real x.neg)
  | _ => none

/-- The value of an expression. The values of columns and the results of functions are known, or a
failure is. -/
def value {ε : Type} (affinityOf : κ → Affinity)
    (column : κ → Except ε EngineValue)
    (call : φ → List EngineValue → Except ε EngineValue) :
    Expression κ φ → Except ε EngineValue
  | apply o parts => do
    let values ← parts.mapM (value affinityOf column call)
    match o, parts.map negated? with
    | .column c, _ => column c
    | .call f, _ => call f values
    | .unary .negative, [some v] => return v
    | o, _ => return o.result (parts.map (affinity? affinityOf)) values

end Expression

end VirtualTables
