import VirtualTables.Constraint
import VirtualTables.Database.Resolution
import VirtualTables.Plan.Pushdown

/-!
# The terms of a condition

The condition of a scan is a conjunction of terms. A term that compares a column with constants is
a demand, which can be offered to the table. A term that asks for equality with a constant fixes the
column in the other terms; a term whose columns are all fixed is settled before the scan, and not
tested on the rows.

* `Demand` — what a term asks of a column.
* `Formula.settleColumns` — the terms after columns were fixed.
* `Term.offered` — the terms that are offered to a table, in the order of the offer.
* `Term.rounds` — the ways to ask the table for the terms that it accepts.
-/

namespace VirtualTables

namespace Formula

/-- Whether no row matters for a formula: all its columns are fixed. -/
def isSettled (f : Formula) : Bool :=
  f.columns.all (·.fixed.isSome)

/-! ## Fixing columns -/

/-- A column that a term makes equal to a constant, and the constant. -/
def equality? : Formula → Option (ScannedColumn × EngineValue)
  | .apply (.binary (.compare .eq)) [.apply (.column c) _, e] =>
    if e.isConstant && (e.affinity? ScannedColumn.affinity).isNone then
      (valueAlone e).toOption.map (c, ·)
    else none
  | _ => none

/-- The columns that terms fix, each with the number of its term. The terms are looked at from the
last to the first, and the first one found for a column counts. -/
def equalities (terms : List Formula) : List (Nat × ScannedColumn × EngineValue) :=
  (terms.zipIdx.filterMap fun (f, index) => f.equality?.map fun (c, v) => (index, c, v)).foldr
    (fun found sofar =>
      if sofar.any (·.2.1.position = found.2.1.position) then sofar else sofar ++ [found])
    []

/-- Whether an operation compares two values by their order, or for equality. -/
def comparesOrder : Operation ScannedColumn Callee → Bool
  | .binary .is => true
  | .binary (.compare c) => !c.isOfferedLate
  | _ => false

/-- Fixes columns of a formula. A column that takes anything is fixed only where it is compared;
`isCompared` tells whether the formula is. -/
def fixColumns (fix : ScannedColumn → ScannedColumn) (isCompared : Bool) : Formula → Formula
  | .apply (.column c) parts =>
    .apply (.column (if isCompared || c.affinity ≠ .anything then fix c else c)) parts
  | .apply o parts => .apply o (parts.map (fixColumns fix (comparesOrder o)))

/-- The terms of a conjunction after columns were fixed. A term does not fix its own column. -/
def settleColumns (terms : List Formula) : List Formula :=
  let found := equalities terms
  terms.zipIdx.map fun (f, index) =>
    f.fixColumns
      (fun c =>
        match found.find? fun (i, d, _) => i ≠ index && d.position = c.position with
        | some (_, _, v) => { c with fixed := some v }
        | none => c)
      false

end Formula

/-! ## Demands -/

/-- What a term asks of a column: that it compares with a value, or is equal to one of several. -/
structure Demand where
  column : ScannedColumn
  how : Comparison
  values : List EngineValue

namespace Demand

/-- The values of constants. -/
def constants? (es : List Formula) : Option (List EngineValue) :=
  es.mapM fun e => if e.isConstant then e.valueAlone.toOption else none

/-- What a formula asks of a column. -/
def ofFormula? : Formula → Option Demand
  | .apply (.binary (.compare how)) [.apply (.column c) _, e] =>
    (constants? [e]).map fun values => { column := c, how, values }
  | .apply (.call f) [e, .apply (.column c) _] => do
    let how ← Comparison.ofFunction? f.name
    let values ← constants? [e]
    return { column := c, how, values }
  | .apply .among (.apply (.column c) _ :: items) =>
    (constants? items).map fun values => { column := c, how := .eq, values }
  | _ => none

/-- Whether one of several values is asked for. -/
def hasChoice (d : Demand) : Bool :=
  1 < d.values.length

/-- The candidate that a demand is offered as. -/
def candidate (d : Demand) : Candidate :=
  { column := d.column.position.elim (-1) fun position => position
    op := d.how.op?
    usable := true }

/-- The values for which a table is asked when it accepts a demand. Those of a choice are taken to
the affinity of the column. -/
def askedValues (d : Demand) : List EngineValue :=
  if d.hasChoice then
    EngineValue.ascending (d.values.map d.column.affinity.ofChoice.adapt)
  else d.values

end Demand

/-! ## Terms -/

/-- A term of a condition, with its demand. -/
structure Term where
  /-- The number of the term in the condition. -/
  place : Nat
  formula : Formula
  demand : Option Demand
  /-- Whether the table handles the demand. -/
  accepted : Bool

/-- A term with the value that the table is asked for, if the table handles the term. -/
structure BoundTerm where
  term : Term
  asked : Option EngineValue

namespace Term

/-- The term at a place, which was not offered yet. -/
def ofFormula (place : Nat) (f : Formula) : Term :=
  { place, formula := f, demand := Demand.ofFormula? f, accepted := false }

/-- The terms of a condition. -/
def ofCondition (condition : Option Formula) : List Term :=
  let terms := (condition.map (·.conjuncts)).getD []
  (Formula.settleColumns terms).zipIdx.map fun (f, place) => ofFormula place f

/-- Whether one of several values is asked for. -/
def hasChoice (t : Term) : Bool :=
  t.demand.any (·.hasChoice)

/-- Terms in the order in which the condition has them. -/
def inOrder (terms : List Term) : List Term :=
  terms.mergeSort (·.place ≤ ·.place)

/-- The terms that are offered, in the order of the offer: patterns and inequalities come after the
others, the last of them first. -/
def offered (terms : List Term) : List Term :=
  let demands := terms.filter (·.demand.isSome)
  let isLate (t : Term) := t.demand.any (·.how.isOfferedLate)
  demands.filter (!isLate ·) ++ (demands.filter isLate).reverse

/-- The candidates that terms are offered as. -/
def candidates (terms : List Term) : List Candidate :=
  terms.filterMap fun t => t.demand.map (·.candidate)

/-- The ways to ask for a term. -/
def bindings (t : Term) : List BoundTerm :=
  match t.demand with
  | some d => if t.accepted then d.askedValues.map fun v => ⟨t, some v⟩ else [⟨t, none⟩]
  | none => [⟨t, none⟩]

/-- The ways to ask for terms together; that of the first term changes last. -/
def rounds : List Term → List (List BoundTerm)
  | [] => [[]]
  | t :: rest => t.bindings.flatMap fun b => (rounds rest).map (b :: ·)

end Term

namespace BoundTerm

/-- Terms in the order in which a row is tested: first the choice that the table is asked for, then
the terms as the condition has them. -/
def inOrder (terms : List BoundTerm) : List BoundTerm :=
  let (chosen, others) := terms.partition fun b => b.term.hasChoice && b.asked.isSome
  chosen ++ others.mergeSort (·.term.place ≤ ·.term.place)

/-- What is tested on every row: that a column has the value it was asked for, if there was a
choice, and else the term itself. A settled term is not tested again. -/
def holdsWith (column : Option Nat → Except String EngineValue) (b : BoundTerm) :
    Except String Bool :=
  match b.term.demand.filter (·.hasChoice), b.asked with
  | some d, some asked =>
    (Formula.valueWith column (.apply (.column d.column) [])).map fun v =>
      Comparison.eq.holds? (some d.column.affinity) v asked = some true
  | _, _ => if b.term.formula.isSettled then .ok true else b.term.formula.holdsWith column

end BoundTerm

end VirtualTables
