import VirtualTables.Database.Fetch
import VirtualTables.Database.Terms

/-!
# Scanning a table

A scan is planned while it is prepared: the table is offered every demand of the condition, and is
told which columns will be read. If the table accepts a demand for one of several values, one more
plan is made without that demand; it is not used.

When the scan runs, the terms whose columns are all fixed are tested first; if one of them does not
hold, the table is not asked at all. Otherwise the table is asked once for each choice of values for
the accepted demands, and every row is tested against the other terms, the accepted ones included.

* `ScanPlan` — what is known about a scan once it is prepared.
* `ScanPlan.fetch` — the rows of a scan.
* `Database.prepareScan` — prepares a scan.
-/

namespace VirtualTables

/-- What is known about a prepared scan. -/
structure ScanPlan where
  table : String
  /-- The number of the plan. -/
  plan : Int
  results : List Formula
  terms : List Term

/-- The positions of the columns that are read when all columns are asked for. -/
def TableDef.shownPositions (d : TableDef) : List Nat :=
  (List.range d.columns.length).filter fun index =>
    (d.column? index).any fun c => !c.isDeclaredHidden

/-- The positions of the members of the primary key, which are always read. -/
def TableDef.keyPositions (d : TableDef) : List Nat :=
  if d.hasKey then
    (List.range d.columns.length).filter fun index => (d.column? index).any (·.isKeyMember)
  else []

/-- The mask that tells a table which columns will be read. The last bit stands for every column
from 63 on. -/
def readMask (positions : List Nat) : BitVec 64 :=
  positions.foldl (fun mask position => mask ||| BitVec.twoPow 64 (min position 63)) 0

namespace ScanPlan

variable {τ σ : Type}

/-- The value of a column at the row of a cursor, or the number of the row. -/
def readColumn (a : Adapter τ σ) (c : Cursor σ) : Option Nat → Except String EngineValue
  | none => .ok (.ofInt c.rowid)
  | some position => (a.column c position).mapError (·.summary)

/-- The results at the row of a cursor, if it passes every test. -/
def examine (p : ScanPlan) (bound : List BoundTerm) (db : Database τ σ) (c : Cursor σ) :
    Except String (Option (List EngineValue)) :=
  match db.registration? p.table with
  | none => .error AdapterError.unbound.summary
  | some r => do
    let read := readColumn r.adapter c
    for b in bound do
      if !(← b.holdsWith read) then return none
    return some (← p.results.mapM (·.valueWith read))

/-- The rows of a scan from the row of a cursor on, at most the given number of them; `andThen` is
what follows them. -/
def fetchRows (p : ScanPlan) (bound : List BoundTerm)
    (andThen : Cursor σ → Database τ σ → Fetch (Database τ σ) × Database τ σ) :
    Nat → Cursor σ → Database τ σ → Fetch (Database τ σ) × Database τ σ
  | 0, c, db => andThen c db
  | limit + 1, c, db =>
    if c.eof then andThen c db
    else
      let advance (db : Database τ σ) : Fetch (Database τ σ) × Database τ σ :=
        match db.withCursor p.table c (·.next c) with
        | (.error e, _, db) => (.failed e.summary, db)
        | (.ok (), c, db) => fetchRows p bound andThen limit c db
      match p.examine bound db c with
      | .error message => (.failed message, db)
      | .ok none => advance db
      | .ok (some values) => (.row values (fun db => (advance db).1) (fun db => (advance db).2), db)

/-- The number of rows that a cursor can still come to, the one it is at included. -/
def rowLimit (p : ScanPlan) (db : Database τ σ) (c : Cursor σ) : Nat :=
  match db.registration? p.table, c.context with
  | some r, some ctx => r.table.remaining ctx + 1
  | _, _ => 1

/-- The rows of a scan, for each of the given ways to ask for its terms. -/
def fetch (p : ScanPlan) : List (List BoundTerm) → Cursor σ → Database τ σ →
    Fetch (Database τ σ) × Database τ σ
  | [], _, db => (.done, db)
  | bound :: rest, c, db =>
    match db.withCursor p.table c (·.filter c p.plan (bound.filterMap (·.asked))) with
    | (.error e, _, db) => (.failed e.summary, db)
    | (.ok (), c, db) =>
      fetchRows p (BoundTerm.inOrder bound) (fetch p rest) (p.rowLimit db c) c db

/-- Whether the settled terms hold. -/
def mayHold (p : ScanPlan) : Except String Bool :=
  ((Term.inOrder p.terms).filter (·.formula.isSettled)).allM
    (·.formula.holdsWith fun _ => .ok .null)

/-- The prepared scan. -/
def prepared (p : ScanPlan) (headings : List String) : Prepared (Database τ σ) where
  columns := headings
  tables := [p.table]
  start db :=
    match p.mayHold with
    | .error message => (.failed message, db)
    | .ok false => (.done, db)
    | .ok true => p.fetch (Term.rounds p.terms) .new db

end ScanPlan

namespace Database

variable {τ σ : Type}

/-- The results of a selection from a table, with their headings. -/
def resolveResult (db : Database τ σ) (scope : Scope) :
    Statement.ResultColumn → Except Refusal (List (String × Formula))
  | .all =>
    let columns := scope.definition.shownPositions.map scope.columnAt
    if columns.isEmpty then .error .noShownColumn
    else .ok (columns.map fun c => (scope.heading c, .apply (.column c) []))
  | .expression e heading => do
    let f ← db.resolve (some scope) e
    match heading, f with
    | .label s, _ => return [(s, f)]
    | .text _, .apply (.column c) _ => return [(scope.heading c, f)]
    | .text s, _ => return [(s, f)]

/-- Results, unless there are too many. -/
def atMostColumnLimit (results : List (String × Formula)) :
    Except Refusal (List (String × Formula)) :=
  if Refusal.columnLimit < results.length then .error .tooManyColumns else .ok results

/-- The table that a selection names. All tables belong to one owner. -/
def sourceTable (db : Database τ σ) (t : Statement.TableName) :
    Except Refusal (Registration τ σ) :=
  let found := if t.owner.all (EngineName.same "temp") then db.tableNamed? t.name else none
  match found with
  | some r => .ok r
  | none => .error (.noTable (".".intercalate (t.owner.toList ++ [t.name])))

/-- The plan of a scan whose names are resolved. -/
def planScan (db : Database τ σ) (d : TableDef) (table : String) (results : List Formula)
    (terms : List Term) : Except Refusal ScanPlan × Database τ σ :=
  let columns := (results ++ terms.map (·.formula)).flatMap (·.columns)
  let used := readMask (columns.filterMap (·.position) ++ d.keyPositions)
  let offered := Term.offered terms
  match db.bestIndex table (Term.candidates offered) used with
  | (none, db) => (.error (.noTable table), db)
  | (some (.error _), db) => (.error .noSolution, db)
  | (some (.ok offer), db) =>
    let marked :=
      List.zipWith (fun t slot => { t with accepted := slot.isSome }) offered offer.slots
    let others := terms.filter (·.demand.isNone)
    let plan : ScanPlan := { table, plan := offer.id, results, terms := marked ++ others }
    if marked.any fun t => t.accepted && t.hasChoice then
      let simple := offered.filter (!·.hasChoice)
      (.ok plan, (db.bestIndex table (Term.candidates simple) used).2)
    else (.ok plan, db)

/-- Prepares a selection from a table. -/
def prepareScan (db : Database τ σ) (s : Statement.Selection) (t : Statement.TableName) :
    Except Refusal (Prepared (Database τ σ)) × Database τ σ :=
  let resolved : Except Refusal (Registration τ σ × List (String × Formula) × List Term) := do
    let r ← db.sourceTable t
    let scope : Scope := { owner := t.label.getD r.name, definition := r.table.definition }
    let results ← s.results.mapM (db.resolveResult scope)
    let results ← atMostColumnLimit results.flatten
    let condition ← s.condition.mapM (db.resolve (some scope))
    return (r, results, Term.ofCondition condition)
  match resolved with
  | .error e => (.error e, db)
  | .ok (r, results, terms) =>
    match db.planScan r.table.definition r.name (results.map (·.2)) terms with
    | (.error e, db) => (.error e, db)
    | (.ok plan, db) => (.ok (plan.prepared (results.map (·.1))), db)

end Database

end VirtualTables
