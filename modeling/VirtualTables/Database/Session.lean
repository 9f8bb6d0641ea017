import VirtualTables.Database.Statement

/-!
# Sessions with a database

A session works on a database step by step. The listener of a query keeps what it receives; it may
abort after a number of rows, and it may take a step of its own at every row, before it decides to
abort.
-/

namespace VirtualTables

/-- A step of a session; tables have memory `τ` and keep the places of scans in `σ`. -/
inductive Step (τ σ : Type) where
  | addTable (table : FiniteTable τ σ) (memory : τ)
  | removeTable (name : String)
  | addFunction (f : ScalarFunction)
  | removeFunction (name : String)
  | tables
  | functions
  | rejected
  | config
  /-- Looks at what a table remembers, and changes it. -/
  | recall (table : String) (change : τ → τ)
  /-- Runs a query, and aborts once there are that many rows. -/
  | query (q : Query) (abortAfter : Option Nat)
  /-- Runs a query, and takes a step at every row. -/
  | queryNesting (q : Query) (abortAfter : Option Nat) (inner : Step τ σ)

/-- What a step gives. -/
inductive Outcome (τ : Type) where
  | result (r : Except Diagnostic Unit)
  | texts (texts : List String)
  | diagnostics (ds : List Diagnostic)
  | config (c : Config)
  | memory (m : Option τ)
  /-- What the listener of a query received, how the query ended, and what the steps at its rows
  gave. -/
  | answer (received : Received) (r : Except Diagnostic Unit) (nested : List (Outcome τ))

namespace Step

variable {τ σ : Type}

/-- The listener of a step. It takes the step `inner` at every row. -/
def listener (abortAfter : Option Nat)
    (inner : Database τ σ → List (Outcome τ) × Database τ σ) :
    Listener (Database τ σ × Received × List (Outcome τ)) where
  onRow row w :=
    let received := w.2.1.addRow row
    let (outcomes, db) := inner w.1
    (if abortAfter.any (· ≤ received.rows.length) then .abort else .proceed,
      (db, received, w.2.2 ++ outcomes))
  onError message w := (w.1, w.2.1.addError message, w.2.2)

/-- Runs the query of a step. -/
def runQuery (q : Query) (abortAfter : Option Nat)
    (inner : Database τ σ → List (Outcome τ) × Database τ σ) (db : Database τ σ) :
    Outcome τ × Database τ σ :=
  let (r, db, received, nested) := Database.run q (listener abortAfter inner) (db, .empty, [])
  (.answer received r nested, db)

/-- Takes a step. -/
def take (db : Database τ σ) : Step τ σ → Outcome τ × Database τ σ
  | .addTable table memory =>
    let (r, db) := db.addTable table memory
    (.result r, db)
  | .removeTable name =>
    let (r, db) := db.removeTable name
    (.result r, db)
  | .addFunction f =>
    let (r, db) := db.addFunction f
    (.result r, db)
  | .removeFunction name =>
    let (r, db) := db.removeFunction name
    (.result r, db)
  | .tables => (.texts (db.tableInfos.map (·.text)), db)
  | .functions => (.texts (db.functionInfos.map (·.text)), db)
  | .rejected =>
    let (ds, db) := db.takeRejected
    (.diagnostics ds, db)
  | .config => (.config db.config, db)
  | .recall table change => (.memory (db.memory? table), db.changeMemory table change)
  | .query q abortAfter => runQuery q abortAfter (fun db => ([], db)) db
  | .queryNesting q abortAfter inner =>
    runQuery q abortAfter
      (fun db =>
        let (outcome, db) := take db inner
        ([outcome], db))
      db

end Step

end VirtualTables
