import VirtualTables.Database.Basic
import VirtualTables.Database.Fetch
import VirtualTables.Listener
import VirtualTables.Value.Coercion

/-!
# Running queries

A query is prepared, started, and its rows are handed to a listener until there are no more or the
listener aborts. The first row fixes the fields of the result: each has the name of its column and
the type of its value there, and the values of later rows are taken to these types. A name that came
before gets the position of its column, so that no column is lost.

When a query fails, the listener is told the message of the engine. If it could not even be
prepared, the summaries of the plans that were refused meanwhile follow, and they are the notes of
the error; the first of these plans is its cause.

* `resultFields` — the fields of a result.
* `deliver` — hands rows to a listener.
* `Database.query` — runs a query.
-/

namespace VirtualTables

/-- The fields of a result with the given names of columns and the given first row, when the columns
at `index` and after it are still without a field and `seen` are the names before them. -/
def resultFieldsFrom : Nat → List String → List String → List Value → List Field
  | index, seen, name :: names, value :: values =>
    let shown := if name ∈ seen then s!"{name}:{index}" else name
    .unscoped .shared value.type shown :: resultFieldsFrom (index + 1) (name :: seen) names values
  | _, _, _, _ => []

/-- The fields of a result. -/
def resultFields (names : List String) (first : List Value) : List Field :=
  resultFieldsFrom 0 [] names first

/-- A row of a result. -/
def resultRow (fields : List Field) (values : List Value) : Row :=
  .ofList (List.zipWith (fun field value => (field, value.coerce field.type)) fields values)

variable {τ σ ω : Type}

/-- Hands rows to a listener, and gives the message of a failure. The fields are known from the
first row on. -/
def deliver {δ : Type} (names : List String) (l : Listener (δ × ω)) :
    Fetch δ → Option (List Field) → δ × ω → Option String × δ × ω
  | .done, _, w => (none, w)
  | .failed message, _, w => (some message, w)
  | .row values rest effect, fields, w =>
    let values := values.map (·.toValue)
    let fields := fields.getD (resultFields names values)
    match l.onRow (resultRow fields values) w with
    | (.abort, w) => (none, w)
    | (.proceed, (db, s)) => deliver names l (rest db) (some fields) (effect db, s)

/-- The error of a query that failed, with the plans that were refused while it was prepared. -/
def failureOf (sql message : String) (rejected : List Diagnostic) : Diagnostic :=
  let noted := rejected.foldl (fun d r => d.withNote r.summary) (.statementFailed sql message)
  match rejected with
  | [] => noted
  | first :: _ => noted.withCause first

/-- Reports a failure to the listener, and gives the error. -/
def reportFailure {δ : Type} (sql message : String) (rejected : List Diagnostic)
    (l : Listener (δ × ω)) (w : δ × ω) : Except Diagnostic Unit × δ × ω :=
  (.error (failureOf sql message rejected),
    l.onErrors (message :: rejected.map (·.summary)) w)

namespace Database

/-- The database without recorded refusals. -/
def clearLog (db : Database τ σ) : Database τ σ :=
  { db with log := .empty }

/-- The database with one more running statement, which scans the given tables. -/
def enter (db : Database τ σ) (tables : List String) : Database τ σ :=
  { db with running := tables :: db.running }

/-- The database without the innermost running statement. -/
def leave (db : Database τ σ) : Database τ σ :=
  { db with running := db.running.drop 1 }

/-- Runs a query. `prepare` has the engine prepare it, and gives the message of the engine when that
fails. -/
def query (sql : String)
    (prepare : Database τ σ → Except String (Prepared (Database τ σ)) × Database τ σ)
    (l : Listener (Database τ σ × ω)) (w : Database τ σ × ω) :
    Except Diagnostic Unit × Database τ σ × ω :=
  match prepare w.1.clearLog with
  | (.error message, db) =>
    let (rejected, db) := db.takeRejected
    reportFailure sql message rejected l (db, w.2)
  | (.ok statement, db) =>
    let (fetch, db) := statement.start (db.clearLog.enter statement.tables)
    let (failure, db, s) := deliver statement.columns l fetch none (db, w.2)
    let db := db.leave
    match failure with
    | none => (.ok (), db, s)
    | some message => reportFailure sql message [] l (db, s)

end Database

end VirtualTables
