import VirtualTables.Database.Query
import VirtualTables.Database.Scan
import VirtualTables.Statement.Query
import VirtualTables.Statement.Reader

/-!
# Preparing statements

A statement is prepared from its text. It scans a table, or its selections give one row each, of
which nothing depends on a table. A text that goes on after its first statement is prepared to the
end, and refused if there is another statement in it.

* `Database.prepareText` — prepares the statement of a text.
* `Database.run` — runs a query.
-/

namespace VirtualTables
namespace Database

variable {τ σ ω : Type}

/-! ## Rows without a table -/

/-- The results of a selection without a table, with their headings. -/
def resolveRow (db : Database τ σ) (s : Statement.Selection) :
    Except Refusal (List (String × Formula)) := do
  let results ← s.results.mapM fun
    | .all => throw .noShownColumn
    | .expression e (.label name) | .expression e (.text name) =>
      return (name, ← db.resolve none e)
  atMostColumnLimit results

/-- The row of a selection without a table, if its condition holds. -/
def computeRow (results : List Formula) (condition : Option Formula) :
    Except String (Option (List EngineValue)) := do
  let terms := (condition.map (·.conjuncts)).getD []
  if ← terms.allM (Formula.holdsWith fun _ => .ok .null) then
    return some (← results.mapM (·.valueAlone))
  else return none

/-- The rows that are computed one after another, up to the first failure. -/
def computeRows : List (List Formula × Option Formula) → List (List EngineValue) × Ending
  | [] => ([], none)
  | (results, condition) :: rest =>
    match computeRow results condition with
    | .error message => ([], some message)
    | .ok row =>
      let (rows, ending) := computeRows rest
      (row.toList ++ rows, ending)

/-- Prepares selections without a table. They must give the same number of results. -/
def prepareRows (db : Database τ σ) (selections : List Statement.Selection) :
    Except Refusal (Prepared (Database τ σ)) := do
  let rows ← selections.mapM fun s =>
    return (← db.resolveRow s, ← s.condition.mapM (db.resolve none))
  let headings := (rows.head?.map fun (results, _) => results.map (·.1)).getD []
  if rows.any fun (results, _) => results.length ≠ headings.length then throw .unequalRows
  let formulas := rows.map fun (results, condition) => (results.map (·.2), condition)
  return {
    columns := headings
    tables := []
    start := fun db =>
      let (rows, ending) := computeRows formulas
      (.ofRows ending rows, db) }

/-! ## Statements -/

/-- Prepares the selections of a statement. -/
def prepareSelections (db : Database τ σ) (selections : List Statement.Selection) :
    Except Refusal (Prepared (Database τ σ)) × Database τ σ :=
  match selections with
  | [{ results, source := some t, condition }] =>
    db.prepareScan { results, source := some t, condition } t
  | selections => (db.prepareRows selections, db)

/-- The number of values that parameters need. Those with a number need all up to it, and others of
one name need one together. -/
def neededValues (parameters : List String) : Nat :=
  (parameters.foldl
    (fun (needed, seen) name =>
      match name.toList, readNat? (name.toList.drop 1) with
      | '?' :: _, some n => (max needed n, seen)
      | ['?'], none => (needed + 1, seen)
      | _, _ => named needed seen name)
    ((0, []) : Nat × List String)).1
where
  /-- One more parameter with a name. -/
  named (needed : Nat) (seen : List String) (name : String) : Nat × List String :=
    if name ∈ seen then (needed, seen) else (needed + 1, name :: seen)

/-- A prepared statement that needs values for parameters. There are none, so that it fails when it
is started. -/
def requireNoParameters (parameters : List String) (p : Prepared (Database τ σ)) :
    Prepared (Database τ σ) :=
  if parameters.isEmpty then p
  else
    let message := Refusal.message "" (.noParameters (neededValues parameters))
    { p with start := fun db => (.failed message, db) }

/-- Prepares the statement of a text, at most the given number of statements long. There is none in
a text without tokens. The message of a refusal shows the text. -/
def prepareText (db : Database τ σ) :
    Nat → List Char → Except String (Option (Prepared (Database τ σ))) × Database τ σ
  | 0, _ => (.ok none, db)
  | limit + 1, text =>
    let message := Refusal.message (String.ofList text)
    match Statement.read text with
    | .error r => (.error (message r), db)
    | .ok none => (.ok none, db)
    | .ok (some (selections, rest)) =>
      match db.prepareSelections selections with
      | (.error r, db) => (.error (message r), db)
      | (.ok p, db) =>
        let p := requireNoParameters (selections.flatMap (·.parameters)) p
        match rest with
        | none => (.ok (some p), db)
        | some place =>
          match db.prepareText limit (Statement.afterPlace place text) with
          | (.error m, db) => (.error m, db)
          | (.ok (some _), db) => (.error (message .severalStatements), db)
          | (.ok none, db) => (.ok (some p), db)

/-- Prepares a query. -/
def prepare (q : Query) (db : Database τ σ) :
    Except String (Prepared (Database τ σ)) × Database τ σ :=
  let text := q.sql.toList
  match db.prepareText (text.length + 1) text with
  | (.error m, db) => (.error m, db)
  | (.ok none, db) => (.error (Refusal.message q.sql .noStatement), db)
  | (.ok (some p), db) => (.ok p, db)

/-- Runs a query. -/
def run (q : Query) (l : Listener (Database τ σ × ω)) (w : Database τ σ × ω) :
    Except Diagnostic Unit × Database τ σ × ω :=
  query q.sql (prepare q) l w

end Database
end VirtualTables
