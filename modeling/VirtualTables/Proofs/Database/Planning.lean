import VirtualTables.Database.Statement
import VirtualTables.Proofs.Plan.Log

/-!
# What an engine does while it prepares a statement

An engine prepares a statement in its own way, which is not known here but for one thing: of all
that a database can do it uses only `bestIndex`.  It has plans made for registered tables, as many
as it likes and for whatever it likes, and what it does next may depend on the answers.  `Planning`
is the type of such a way to prepare, as a tree; it ends with an outcome.

The plans that are refused meanwhile are read off the answers (`Planning.refusals`), and the log
holds exactly these: `Planning.log_run` says so for any way to prepare.  That the way in which
statements are prepared here is one of them is `Database.planned_prepare`.
-/

namespace VirtualTables

variable {τ σ α β : Type}

/-- A plan that an engine wants to have made. -/
structure PlanRequest where
  table : String
  candidates : List Candidate
  used : BitVec 64

/-- The answer to a request; there is none without the table. -/
abbrev PlanAnswer :=
  Option (Except TableError PlanOffer)

/-- The diagnostic of a refusal. -/
def refusal? : PlanAnswer → Option Diagnostic
  | some (.error e) => some e.diagnostic
  | some (.ok _) | none => none

/-- What an engine does until it comes to an outcome. -/
inductive Planning (α : Type) where
  | done (outcome : α)
  | ask (r : PlanRequest) (andThen : PlanAnswer → Planning α)

/-- Has a plan made. -/
def Database.answerRequest (db : Database τ σ) (r : PlanRequest) : PlanAnswer × Database τ σ :=
  db.bestIndex r.table r.candidates r.used

/-- Work on a table leaves the log as it is. -/
@[simp]
theorem Database.log_withAdapter (db : Database τ σ) (name : String)
    (work : Adapter τ σ → α × Adapter τ σ) : (db.withAdapter name work).2.log = db.log := by
  rw [withAdapter]
  split <;> rfl

/-- A refusal is recorded, and an offer is not. -/
theorem Database.log_answerRequest (db : Database τ σ) (r : PlanRequest) :
    (db.answerRequest r).2.log =
      (refusal? (db.answerRequest r).1).toList.foldl PlanningLog.record db.log := by
  have hlog := db.log_withAdapter r.table fun a ↦ a.bestIndex r.candidates r.used
  rw [answerRequest, bestIndex]
  rcases hwork : db.withAdapter r.table fun a ↦ a.bestIndex r.candidates r.used with
    ⟨answer, after⟩
  rw [hwork] at hlog
  cases answer with
  | none => exact hlog
  | some outcome =>
    cases outcome with
    | ok offer => exact hlog
    | error e => exact congrArg (PlanningLog.record · e.diagnostic) hlog

namespace Planning

/-- Prepares with a database. -/
def run : Planning α → Database τ σ → α × Database τ σ
  | done outcome, db => (outcome, db)
  | ask r andThen, db =>
    let (answer, db) := db.answerRequest r
    (andThen answer).run db

/-- The refusals among the answers of a database, in their order. -/
def refusals : Planning α → Database τ σ → List Diagnostic
  | done _, _ => []
  | ask r andThen, db =>
    let (answer, db) := db.answerRequest r
    (refusal? answer).toList ++ (andThen answer).refusals db

/-- **The log takes in the refusals of a preparation**, in their order. -/
theorem log_run (p : Planning α) (db : Database τ σ) :
    (p.run db).2.log = (p.refusals db).foldl PlanningLog.record db.log := by
  induction p generalizing db with
  | done outcome => rfl
  | ask r andThen ih =>
    rw [run, refusals, List.foldl_append, ← db.log_answerRequest]
    exact ih ..

/-- What the log holds after a preparation that starts without a refusal: the refusals of this
preparation, each once. -/
theorem entries_run_of_empty (p : Planning α) {db : Database τ σ} (h : db.log = .empty) :
    (p.run db).2.log.entries = (p.refusals db).eraseDups := by
  rw [log_run, h, PlanningLog.foldl_record_empty]

/-! ## One after another -/

/-- Goes on with the outcome. -/
def bind : Planning α → (α → Planning β) → Planning β
  | done outcome, next => next outcome
  | ask r andThen, next => ask r fun answer ↦ (andThen answer).bind next

theorem run_bind (p : Planning α) (next : α → Planning β) (db : Database τ σ) :
    (p.bind next).run db = (next (p.run db).1).run (p.run db).2 := by
  induction p generalizing db with
  | done outcome => rfl
  | ask r andThen ih => exact ih ..

end Planning

/-- An outcome and a database that an engine may come to from a database. -/
def Planned (db : Database τ σ) (out : α × Database τ σ) : Prop :=
  ∃ p : Planning α, out = p.run db

namespace Planned

variable {db after : Database τ σ}

theorem same (a : α) : Planned db (a, db) :=
  ⟨.done a, rfl⟩

theorem answerRequest (r : PlanRequest) : Planned db (db.answerRequest r) :=
  ⟨.ask r .done, rfl⟩

theorem trans {a : α} {out : β × Database τ σ} (h : Planned db (a, after))
    (hafter : Planned after out) : Planned db out := by
  obtain ⟨first, hfirst⟩ := h
  obtain ⟨next, hnext⟩ := hafter
  exact ⟨first.bind fun _ ↦ next, by rw [Planning.run_bind, ← hfirst, hnext]⟩

/-- Another outcome may be made of what was found out. -/
theorem withOutcome {a : α} (h : Planned db (a, after)) (b : β) : Planned db (b, after) :=
  h.trans (same b)

end Planned

namespace Database

/-! ## How statements are prepared -/

theorem planned_planScan (db : Database τ σ) (d : TableDef) (table : String)
    (results : List Formula) (terms : List Term) :
    Planned db (db.planScan d table results terms) := by
  have hrequest (db : Database τ σ) (candidates : List Candidate) (used : BitVec 64) :
      Planned db (db.bestIndex table candidates used) := .answerRequest ⟨table, candidates, used⟩
  rw [planScan]
  split <;> rename_i hanswer <;> have hfirst := hanswer ▸ hrequest db _ _
  · exact hfirst.withOutcome _
  · exact hfirst.withOutcome _
  · dsimp only
    split
    · exact (hfirst.trans (hrequest _ _ _)).withOutcome _
    · exact hfirst.withOutcome _

theorem planned_prepareScan (db : Database τ σ) (s : Statement.Selection)
    (t : Statement.TableName) : Planned db (db.prepareScan s t) := by
  rw [prepareScan]
  split
  · exact .same _
  · split <;> rename_i hplan <;> exact (hplan ▸ db.planned_planScan ..).withOutcome _

theorem planned_prepareSelections (db : Database τ σ) (selections : List Statement.Selection) :
    Planned db (db.prepareSelections selections) := by
  unfold prepareSelections
  split
  · exact db.planned_prepareScan ..
  · exact .same _

theorem planned_prepareText (db : Database τ σ) (limit : Nat) (text : List Char) :
    Planned db (db.prepareText limit text) := by
  induction limit generalizing db text with
  | zero => exact .same _
  | succ limit ih =>
    rw [prepareText]
    dsimp only
    split
    · exact .same _
    · exact .same _
    · split <;> rename_i hselections <;> have hfirst := hselections ▸ db.planned_prepareSelections _
      · exact hfirst.withOutcome _
      · split
        · exact hfirst.withOutcome _
        · split <;> rename_i hrest <;>
            exact (hfirst.trans (hrest ▸ ih _ _)).withOutcome _

/-- **Queries are prepared by a way to prepare.** -/
theorem planned_prepare (q : Query) :
    ∃ engine : Database τ σ → Planning (Except String (Prepared (Database τ σ))),
      ∀ db, prepare q db = (engine db).run db := by
  have hprepare (db : Database τ σ) : Planned db (prepare q db) := by
    rw [prepare]
    split <;> rename_i htext <;> exact (htext ▸ db.planned_prepareText ..).withOutcome _
  choose engine hengine using hprepare
  exact ⟨engine, hengine⟩

end Database

end VirtualTables
