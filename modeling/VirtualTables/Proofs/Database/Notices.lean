import VirtualTables.Database.Query

/-!
# What a listener is told

A listener may do anything with what it is told, so the world after a query does not say what that
was.  `Listener.noting` writes it down: it answers and acts as the listener does, and beside the
listener's own state it keeps a list of notices, the rows with the answers to them and the messages.
Writing changes nothing (`Database.query_noting`), and `Database.notices` is what is written down
when a query is run.

A statement may look at the database between two rows, and the listener may have changed it by then.
So a statement alone only says which rows it may give (`Fetch.MayGive`).  `deliver_noting` is the
run lemma: the listener is told an initial part of such rows, up to and including the first one that
it answers with `abort`.
-/

namespace VirtualTables

/-- Something that a listener is told: a row, with the answer to it, or the message of a failure. -/
inductive Notice where
  | row (row : Row) (answer : Flow)
  | failure (message : String)
  deriving DecidableEq

/-- A row after which the query goes on. -/
def Notice.accepted (row : Row) : Notice :=
  .row row .proceed

variable {δ ω τ σ : Type}

/-- The listener that does as another one does, and writes down what it is told. -/
def Listener.noting (l : Listener (δ × ω)) : Listener (δ × ω × List Notice) where
  onRow row w :=
    let (answer, db, s) := l.onRow row (w.1, w.2.1)
    (answer, db, s, w.2.2 ++ [.row row answer])
  onError message w :=
    let (db, s) := l.onError message (w.1, w.2.1)
    (db, s, w.2.2 ++ [.failure message])

theorem onErrors_noting (l : Listener (δ × ω)) (messages : List String) (db : δ) (s : ω)
    (notes : List Notice) :
    l.noting.onErrors messages (db, s, notes) =
      ((l.onErrors messages (db, s)).1, (l.onErrors messages (db, s)).2,
        notes ++ messages.map .failure) := by
  induction messages generalizing db s notes with
  | nil =>
    rw [List.map_nil, List.append_nil]
    rfl
  | cons message rest ih =>
    rw [List.map_cons, List.append_cons]
    exact ih ..

/-! ## The rows of a statement -/

/-- The rows that a running statement may give, and how they end.  What follows a row depends on the
database as it is then. -/
inductive Fetch.MayGive : Fetch δ → List (List EngineValue) → Ending → Prop where
  | done : Fetch.done.MayGive [] none
  | failed (message : String) : (Fetch.failed message).MayGive [] (some message)
  | row (values : List EngineValue) {rest : δ → Fetch δ} (effect : δ → δ) (db : δ)
      {rows : List (List EngineValue)} {ending : Ending} :
      (rest db).MayGive rows ending → (Fetch.row values rest effect).MayGive (values :: rows) ending

/-- The rows of a statement that does not look at the database are the ones that it has. -/
theorem mayGive_ofRows (db : δ) {rows given : List (List EngineValue)} {ending last : Ending} :
    (Fetch.ofRows ending rows : Fetch δ).MayGive given last ↔ given = rows ∧ last = ending := by
  induction rows generalizing given with
  | nil =>
    cases ending with
    | none =>
      constructor
      · rintro ⟨⟩
        exact ⟨rfl, rfl⟩
      · rintro ⟨rfl, rfl⟩
        exact .done
    | some message =>
      constructor
      · rintro ⟨⟩
        exact ⟨rfl, rfl⟩
      · rintro ⟨rfl, rfl⟩
        exact .failed message
  | cons values rows ih =>
    constructor
    · rintro (_ | _ | ⟨_, _, _, hrest⟩)
      obtain ⟨rfl, rfl⟩ := ih.1 hrest
      exact ⟨rfl, rfl⟩
    · rintro ⟨rfl, rfl⟩
      exact .row values id db (ih.2 ⟨rfl, rfl⟩)

/-- Every statement may give some rows. -/
theorem exists_mayGive (db : δ) (fetch : Fetch δ) : ∃ rows ending, fetch.MayGive rows ending := by
  induction fetch with
  | done => exact ⟨[], none, .done⟩
  | failed message => exact ⟨[], some message, .failed message⟩
  | row values rest effect ih =>
    obtain ⟨rows, ending, hrest⟩ := ih db
    exact ⟨values :: rows, ending, .row values effect db hrest⟩

/-- What a listener is told of the rows of a result: all of them, or those before one that it
answers with `abort`, and this one.  In the first case the statement fails as its rows end, in the
second case it does not fail. -/
inductive Told (results : List Row) (ending : Ending) : List Notice → Option String → Prop where
  | all : Told results ending (results.map .accepted) ending
  | aborted (before : List Row) (last : Row) (rest : List Row) :
      results = before ++ last :: rest →
        Told results ending (before.map .accepted ++ [.row last .abort]) none

theorem Told.cons {results : List Row} {ending : Ending} {notices : List Notice}
    {failure : Option String} (h : Told results ending notices failure) (row : Row) :
    Told (row :: results) ending (.accepted row :: notices) failure := by
  cases h with
  | all => exact .all
  | aborted before last rest hresults =>
    exact .aborted (row :: before) last rest (congrArg (row :: ·) hresults)

/-- The rows are not told as failures. -/
theorem Told.exists_row {results : List Row} {ending : Ending} {notices : List Notice}
    {failure : Option String} (h : Told results ending notices failure) :
    ∀ notice ∈ notices, ∃ row answer, notice = .row row answer := by
  intro notice hmem
  cases h with
  | all =>
    obtain ⟨row, -, rfl⟩ := List.mem_map.1 hmem
    exact ⟨row, .proceed, rfl⟩
  | aborted before last rest hresults =>
    obtain hmem | hmem := List.mem_append.1 hmem
    · obtain ⟨row, -, rfl⟩ := List.mem_map.1 hmem
      exact ⟨row, .proceed, rfl⟩
    · exact ⟨last, .abort, List.mem_singleton.1 hmem⟩

/-- Before a failure, all rows are told. -/
theorem Told.eq_of_failure {results : List Row} {ending : Ending} {notices : List Notice}
    {message : String} (h : Told results ending notices (some message)) :
    ending = some message ∧ notices = results.map .accepted := by
  cases h
  exact ⟨rfl, rfl⟩

section Row

variable {names : List String} {l : Listener (δ × ω)} {values : List EngineValue}
  {rest : δ → Fetch δ} {effect : δ → δ} {fields : Option (List Field)} {w : δ × ω}

/-- The fields from a row on. -/
def fieldsFrom (names : List String) (fields : Option (List Field)) (values : List EngineValue) :
    List Field :=
  fields.getD (resultFields names (values.map (·.toValue)))

/-- The row that a listener is handed. -/
def handed (names : List String) (fields : Option (List Field)) (values : List EngineValue) : Row :=
  resultRow (fieldsFrom names fields values) (values.map (·.toValue))

theorem deliver_of_abort {after : δ × ω}
    (h : l.onRow (handed names fields values) w = (.abort, after)) :
    deliver names l (.row values rest effect) fields w = (none, after) := by
  rw [deliver, ← fieldsFrom, ← handed, h]

theorem deliver_of_proceed {after : δ × ω}
    (h : l.onRow (handed names fields values) w = (.proceed, after)) :
    deliver names l (.row values rest effect) fields w =
      deliver names l (rest after.1) (some (fieldsFrom names fields values))
        (effect after.1, after.2) := by
  rw [deliver, ← fieldsFrom, ← handed, h]

end Row

/-- The rows of a result, if the fields are those of the first row unless they are known before. -/
def resultRowsWith (names : List String) (fields : Option (List Field)) :
    List (List EngineValue) → List Row
  | [] => []
  | first :: rest =>
    (first :: rest).map (handed names (some (fieldsFrom names fields first)))

theorem resultRowsWith_cons (names : List String) (fields : Option (List Field))
    (first : List EngineValue) (rest : List (List EngineValue)) :
    resultRowsWith names fields (first :: rest) =
      handed names fields first ::
        resultRowsWith names (some (fieldsFrom names fields first)) rest := by
  cases rest <;> rfl

/-- **What a listener is told of the rows of a statement.**  The notices are written down behind
those that are there already, and nothing else changes by that. -/
theorem deliver_noting (names : List String) (l : Listener (δ × ω)) (fetch : Fetch δ)
    (fields : Option (List Field)) (db : δ) (s : ω) :
    let after := deliver names l fetch fields (db, s)
    ∃ rows ending told, fetch.MayGive rows ending ∧
      Told (resultRowsWith names fields rows) ending told after.1 ∧
      ∀ notes, deliver names l.noting fetch fields (db, s, notes) =
        (after.1, after.2.1, after.2.2, notes ++ told) := by
  induction fetch generalizing fields db s with
  | done => exact ⟨[], none, [], .done, .all, fun notes ↦ by rw [List.append_nil]; rfl⟩
  | failed message =>
    exact ⟨[], some message, [], .failed message, .all, fun notes ↦ by rw [List.append_nil]; rfl⟩
  | row values rest effect ih =>
    intro after
    let row := handed names fields values
    rcases hanswer : l.onRow row (db, s) with ⟨answer, w⟩
    have hnoting : ∀ notes : List Notice,
        l.noting.onRow row (db, s, notes) = (answer, w.1, w.2, notes ++ [.row row answer]) :=
      fun notes ↦ by simp [Listener.noting, hanswer]
    cases answer with
    | abort =>
      have hafter : after = (none, w) := deliver_of_abort hanswer
      -- the rows that are not fetched any more are those that might have come
      obtain ⟨rows, ending, hrest⟩ := exists_mayGive db (rest db)
      refine ⟨values :: rows, ending, [.row row .abort], .row values effect db hrest, ?_, ?_⟩
      · rw [hafter, resultRowsWith_cons]
        exact .aborted [] row _ rfl
      · intro notes
        rw [hafter, deliver_of_abort (hnoting notes)]
    | proceed =>
      have hafter : after = _ := deliver_of_proceed hanswer
      obtain ⟨rows, ending, told, hrest, htold, hsame⟩ :=
        ih w.1 (some (fieldsFrom names fields values)) (effect w.1) w.2
      refine ⟨values :: rows, ending, .accepted row :: told, .row values effect w.1 hrest, ?_, ?_⟩
      · rw [hafter, resultRowsWith_cons]
        exact htold.cons row
      · intro notes
        rw [hafter, deliver_of_proceed (hnoting notes), List.append_cons notes (.accepted row) told]
        exact hsame (notes ++ [.accepted row])

/-! ## The notices of a query -/

namespace Database

variable {message : String}
  {prepare : Database τ σ → Except String (Prepared (Database τ σ)) × Database τ σ}
  {statement : Prepared (Database τ σ)} {db : Database τ σ} {w : Database τ σ × ω}

/-- What the listener of a query is told. -/
def notices (sql : String)
    (prepare : Database τ σ → Except String (Prepared (Database τ σ)) × Database τ σ)
    (l : Listener (Database τ σ × ω)) (w : Database τ σ × ω) : List Notice :=
  (query sql prepare l.noting (w.1, w.2, [])).2.2.2

/-- **A statement that cannot be prepared**: the listener is told the message of the engine and then
the summaries of the plans that were refused. -/
theorem query_of_error (sql : String) (l : Listener (Database τ σ × ω))
    (h : prepare w.1.clearLog = (.error message, db)) :
    let after := query sql prepare l w
    let told := (message :: db.log.entries.map (·.summary)).map .failure
    after.1 = .error (failureOf sql message db.log.entries) ∧
      ∀ notes, query sql prepare l.noting (w.1, w.2, notes) =
        (after.1, after.2.1, after.2.2, notes ++ told) := by
  intro after told
  have hafter : after = reportFailure sql message db.log.entries l
      ({ db with log := .empty }, w.2) := by
    simp only [after, query, h, takeRejected, PlanningLog.drain]
  refine ⟨by rw [hafter, reportFailure], fun notes ↦ ?_⟩
  rw [query, h, hafter]
  simp only [takeRejected, PlanningLog.drain, reportFailure, onErrors_noting, told]

/-- The statement as it runs. -/
def started (statement : Prepared (Database τ σ)) (db : Database τ σ) :
    Fetch (Database τ σ) × Database τ σ :=
  statement.start (db.clearLog.enter statement.tables)

/-- The rows of a result. -/
def resultRows (names : List String) (rows : List (List EngineValue)) : List Row :=
  resultRowsWith names none rows

/-- A query is over once its rows are dealt with, unless it failed meanwhile. -/
def finish (sql : String) (l : Listener (Database τ σ × ω))
    (outcome : Option String × Database τ σ × ω) : Except Diagnostic Unit × Database τ σ × ω :=
  match outcome.1 with
  | none => (.ok (), outcome.2.1.leave, outcome.2.2)
  | some message => reportFailure sql message [] l (outcome.2.1.leave, outcome.2.2)

theorem query_eq_finish (sql : String) (l : Listener (Database τ σ × ω))
    (h : prepare w.1.clearLog = (.ok statement, db)) :
    query sql prepare l w =
      finish sql l (deliver statement.columns l (started statement db).1 none
        ((started statement db).2, w.2)) := by
  rw [query, h]
  rfl

/-- Writing notices changes nothing in how a query ends. -/
theorem finish_noting (sql : String) (l : Listener (Database τ σ × ω)) (failure : Option String)
    (db : Database τ σ) (s : ω) (notes : List Notice) :
    let after := finish sql l (failure, db, s)
    finish sql l.noting (failure, db, s, notes) =
      (after.1, after.2.1, after.2.2, notes ++ failure.toList.map .failure) := by
  cases failure with
  | none => simp [finish]
  | some message => simp [finish, reportFailure, onErrors_noting]

theorem result_finish (sql : String) (l : Listener (Database τ σ × ω)) (failure : Option String)
    (now : Database τ σ × ω) :
    (finish sql l (failure, now)).1 = match failure with
      | none => .ok ()
      | some message => .error (failureOf sql message []) := by
  cases failure <;> rfl

/-- **A statement that was prepared**: the listener is told of its rows, and if it fails meanwhile
then also the message of the engine. -/
theorem query_of_ok (sql : String) (l : Listener (Database τ σ × ω))
    (h : prepare w.1.clearLog = (.ok statement, db)) :
    let after := query sql prepare l w
    ∃ rows ending failure told, (started statement db).1.MayGive rows ending ∧
      Told (resultRows statement.columns rows) ending told failure ∧
      after.1 = (match failure with
        | none => .ok ()
        | some message => .error (failureOf sql message [])) ∧
      ∀ notes, query sql prepare l.noting (w.1, w.2, notes) =
        (after.1, after.2.1, after.2.2, notes ++ (told ++ failure.toList.map .failure)) := by
  intro after
  obtain ⟨rows, ending, told, hrows, htold, hsame⟩ := deliver_noting statement.columns l
    (started statement db).1 none (started statement db).2 w.2
  have hafter : after = _ := query_eq_finish sql l h
  refine ⟨rows, ending, _, told, hrows, htold, ?_, fun notes ↦ ?_⟩
  · rw [hafter]
    exact result_finish ..
  · rw [query_eq_finish sql l.noting h, hsame, finish_noting, List.append_assoc, hafter]

/-- **Writing down what a listener is told changes nothing.** -/
theorem query_noting (sql : String)
    (prepare : Database τ σ → Except String (Prepared (Database τ σ)) × Database τ σ)
    (l : Listener (Database τ σ × ω)) (w : Database τ σ × ω) (notes : List Notice) :
    let after := query sql prepare l w
    query sql prepare l.noting (w.1, w.2, notes) =
      (after.1, after.2.1, after.2.2, notes ++ notices sql prepare l w) := by
  intro after
  rw [notices]
  rcases h : prepare w.1.clearLog with ⟨outcome, db⟩
  cases outcome with
  | error message =>
    obtain ⟨-, hsame⟩ := query_of_error sql l h
    rw [hsame, hsame []]
    rfl
  | ok statement =>
    obtain ⟨rows, ending, failure, told, -, -, -, hsame⟩ := query_of_ok sql l h
    rw [hsame, hsame []]
    rfl

end Database

end VirtualTables
