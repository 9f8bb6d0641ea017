import VirtualTables.Adapter.Basic
import VirtualTables.Database.Config
import VirtualTables.Engine.Creation
import VirtualTables.Engine.OwnFunction
import VirtualTables.Function.Summary
import VirtualTables.Plan.Log

/-!
# Databases

A database is an engine with tables and functions registered under their names. It keeps the plans
that were refused while the current statement was prepared, and it knows which statements are
running: a table that one of them scans cannot be dropped, and while any of them runs no function
that can be called is removed or replaced.

Functions are listed under their exact names, but a statement calls them by names in which ASCII
letters of either case are the same. So of functions whose names differ in case alone only the one
registered last can be called, and none of them once one is removed.

What a database decides by itself, and what it asks the engine for, does not depend on the engine.
So registration is a function of what the engine says (`RegistryEngine`).

* `Database τ σ` — a database whose tables have memory `τ` and keep the places of scans in `σ`.
* `addTableWith`, `removeTableWith`, `addFunctionWith`, `removeFunctionWith` — registration with any
  engine, and `addTable` to `removeFunction` — with the one that goes by names.
* `tableInfos`, `functionInfos` — what is registered.
* `bestIndex`, `filter`, `next` — the calls on the adapters of registered tables.
-/

namespace VirtualTables

/-- A registered table, its memory, and the plans that are kept for it. -/
structure Registration (τ σ : Type) where
  table : FiniteTable τ σ
  memory : τ
  backlog : PlanBacklog

namespace Registration

variable {τ σ : Type}

/-- The name that the table is registered under. -/
def name (r : Registration τ σ) : String :=
  r.table.definition.name

/-- The adapter of the table. -/
def adapter (r : Registration τ σ) : Adapter τ σ :=
  { table := r.table.toVirtualTable, memory := r.memory, backlog := r.backlog }

/-- The registration after work on the adapter. -/
def update (r : Registration τ σ) (a : Adapter τ σ) : Registration τ σ :=
  { r with memory := a.memory, backlog := a.backlog }

end Registration

/-- An engine with tables and functions. -/
structure Database (τ σ : Type) where
  config : Config
  /-- The registered tables, in the order of their registration. -/
  tables : List (Registration τ σ)
  /-- The registered functions, in the order of their registration. -/
  functions : List ScalarFunction
  /-- The functions that can be called. -/
  callable : List ScalarFunction
  /-- The names under which functions were registered, now or before. The engine calls none of its
  own functions of such a name. -/
  replaced : List String
  /-- The plans refused while the current statement was prepared. -/
  log : PlanningLog
  /-- The tables of each running statement, the innermost statement first. -/
  running : List (List String)
  /-- What the tables remember that were removed, for each name the one removed last. -/
  removed : List (String × τ)

namespace Database

variable {τ σ : Type}

/-- Opens a database without tables and functions. -/
def ofConfig (config : Config) : Except Diagnostic (Database τ σ) :=
  match config.refusal? with
  | some reason =>
    .error (.internal
      ("Failed to connect to database at " ++ config.path.text ++ ": " ++ reason))
  | none =>
    .ok
      { config, tables := [], functions := [], callable := [], replaced := [], log := .empty,
        running := [], removed := [] }

/-! ## Registration -/

/-- The registered table of a name. -/
def registration? (db : Database τ σ) (name : String) : Option (Registration τ σ) :=
  db.tables.find? (·.name = name)

/-- The registered function of a name. -/
def function? (db : Database τ σ) (name : String) : Option ScalarFunction :=
  db.functions.find? (·.name = name)

/-- The table that a statement names. ASCII letters of either case are the same there. -/
def tableNamed? (db : Database τ σ) (name : String) : Option (Registration τ σ) :=
  db.tables.find? (EngineName.same ·.name name)

/-- The function that a statement calls. ASCII letters of either case are the same there. -/
def functionNamed? (db : Database τ σ) (name : String) : Option ScalarFunction :=
  db.callable.find? (EngineName.same ·.name name)

/-- The database after all that the engine knows of its tables was read again, so that it has no
plan any more. What a running statement uses is left as it is. -/
def forgetPlans (db : Database τ σ) : Database τ σ :=
  if db.running.isEmpty then
    { db with tables := db.tables.map fun r => { r with backlog := .new db.config.planBacklog } }
  else db

/-- The functions that can be called, without the one of a name. -/
def callableWithout (db : Database τ σ) (name : String) : List ScalarFunction :=
  db.callable.filter (!EngineName.same ·.name name)

/-- Whether a function of a name was ever registered. -/
def isReplaced (db : Database τ σ) (name : String) : Bool :=
  db.replaced.any (EngineName.same name)

/-- What an engine says against a change of the function of a name while a statement runs. One of
its own functions counts if it takes any number of arguments. -/
def functionLock? (db : Database τ σ) (name : String) : Option String :=
  let isOwn := OwnFunction.isVariadic name && !db.isReplaced name
  if ((db.functionNamed? name).isSome || isOwn) && !db.running.isEmpty then
    some "unable to delete/modify user-function due to active statements"
  else none

end Database

/-- What an engine says against the changes that it is asked for, if it does. It may go by all that
it has registered and all that it is doing. -/
structure RegistryEngine (τ σ : Type) where
  /-- Against the module that serves a table. -/
  moduleRefusal? : Database τ σ → TableDef → Option String
  /-- Against the table itself. -/
  creationRefusal? : Database τ σ → TableDef → Option EngineName.CreationRefusal
  /-- Against dropping the table of a name. -/
  dropRefusal? : Database τ σ → String → Option String
  /-- Against a function of a name. -/
  functionRefusal? : Database τ σ → String → Option String
  /-- Against removing the function of a name. -/
  removalRefusal? : Database τ σ → String → Option String

/-- The engine that the sessions with a database are about. It goes by names, and by the statements
that are running. -/
def RegistryEngine.standard {τ σ : Type} : RegistryEngine τ σ where
  moduleRefusal? _ d := EngineName.nulRefusal? d.name
  creationRefusal? db d := EngineName.creationRefusal? (db.tables.map (·.name)) d
  dropRefusal? db name :=
    if db.running.any (·.contains name) then some "database table is locked" else none
  functionRefusal? db name := (EngineName.functionRefusal? name).or (db.functionLock? name)
  removalRefusal? db name := db.functionLock? name

namespace Database

variable {τ σ : Type}

section Registry

variable (engine : RegistryEngine τ σ)

/-- Registers a table under its own name with an engine. -/
def addTableWith (db : Database τ σ) (table : FiniteTable τ σ) (memory : τ) :
    Except Diagnostic Unit × Database τ σ :=
  let d := table.definition
  match d.validate with
  | .error e => (.error e.diagnostic, db)
  | .ok () =>
    if (db.registration? d.name).isSome then
      (.error (TableError.alreadyRegistered d.name).diagnostic, db)
    else
      let failed := Diagnostic.statementFailed (EngineName.creation d.name)
      match engine.moduleRefusal? db d, engine.creationRefusal? db d with
      | some reason, _ =>
        (.error (.internal ("Failed to register module " ++ d.name ++ ": " ++ reason)), db)
      | none, some (.statement reason) => (.error (failed reason), db)
      | none, some (.table reason) => (.error (failed reason), db.forgetPlans)
      | none, none =>
        let r : Registration τ σ := { table, memory, backlog := .new db.config.planBacklog }
        (.ok (), { db with tables := db.tables ++ [r] })

/-- Removes a table from an engine. -/
def removeTableWith (db : Database τ σ) (name : String) :
    Except Diagnostic Unit × Database τ σ :=
  match db.registration? name with
  | none => (.error (TableError.unknownTable name).diagnostic, db)
  | some r =>
    match engine.dropRefusal? db name with
    | some reason => (.error (.statementFailed (EngineName.dropping name) reason), db)
    | none =>
      (.ok (),
        { db with
          tables := db.tables.filter (·.name ≠ name)
          removed := (name, r.memory) :: db.removed.filter (·.1 ≠ name) })

/-- Registers a function under its own name with an engine. Nothing changes when the name is
taken. -/
def addFunctionWith (db : Database τ σ) (f : ScalarFunction) :
    Except Diagnostic Unit × Database τ σ :=
  if (db.function? f.name).isSome then (.ok (), db)
  else
    match engine.functionRefusal? db f.name with
    | some reason =>
      (.error (.internal ("Failed to register function " ++ f.name ++ ": " ++ reason)), db)
    | none =>
      (.ok (),
        { db with
          functions := db.functions ++ [f]
          callable := db.callableWithout f.name ++ [f]
          replaced := f.name :: db.replaced })

/-- Removes a function from an engine. Nothing changes when there is no function of the name. -/
def removeFunctionWith (db : Database τ σ) (name : String) :
    Except Diagnostic Unit × Database τ σ :=
  if (db.function? name).isNone then (.ok (), db)
  else
    match engine.removalRefusal? db name with
    | some reason =>
      (.error (.internal ("Failed to remove function " ++ name ++ ": " ++ reason)), db)
    | none =>
      (.ok (),
        { db with
          functions := db.functions.filter (·.name ≠ name)
          callable := db.callableWithout name })

end Registry

/-- Registers a table under its own name. -/
def addTable (db : Database τ σ) (table : FiniteTable τ σ) (memory : τ) :
    Except Diagnostic Unit × Database τ σ :=
  db.addTableWith .standard table memory

/-- Removes a table, unless a running statement scans it. -/
def removeTable (db : Database τ σ) (name : String) : Except Diagnostic Unit × Database τ σ :=
  db.removeTableWith .standard name

/-- Registers a function under its own name. -/
def addFunction (db : Database τ σ) (f : ScalarFunction) :
    Except Diagnostic Unit × Database τ σ :=
  db.addFunctionWith .standard f

/-- Removes a function, unless it can be called and a statement is running. -/
def removeFunction (db : Database τ σ) (name : String) :
    Except Diagnostic Unit × Database τ σ :=
  db.removeFunctionWith .standard name

/-- The summaries of the registered tables, in the order of their registration. -/
def tableInfos (db : Database τ σ) : List TableInfo :=
  db.tables.map fun r => .ofDef r.table.definition

/-- The summaries of the registered functions, in the order of their registration. -/
def functionInfos (db : Database τ σ) : List FunctionInfo :=
  db.functions.map .ofFunction

/-! ## Work on registered tables -/

/-- Works on the adapter of a table. -/
def withAdapter {α : Type} (db : Database τ σ) (name : String)
    (work : Adapter τ σ → α × Adapter τ σ) : Option α × Database τ σ :=
  match db.registration? name with
  | none => (none, db)
  | some r =>
    let (answer, a) := work r.adapter
    (some answer,
      { db with tables := db.tables.map fun s => if s.name = name then s.update a else s })

/-- Has a plan made for a table; a refusal is recorded. There is no answer without the table. -/
def bestIndex (db : Database τ σ) (name : String) (candidates : List Candidate)
    (used : BitVec 64) : Option (Except TableError PlanOffer) × Database τ σ :=
  let (answer, db) := db.withAdapter name fun a => a.bestIndex candidates used
  match answer with
  | some (.error e) => (answer, { db with log := db.log.record e.diagnostic })
  | _ => (answer, db)

/-- Works on a cursor of a table. Without the table there is nothing to work on. -/
def withCursor (db : Database τ σ) (name : String) (c : Cursor σ)
    (work : Adapter τ σ → Except AdapterError Unit × Cursor σ × Adapter τ σ) :
    Except AdapterError Unit × Cursor σ × Database τ σ :=
  let (answer, db) := db.withAdapter name fun a =>
    let (result, c, a) := work a
    ((result, c), a)
  match answer with
  | some (result, c) => (result, c, db)
  | none => (.error .unbound, c, db)

/-- What a table remembers: the one registered under a name, or the one removed last. -/
def memory? (db : Database τ σ) (name : String) : Option τ :=
  ((db.registration? name).map (·.memory)).or (db.removed.lookup name)

/-- The database after a change of what a table remembers. -/
def changeMemory (db : Database τ σ) (name : String) (change : τ → τ) : Database τ σ :=
  if (db.registration? name).isSome then
    { db with
      tables := db.tables.map fun s =>
        if s.name = name then { s with memory := change s.memory } else s }
  else
    { db with removed := db.removed.map fun (n, m) => (n, if n = name then change m else m) }

/-- Takes the plans that were refused out of the database. -/
def takeRejected (db : Database τ σ) : List Diagnostic × Database τ σ :=
  let (entries, log) := db.log.drain
  (entries, { db with log })

end Database

end VirtualTables
