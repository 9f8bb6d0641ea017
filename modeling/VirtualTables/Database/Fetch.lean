import VirtualTables.Engine.Value

/-!
# Prepared statements

A prepared statement has named columns and can be started. What it then gives is a row, with all
that follows once the row was dealt with, or the end, or a failure. Whoever deals with a row may
change the database meanwhile; so what follows is a function of the database as it is then.

* `Fetch δ` — what is still to come from a running statement on a database of type `δ`.
* `Prepared δ` — a statement that can be started.
* `Fetch.ofRows` — a statement whose rows do not depend on the database.
-/

namespace VirtualTables

/-- What is still to come from a running statement. -/
inductive Fetch (δ : Type) where
  /-- Nothing. -/
  | done
  /-- A failure, and then nothing. -/
  | failed (message : String)
  /-- A row. What comes after it, and what fetching that does to the database, follow from the
  database as it is once the row was dealt with. -/
  | row (values : List EngineValue) (rest : δ → Fetch δ) (effect : δ → δ)

/-- How a list of rows ends: with a failure, or without one. -/
abbrev Ending := Option String

namespace Fetch

variable {δ : Type}

/-- The end of a statement. -/
def ofEnding : Ending → Fetch δ
  | none => done
  | some message => failed message

/-- Rows that are known in advance. -/
def ofRows (ending : Ending) : List (List EngineValue) → Fetch δ
  | [] => ofEnding ending
  | values :: rest => row values (fun _ => ofRows ending rest) id

end Fetch

/-- A statement that can be started. -/
structure Prepared (δ : Type) where
  /-- The names of the columns. -/
  columns : List String
  /-- The tables that the statement scans. -/
  tables : List String
  /-- Starts the statement. -/
  start : δ → Fetch δ × δ

/-- A statement whose rows are known in advance. -/
def Prepared.ofRows {δ : Type} (columns : List String) (rows : List (List EngineValue))
    (ending : Ending) : Prepared δ :=
  { columns, tables := [], start := fun db => (.ofRows ending rows, db) }

end VirtualTables
