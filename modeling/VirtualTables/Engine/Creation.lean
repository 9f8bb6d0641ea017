import VirtualTables.Engine.Names
import VirtualTables.Statement.Reader
import VirtualTables.Table.Declaration

/-!
# Creating tables in an engine

A table is created by a statement that holds its name as it is, first for the table and then for the
module that serves it. So a name that is no name in a statement is refused there; one between marks
names another module, of which the engine knows nothing. The names of tables must differ by more
than the case of ASCII letters, and so must those of the columns of a table.

* `EngineName.creationRefusal?` — what an engine says against creating a table.
-/

namespace VirtualTables

/-- The name of a column as an engine reads it from a declaration: a back quote that is written
twice stands for one. -/
def Column.declaredName (c : Column) : String :=
  String.ofList (Statement.undoubled '\x60' c.field.name.toList)

namespace EngineName

/-- The statement that creates a table. -/
def creation (name : String) : String :=
  "CREATE VIRTUAL TABLE temp." ++ name ++ " USING " ++ name

/-- The statement that drops a table. -/
def dropping (name : String) : String :=
  "DROP TABLE temp." ++ name

/-- Whether an engine keeps a name for itself. -/
def isInternal (name : String) : Bool :=
  "sqlite_".toList.isPrefixOf (folded name)

/-- Whether an engine can read the name of a column from a declaration: back quotes in it come in
pairs. -/
def isReadable (c : Column) : Bool :=
  (Statement.beforeMark? '\x60' (c.field.name.toList ++ ['\x60'])).any (·.2.isEmpty)

/-- Whether an engine can read the columns of a table from its declaration. -/
def hasReadableColumns (d : TableDef) : Bool :=
  d.columns.length ≤ Refusal.columnLimit && d.columns.all isReadable &&
    !hasRepetition (d.columns.map (·.declaredName))

/-- What an engine says against the declaration of a table that it creates, if it does. -/
def declarationRefusal? (d : TableDef) : Option String :=
  (nulRefusal? d.declaration).or
    (if hasReadableColumns d then none else some ("vtable constructor failed: " ++ d.name))

/-- Why a table is not created. -/
inductive CreationRefusal where
  /-- The statement is refused. -/
  | statement (message : String)
  /-- The table fails when the statement runs, and all that the engine knows of tables is read
  again. -/
  | table (message : String)
  deriving DecidableEq, Repr

/-- What an engine with tables of the names `taken` says against creating a table, if it does. The
statement is kept without the owner of the table, and then the word `IF` is no name in it. -/
def creationRefusal? (taken : List String) (d : TableDef) : Option CreationRefusal :=
  let sql := creation d.name
  match Statement.readCreation sql.toList with
  | .error r => some (.statement (r.message sql))
  | .ok c =>
    if isInternal c.name then
      some (.statement ("object name reserved for internal use: " ++ c.name))
    else if taken.any (same c.name) then
      some (.statement
        (Refusal.atPlace ("table " ++ c.text ++ " already exists") sql c.place))
    else if same c.text "if" then
      some (.table
        ("malformed database schema (" ++ c.name ++ ") - near \"USING\": syntax error"))
    else if !same c.module d.name then some (.table ("no such module: " ++ c.module))
    else (declarationRefusal? d).map .table

end EngineName
end VirtualTables
