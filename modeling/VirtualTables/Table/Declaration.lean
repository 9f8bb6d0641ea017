import VirtualTables.Table.Definition

/-!
# Declaring a table to an engine

An engine learns the columns of a table from the text of a declaration. Every column is declared, in
order, so that the engine counts columns as the definition does. An alias is declared with the type
of its target, and like a hidden column it is marked as hidden. The columns flagged as indexed or
additional are the primary key, but only if one of them is indexed.
-/

namespace VirtualTables

/-- The keyword that declares a column of the type. -/
def DataType.keyword : DataType → String
  | float _ => "FLOAT"
  | integer .int8 => "BIGINT"
  | integer .uint8 => "UNSIGNED BIGINT"
  | boolean | integer _ => "INTEGER"
  | blob => "BLOB"
  | utf8 | any | undefined => "TEXT"

namespace Column

/-- The name of the column between back quotes. -/
def quotedName (c : Column) : String :=
  "\x60" ++ c.field.name ++ "\x60"

/-- Whether the column is declared as hidden. -/
def isDeclaredHidden (c : Column) : Bool :=
  c.isAlias || c.options.contains .hidden

/-- Whether the column belongs to the primary key of a table that has one. -/
def isKeyMember (c : Column) : Bool :=
  !c.isAlias && c.options.intersects (ColumnOptions.indexed.union .additional)

/-- Whether the column makes its table have a primary key. -/
def isIndexed (c : Column) : Bool :=
  !c.isAlias && c.options.contains .indexed

end Column

namespace TableDef

/-- The type that the column at `index` is declared with: that of the column with its data. -/
def declaredType (d : TableDef) (index : Nat) (c : Column) : DataType :=
  match d.resolve? index with
  | some (_, target) => if c.isAlias then target.field.type else c.field.type
  | none => c.field.type

/-- The declaration of the column at `index`. -/
def columnDeclaration (d : TableDef) (index : Nat) (c : Column) : String :=
  c.quotedName ++ " " ++ (d.declaredType index c).keyword ++
    if c.isDeclaredHidden then " HIDDEN" else ""

/-- The declarations of all columns. -/
def columnDeclarations (d : TableDef) : List String :=
  d.columns.mapIdx d.columnDeclaration

/-- Whether the table has a primary key. -/
def hasKey (d : TableDef) : Bool :=
  d.columns.any (·.isIndexed)

/-- The quoted names of the members of the primary key. -/
def keyNames (d : TableDef) : List String :=
  (d.columns.filter (·.isKeyMember)).map (·.quotedName)

/-- The text that declares the table. -/
def declaration (d : TableDef) : String :=
  "CREATE TABLE " ++ d.name ++ "(" ++ ", ".intercalate d.columnDeclarations ++
    (if d.hasKey then ", PRIMARY KEY (" ++ ", ".intercalate d.keyNames ++ ")" else "") ++ ")" ++
    (if d.hasKey then " WITHOUT ROWID" else "")

end TableDef

end VirtualTables
