import VirtualTables.Constraint

/-!
# Table definitions

A table is defined by its schema and its columns in order. A column may be an *alias*: it has no
data of its own and stands for another column of the table.

* `ColumnOptions` — the flags of a column, as bits.
* `Column`, `TableDef` — columns and tables.
* `TableDef.resolve?` — the position of the column that holds the data of a column.
-/

namespace VirtualTables

/-- The flags of a column. Bits without a name are kept and mean nothing. -/
structure ColumnOptions where
  bits : BitVec 32
  deriving DecidableEq, Repr

namespace ColumnOptions

/-- No flag. -/
def none : ColumnOptions :=
  ⟨0⟩

/-- Looking rows up by the column is cheap; it is a member of the primary key. -/
def indexed : ColumnOptions :=
  ⟨2⟩

/-- A query must put a constraint on the column. -/
def required : ColumnOptions :=
  ⟨4⟩

/-- The column takes constraints and joins the primary key, without being an index. -/
def additional : ColumnOptions :=
  ⟨8⟩

/-- The column can be named, but is left out where all columns are asked for. -/
def hidden : ColumnOptions :=
  ⟨16⟩

/-- The column stands for another one. -/
def aliased : ColumnOptions :=
  ⟨256⟩

/-- The flags of either. -/
def union (a b : ColumnOptions) : ColumnOptions :=
  ⟨a.bits ||| b.bits⟩

/-- Whether every flag of `b` is set. -/
def contains (a b : ColumnOptions) : Bool :=
  a.bits &&& b.bits = b.bits

/-- Whether any flag of `b` is set. -/
def intersects (a b : ColumnOptions) : Bool :=
  a.bits &&& b.bits ≠ 0

/-- Whether no flag is set. -/
def isEmpty (a : ColumnOptions) : Bool :=
  a.bits = 0

/-- The flags that have a name, with their names. -/
def named : List (ColumnOptions × String) :=
  [(indexed, "INDEXED"), (required, "REQUIRED"), (additional, "ADDITIONAL"),
    (hidden, "HIDDEN"), (aliased, "ALIAS")]

/-- The flag of a name; there is a name for no flag, too. -/
def ofName? (name : String) : Option ColumnOptions :=
  if name = "NONE" then some none else (named.find? (·.2 = name)).map Prod.fst

/-- The names of the flags that are set. -/
def names (a : ColumnOptions) : List String :=
  (named.filter fun (option, _) => a.contains option).map Prod.snd

end ColumnOptions

/-- A column of a table. -/
structure Column where
  field : Field
  options : ColumnOptions
  description : String
  /-- The field of the column that an alias stands for. -/
  target : Option Field
  /-- The operators that the table handles for the column; none means equality alone. -/
  ops : OpSet
  deriving DecidableEq

namespace Column

/-- A column with data of its own. -/
def plain (field : Field) : Column :=
  { field, options := .none, description := "", target := none, ops := .ofList [] }

/-- An alias of the column with the field `target`. -/
def aliasOf (field target : Field) : Column :=
  { plain field with options := .aliased, target := some target }

/-- The column with more flags. -/
def withOptions (c : Column) (options : ColumnOptions) : Column :=
  { c with options := c.options.union options }

/-- The column with more operators. -/
def withOps (c : Column) (ops : List ConstraintOp) : Column :=
  { c with ops := .ofList (c.ops.toList ++ ops) }

/-- The column with another description. -/
def withDescription (c : Column) (description : String) : Column :=
  { c with description }

/-- Whether the column stands for another one. -/
def isAlias (c : Column) : Bool :=
  c.options.contains .aliased

/-- Whether queries must put a constraint on the column. -/
def isRequired (c : Column) : Bool :=
  c.options.contains .required

/-- Whether the table takes constraints on the column at all. -/
def takesConstraints (c : Column) : Bool :=
  c.options.intersects ((ColumnOptions.indexed.union .required).union .additional)

/-- Whether the table handles an operator on the column. -/
def accepts (c : Column) (op : ConstraintOp) : Bool :=
  if c.ops.toList = [] then op = .eq else op ∈ c.ops

end Column

/-- A table: its schema, its columns, and words that describe it further. -/
structure TableDef where
  schema : Schema
  columns : List Column
  attributes : List String
  deriving DecidableEq

namespace TableDef

/-- The name of the table. -/
def name (d : TableDef) : String :=
  d.schema.name

/-- The column at a position. -/
def column? (d : TableDef) (index : Nat) : Option Column :=
  d.columns[index]?

/-- The position of the first column with the given field. -/
def position? (d : TableDef) (field : Field) : Option Nat :=
  d.columns.findIdx? (·.field = field)

/-- The position of the column that holds the data of the column at `index`, and that column: the
target of an alias, and the column itself otherwise. -/
def resolve? (d : TableDef) (index : Nat) : Option (Nat × Column) :=
  match d.columns[index]? with
  | none => none
  | some c =>
    match c.target with
    | some target =>
      if c.isAlias then
        (d.position? target).bind fun p => (d.columns[p]?).map fun t => (p, t)
      else some (index, c)
    | none => some (index, c)

/-- The columns that queries must put a constraint on; an alias makes no demands of its own. -/
def requiredColumns (d : TableDef) : List Column :=
  d.columns.filter fun c => !c.isAlias && c.isRequired

end TableDef

end VirtualTables
