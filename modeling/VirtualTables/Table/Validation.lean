import VirtualTables.Table.Definition
import VirtualTables.Table.Error

/-!
# Valid table definitions

A definition is valid when it has a column, no field stands twice, exactly the aliases have a
target, and every target is a column of the table that is no alias. The columns are looked at in
order, and the first one at fault is reported.
-/

namespace VirtualTables

/-- What is wrong with a definition. Columns are named. -/
inductive DefinitionFault where
  | noColumns
  | repeated (column : String)
  | noTarget (column : String)
  | strayTarget (column : String)
  | unknownTarget (column target : String)
  | aliasTarget (column target : String)
  deriving DecidableEq, Repr

/-- The fault in words. -/
def DefinitionFault.reason : DefinitionFault → String
  | noColumns => "no columns"
  | repeated column => s!"column {column} declared twice"
  | noTarget column => s!"alias column {column} has no target"
  | strayTarget column => s!"column {column} has an alias target but is not an alias"
  | unknownTarget column target => s!"alias column {column} points at unknown column {target}"
  | aliasTarget column target => s!"alias column {column} points at alias column {target}"

namespace TableDef

/-- The fault in the target of a column, if there is one. -/
def targetFault? (d : TableDef) (c : Column) : Option DefinitionFault :=
  match c.isAlias, c.target with
  | true, none => some (.noTarget c.field.name)
  | false, some _ => some (.strayTarget c.field.name)
  | false, none => none
  | true, some target =>
    match (d.position? target).bind d.column? with
    | none => some (.unknownTarget c.field.name target.name)
    | some t => if t.isAlias then some (.aliasTarget c.field.name target.name) else none

/-- The first fault among columns that follow columns with the fields `seen`. -/
def firstFault? (d : TableDef) : List Field → List Column → Option DefinitionFault
  | _, [] => none
  | seen, c :: rest =>
    if c.field ∈ seen then some (.repeated c.field.name)
    else (d.targetFault? c).or (firstFault? d (c.field :: seen) rest)

/-- The first fault of a definition, if there is one. -/
def fault? (d : TableDef) : Option DefinitionFault :=
  if d.columns.isEmpty then some .noColumns else d.firstFault? [] d.columns

/-- Accepts a definition without a fault. -/
def validate (d : TableDef) : Except TableError Unit :=
  match d.fault? with
  | none => .ok ()
  | some fault => .error (.invalidDefinition d.name fault.reason)

end TableDef

end VirtualTables
