import Mathlib.Data.List.Forall2
import VirtualTables.Proofs.Json.Record
import VirtualTables.Table.Summary

/-!
# Reading summaries back

The record of a summary names its types and operators, and a name stands for one of them only.  So
the record of a column is read back from its fields (`ColumnInfo.ofJson?_toJson`), and that of a
table from its columns.  Numbers are the only values whose texts need not be read back, and there
is none in a summary.  `TableInfo.parse?_pretty_toJson` is what comes of it: whatever characters
stand in the names and descriptions of a summary, its text gives the summary again.
-/

namespace VirtualTables

/-! ## What a summary says -/

/-- The summary of a column says of it all that an engine is told, and how it is described.  That it
is an alias shows in the column it stands for. -/
structure ColumnInfo.Describes (info : ColumnInfo) (c : Column) : Prop where
  name : info.name = c.field.name
  type : info.type = c.field.type
  options : ∀ option, option ∈ info.options ↔ option ∈ c.options.names ∧ option ≠ "ALIAS"
  ops : ∀ op, op ∈ info.ops ↔ op ∈ c.ops
  description : info.description = c.description
  aliasOf : ∀ name, info.aliasOf = some name ↔
    c.isAlias = true ∧ ∃ target, c.target = some target ∧ target.name = name

/-- The summary of a table says what its definition says, column by column. -/
structure TableInfo.Describes (info : TableInfo) (d : TableDef) : Prop where
  name : info.name = d.name
  columns : List.Forall₂ ColumnInfo.Describes info.columns d.columns
  attributes : info.attributes = d.attributes

theorem ColumnInfo.describes_ofColumn (c : Column) : (ofColumn c).Describes c where
  name := rfl
  type := rfl
  options option := by simp [ofColumn]
  ops op := Iff.rfl
  description := rfl
  aliasOf name := by
    rw [ofColumn]
    split
    · simp [*]
    · simp [*]

theorem TableInfo.describes_ofDef (d : TableDef) : (ofDef d).Describes d where
  name := rfl
  columns := by
    rw [ofDef, List.forall₂_map_left_iff, List.forall₂_same]
    exact fun c _ ↦ ColumnInfo.describes_ofColumn c
  attributes := rfl

/-! ## Names -/

theorem DataType.ofName?_name (t : DataType) : ofName? t.name = some t := by
  cases t with
  | float k => cases k <;> rfl
  | integer k => cases k <;> rfl
  | _ => rfl

theorem ConstraintOp.ofName?_name (op : ConstraintOp) : ofName? op.name = some op := by
  cases op <;> rfl

namespace ColumnInfo

theorem readType?_name (t : DataType) : readType? (.text t.name) = some t :=
  t.ofName?_name

theorem readOp?_name (op : ConstraintOp) : readOp? (.text op.name) = some op :=
  op.ofName?_name

/-! ## Columns -/

theorem wellFormed_toJson (c : ColumnInfo) : c.toJson.WellFormed := by
  rw [toJson, Json.wellFormed_record]
  simp only [List.forall_mem_cons]
  exact ⟨Json.wellFormed_text _, Json.wellFormed_text _,
    Json.wellFormed_array_map Json.wellFormed_text _,
    Json.wellFormed_array_map (fun op ↦ Json.wellFormed_text _) _, Json.wellFormed_text _,
    Json.wellFormed_textOrNull _, List.forall_mem_nil _⟩

/-- **The record of a column is read back.** -/
theorem ofJson?_toJson (c : ColumnInfo) : ofJson? c.toJson = some c := by
  have hfields : c.toJson.fields? ["name", "type", "options", "ops", "description", "alias_of"] =
      some [some (.text c.name), some (.text c.type.name), some (.array (c.options.map .text)),
        some (.array (c.ops.map fun op ↦ .text op.name)), some (.text c.description),
        some (.textOrNull c.aliasOf)] :=
    Json.fields?_record (by simp)
  have hoptions := Json.list?_map Json.text?_text c.options
  have hops := Json.list?_map readOp?_name c.ops
  have halias := Json.optional_textOrNull c.aliasOf
  rw [ofJson?, hfields]
  simp [Json.required, Json.text?_text, readType?_name, hoptions, hops, halias]

end ColumnInfo

namespace TableInfo

/-! ## Tables -/

theorem wellFormed_toJson (t : TableInfo) : t.toJson.WellFormed := by
  rw [toJson, Json.wellFormed_record]
  simp only [List.forall_mem_cons]
  exact ⟨Json.wellFormed_text _, Json.wellFormed_array_map ColumnInfo.wellFormed_toJson _,
    Json.wellFormed_array_map Json.wellFormed_text _, List.forall_mem_nil _⟩

/-- **The record of a table is read back.** -/
theorem ofJson?_toJson (t : TableInfo) : ofJson? t.toJson = some t := by
  have hfields : t.toJson.fields? ["name", "columns", "attributes"] =
      some [some (.text t.name), some (.array (t.columns.map (·.toJson))),
        some (.array (t.attributes.map .text))] :=
    Json.fields?_record (by simp)
  have hcolumns := Json.list?_map ColumnInfo.ofJson?_toJson t.columns
  have hattributes := Json.list?_map Json.text?_text t.attributes
  rw [ofJson?, hfields]
  simp [Json.required, Json.text?_text, hcolumns, hattributes]

/-- **A summary is read back from its text**, that of a definition (`ofDef`) like any other. -/
theorem parse?_pretty_toJson (t : TableInfo) : parse? t.toJson.pretty = some t := by
  rw [parse?, Json.parse?_pretty t.wellFormed_toJson, Option.bind_some, ofJson?_toJson]

end TableInfo

end VirtualTables
