import Mathlib.Data.List.Find
import VirtualTables.Proofs.Interning
import VirtualTables.Proofs.Row
import VirtualTables.Proofs.Table.Declaration

/-!
# Names of columns

A definition with a repeated column is not accepted, and columns count as repeated if they have the
same field.  A declaration and a lookup in a row know columns by their names alone, and a name may
belong to several fields: they differ in type, in schema or in registry.

Fields that were asked for in the same way are the same (`Interner.field_of_key`), so nothing else
can go wrong.  `TableDef.distinct_names_iff` says that the names in the declaration of an accepted
definition are distinct exactly when the columns of one name agree in these three.
-/

namespace VirtualTables

/-! ## Looking a value up by name -/

namespace Row

variable {row : Row}

/-- Where a name belongs to one field, it serves as well as the field. -/
theorem getByName?_eq_get? {f : Field} (h : ∀ g ∈ row.fields, g.name = f.name → g = f) :
    row.getByName? f.name = row.get? f := by
  rw [getByName?, get?]
  refine congrArg _ (List.find?_congr fun entry hentry ↦ ?_)
  rw [decide_eq_decide]
  exact ⟨h entry.1 (List.mem_map_of_mem hentry), fun heq ↦ heq ▸ rfl⟩

/-- A value is found under the name of its field, for whatever other field it is meant. -/
theorem getByName?_set_empty (f : Field) (v : Value) :
    (empty.set f v).getByName? f.name = some v := by
  rw [getByName?, entries_set, empty, setEntry, List.find?_singleton, if_pos (decide_eq_true rfl),
    Option.map_some]

end Row

namespace TableDef

variable {d : TableDef}

/-- The names of the columns, as the declaration has them. -/
def headingNames (d : TableDef) : List String :=
  d.headings.map (·.name)

/-! ## Columns of one name -/

/-- Columns of the same name have the same field. -/
def NamesTellFields (d : TableDef) : Prop :=
  ∀ c ∈ d.columns, ∀ c' ∈ d.columns, c.field.name = c'.field.name → c.field = c'.field

theorem WellFormed.nodup_headingNames_iff (hd : d.WellFormed) :
    d.headingNames.Nodup ↔ d.NamesTellFields := by
  have hmap : d.columns.map (·.field.name) = (d.columns.map (·.field)).map (·.name) := by
    rw [List.map_map]
    rfl
  rw [headingNames, names_headings, hmap, List.nodup_map_iff_inj_on hd.nodup_fields]
  simp only [List.forall_mem_map, NamesTellFields]

/-- The names tell the fields exactly if every lookup by name finds what the lookup by field
does. -/
theorem namesTellFields_iff_getByName? : d.NamesTellFields ↔
    ∀ row : Row, (∀ f ∈ row.fields, f ∈ d.columns.map (·.field)) →
      ∀ c ∈ d.columns, row.getByName? c.field.name = row.get? c.field := by
  constructor
  · intro htell row hrow c hc
    refine Row.getByName?_eq_get? fun f hf hname ↦ ?_
    obtain ⟨c', hc', rfl⟩ := List.mem_map.1 (hrow f hf)
    exact htell c' hc' c hc hname
  · intro hlookup c hc c' hc' hname
    -- a row with nothing but the first of the two columns
    have hfound := hlookup (Row.empty.set c.field .undefined)
      (fun f hf ↦ List.mem_singleton.1 hf ▸ List.mem_map_of_mem hc) c' hc'
    rw [← hname, Row.getByName?_set_empty, Row.get?_set] at hfound
    by_contra hne
    rw [if_neg hne] at hfound
    cases hfound

/-- **When the names of the columns are distinct.**  Take any accepted definition with fields that
were given by any registries, with or without schemas.  The names that its declaration has for the
columns are distinct exactly when the columns of one name agree in registry, schema and type, and
exactly then each value of a row is found by the name of its column. -/
theorem distinct_names_iff {requests : List Interner.Request} (hvalid : d.validate = .ok ())
    (hfields : ∀ c ∈ d.columns, ∃ r, (r, .field c.field) ∈ Interner.empty.answers requests) :
    d.declaration = "CREATE TABLE " ++ d.name ++ "(" ++
        ", ".intercalate (d.headings.map Heading.text) ++ d.ending ∧
      (d.headingNames.Nodup ↔ ∀ c ∈ d.columns, ∀ c' ∈ d.columns, c.field.name = c'.field.name →
        c.field.registry = c'.field.registry ∧ c.field.schemaName? = c'.field.schemaName? ∧
          c.field.type = c'.field.type) ∧
      (d.headingNames.Nodup ↔
        ∀ row : Row, (∀ f ∈ row.fields, f ∈ d.columns.map (·.field)) →
          ∀ c ∈ d.columns, row.getByName? c.field.name = row.get? c.field) := by
  have hnodup := (wellFormed_of_validate hvalid).nodup_headingNames_iff
  refine ⟨d.declaration_eq, hnodup.trans ⟨fun htell c hc c' hc' hname ↦ ?_,
    fun hagree c hc c' hc' hname ↦ ?_⟩, hnodup.trans namesTellFields_iff_getByName?⟩
  · rw [htell c hc c' hc' hname]
    exact ⟨rfl, rfl, rfl⟩
  · obtain ⟨r, hr⟩ := hfields c hc
    obtain ⟨r', hr'⟩ := hfields c' hc'
    obtain ⟨hregistry, hschema, htype⟩ := hagree c hc c' hc' hname
    refine Interner.field_of_key hr hr' ?_
    rw [Field.key, Field.key, hregistry, hschema, htype, hname]

end TableDef

namespace Sample.Names

/-! ## Names from several registries -/

/-- The names of people belong to a schema that comes from another registry. -/
def name : Field :=
  ⟨.shared, .utf8, "name", some ⟨.isolated 0, "people"⟩⟩

def age : Field :=
  .unscoped (.isolated 1) (.integer .uint8) "age"

def years : Field :=
  .inSchema ⟨.isolated 0, "people"⟩ .undefined "years"

/-- The requests for these fields; the first two of them are for the same one. -/
def requests : List Interner.Request :=
  [.fieldIn .shared ⟨.isolated 0, "people"⟩ .utf8 "name",
    .fieldIn .shared ⟨.shared, "people"⟩ .utf8 "name",
    .field (.isolated 1) (.integer .uint8) "age",
    .fieldIn (.isolated 0) ⟨.isolated 0, "people"⟩ .undefined "years"]

/-- A table of people, with fields of three registries. -/
def people : TableDef where
  schema := ⟨.shared, "people"⟩
  columns := [(Column.plain name).withOptions .indexed, .plain age, .aliasOf years age]
  attributes := []

/-- The names of the columns are distinct, and they are enough to read the values of a row. -/
theorem distinct_names_of_people :
    people.validate = .ok () ∧
      (∀ c ∈ people.columns, ∃ r, (r, .field c.field) ∈ Interner.empty.answers requests) ∧
      people.headingNames.Nodup ∧
      ∀ v w : Value, let row := Row.ofList [(name, v), (age, w)]
        row.getByName? "name" = some v ∧ row.getByName? "age" = some w ∧
          row.getByName? "years" = none := by
  have hvalid : people.validate = .ok () := rfl
  have hfields : ∀ c ∈ people.columns, ∃ r,
      (r, .field c.field) ∈ Interner.empty.answers requests := by
    have hasked : ∀ c ∈ people.columns, ∃ r ∈ requests,
        (r, .field c.field) ∈ Interner.empty.answers requests := by
      decide +kernel
    exact fun c hc ↦ (hasked c hc).imp fun _ ↦ And.right
  obtain ⟨-, hagree, hlookup⟩ := TableDef.distinct_names_iff hvalid hfields
  have hnames : people.headingNames.Nodup := hagree.2 (by decide +kernel)
  refine ⟨hvalid, hfields, hnames, fun v w ↦ ?_⟩
  have hset : [name, age].Nodup ∧ ∀ f ∈ [name, age], f ∈ people.columns.map (·.field) := by
    decide
  have hentries : (Row.ofList [(name, v), (age, w)]).entries = [(name, v), (age, w)] :=
    Row.entries_ofList_of_nodup hset.1
  have hfound := hlookup.1 hnames (Row.ofList [(name, v), (age, w)]) (by
    rw [Row.fields, hentries]
    exact hset.2)
  simp only [Row.get?_ofList] at hfound
  exact ⟨(hfound _ (.head _)).trans rfl, (hfound _ (.tail _ (.head _))).trans rfl,
    (hfound _ (.tail _ (.tail _ (.head _)))).trans rfl⟩

/-- **A name may be declared twice.**  Any two fields of one name make a definition that is
accepted. -/
theorem declared_twice (schema : Schema) {f f' : Field} (hne : f ≠ f') (hname : f.name = f'.name) :
    let d := TableDef.ofFields schema [f, f']
    d.validate = .ok () ∧ ¬d.headingNames.Nodup := by
  intro d
  refine ⟨TableDef.validate_ofFields (by simp) (by simpa using hne), ?_⟩
  rw [TableDef.headingNames, TableDef.names_headings]
  exact fun hnodup ↦ (List.nodup_cons.1 hnodup).1 (List.mem_singleton.2 hname)

/-- The column `a` is declared twice, once as an integer and once as a text. -/
theorem column_declared_twice :
    let requests := [.field .shared (.integer .int8) "a", .field .shared .utf8 "a"]
    let fields := [Field.unscoped .shared (.integer .int8) "a", .unscoped .shared .utf8 "a"]
    let d := TableDef.ofFields ⟨.shared, "t"⟩ fields
    Interner.empty.answers requests = requests.zip (fields.map .field) ∧ d.validate = .ok () ∧
      d.declaration = "CREATE TABLE t(\x60a\x60 BIGINT, \x60a\x60 TEXT)" ∧
      d.headingNames = ["a", "a"] ∧ ¬d.headingNames.Nodup := by
  refine ⟨by decide, rfl, by decide +kernel, rfl, by decide⟩

end Sample.Names
end VirtualTables
