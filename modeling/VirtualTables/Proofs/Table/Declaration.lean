import Mathlib.Data.List.Forall2
import VirtualTables.Proofs.Plan.Pushdown
import VirtualTables.Sample.Users
import VirtualTables.Table.Declaration

/-!
# What a declaration depends on

A declaration says three things: the name of the table, the name, type and visibility of each column
(`Heading`), and which columns are the key.  A definition holds much more than that, and an alias
gets its type from a column that may stand anywhere in the table.

* `TableDef.DeclaredAlike` — two definitions agree in what a declaration is made of.  Everything
  else is left open: operators, words of description, flags that a declaration does not look at, and
  all that an alias has beside its name and its target.
* `TableDef.KeyColumns` — the key, said of the columns and their flags.
* `TableDef.ofFields` — a definition without flags, which is declared by its fields alone.
* `TableDef.declaration_of_parts` — definitions that are declared alike have the same text, and the
  text ends in `WITHOUT ROWID` exactly if some column with data is indexed.
-/

namespace VirtualTables

/-! ## Headings -/

/-- What a declaration says of a column. -/
structure Heading where
  name : String
  keyword : String
  hidden : Bool
  deriving DecidableEq, Repr

/-- A heading as it is written. -/
def Heading.text (h : Heading) : String :=
  "\x60" ++ h.name ++ "\x60" ++ " " ++ h.keyword ++ if h.hidden then " HIDDEN" else ""

namespace TableDef

variable {d d' : TableDef}

/-- The headings of all columns, in order. -/
def headings (d : TableDef) : List Heading :=
  d.columns.mapIdx fun index c ↦
    ⟨c.field.name, (d.declaredType index c).keyword, c.isDeclaredHidden⟩

/-- What a declaration says behind its columns. -/
def ending (d : TableDef) : String :=
  if d.hasKey then ", PRIMARY KEY (" ++ ", ".intercalate d.keyNames ++ ")) WITHOUT ROWID" else ")"

theorem columnDeclarations_eq (d : TableDef) :
    d.columnDeclarations = d.headings.map Heading.text := by
  refine List.mapIdx_eq_iff.2 fun i ↦ ?_
  rw [List.getElem?_map, headings, List.getElem?_mapIdx, Option.map_map]
  rfl

/-- **A declaration is the name of the table, the headings of its columns, and an ending.** -/
theorem declaration_eq (d : TableDef) :
    d.declaration = "CREATE TABLE " ++ d.name ++ "(" ++
      ", ".intercalate (d.headings.map Heading.text) ++ d.ending := by
  have hclosing : ")" ++ (")" ++ " WITHOUT ROWID") = ")) WITHOUT ROWID" := by decide
  -- rewriting with `declaration` itself would evaluate the texts in it
  delta declaration
  rw [ending, columnDeclarations_eq]
  cases d.hasKey with
  | true => simp only [if_true, String.append_assoc, hclosing]
  | false => simp only [Bool.false_eq_true, if_false, String.append_empty]

theorem names_headings (d : TableDef) :
    d.headings.map (·.name) = d.columns.map (·.field.name) := by
  refine List.ext_getElem? fun i ↦ ?_
  rw [List.getElem?_map, headings, List.getElem?_mapIdx, Option.map_map, List.getElem?_map]
  rfl

theorem declaredType_of_plain {c : Column} (hplain : c.isAlias = false) (i : Nat) :
    d.declaredType i c = c.field.type := by
  rw [declaredType]
  split
  · rw [hplain, if_neg Bool.false_ne_true]
  · rfl

/-- A column is declared with the type of the column that holds its data. -/
theorem WellFormed.declaredType_of_resolve? (hd : d.WellFormed) {i p : Nat} {c t : Column}
    (hc : d.columns[i]? = some c) (h : d.resolve? i = some (p, t)) :
    d.declaredType i c = t.field.type := by
  cases ha : c.isAlias with
  | true =>
    rw [declaredType, h, ha]
    exact if_pos rfl
  | false =>
    have hself := (hd.resolve?_of_plain hc ha).symm.trans h
    rw [Option.some_inj, Prod.mk.injEq] at hself
    rw [declaredType_of_plain ha, hself.2]

end TableDef

/-! ## The key -/

namespace Column

theorem isIndexed_iff {c : Column} :
    c.isIndexed = true ↔ c.isAlias = false ∧ c.options.contains .indexed = true := by
  rw [isIndexed, Bool.and_eq_true, Bool.not_eq_true']

theorem isKeyMember_iff {c : Column} :
    c.isKeyMember = true ↔ c.isAlias = false ∧
      (c.options.contains .indexed = true ∨ c.options.contains .additional = true) := by
  rw [isKeyMember, ColumnOptions.intersects_union,
    c.options.intersects_of_named .indexed (by decide),
    c.options.intersects_of_named .additional (by decide),
    Bool.and_eq_true, Bool.not_eq_true', Bool.or_eq_true]

end Column

namespace TableDef

variable {d d' : TableDef}

/-- The columns of the key, in the order of the table: those with data of their own that are flagged
as indexed or as additional. -/
structure KeyColumns (d : TableDef) (keys : List Column) : Prop where
  sublist : keys.Sublist d.columns
  mem_iff : ∀ c ∈ d.columns, c ∈ keys ↔ c.isAlias = false ∧
    (c.options.contains .indexed = true ∨ c.options.contains .additional = true)

theorem keyColumns_filter (d : TableDef) : d.KeyColumns (d.columns.filter (·.isKeyMember)) where
  sublist := List.filter_sublist
  mem_iff c hc := by rw [List.mem_filter, and_iff_right hc, Column.isKeyMember_iff]

theorem hasKey_iff : d.hasKey = true ↔
    ∃ c ∈ d.columns, c.isAlias = false ∧ c.options.contains .indexed = true := by
  simp only [hasKey, List.any_eq_true, Column.isIndexed_iff]

/-- A text that ends in a parenthesis ends in no word. -/
theorem append_paren_ne (before after : String) : before ++ ")" ≠ after ++ " WITHOUT ROWID" := by
  intro h
  have hlast := congrArg (fun s : String ↦ s.toList.getLast?) h
  simp at hlast

/-- The last words of a declaration tell whether there is a key. -/
theorem withoutRowid_iff (d : TableDef) :
    (∃ before, d.declaration = before ++ " WITHOUT ROWID") ↔ d.hasKey = true := by
  rw [declaration_eq, ending]
  constructor
  · rintro ⟨before, h⟩
    by_contra hkey
    rw [if_neg hkey] at h
    exact append_paren_ne _ _ h
  · intro hkey
    have hclosing : "))" ++ " WITHOUT ROWID" = ")) WITHOUT ROWID" := by decide
    refine ⟨"CREATE TABLE " ++ d.name ++ "(" ++ ", ".intercalate (d.headings.map Heading.text) ++
      (", PRIMARY KEY (" ++ ", ".intercalate d.keyNames ++ "))"), ?_⟩
    rw [if_pos hkey, ← hclosing]
    simp only [String.append_assoc]

end TableDef

/-! ## Definitions without flags -/

namespace TableDef

/-- The definition with columns of the given fields and without any flags. -/
def ofFields (schema : Schema) (fields : List Field) : TableDef where
  schema := schema
  columns := fields.map .plain
  attributes := []

section OfFields

variable {schema : Schema} {fields : List Field}

theorem flags_of_mem_ofFields (schema : Schema) (fields : List Field) :
    ∀ c ∈ (ofFields schema fields).columns, c.isAlias = false ∧ c.target = none ∧
      c.options.contains .indexed = false ∧ c.options.contains .hidden = false := by
  have hflags : ColumnOptions.none.contains .aliased = false ∧
      ColumnOptions.none.contains .indexed = false ∧
      ColumnOptions.none.contains .hidden = false := by
    decide
  exact List.forall_mem_map.2 fun f _ ↦ ⟨hflags.1, rfl, hflags.2⟩

theorem validate_ofFields (hne : fields ≠ []) (hnodup : fields.Nodup) :
    (ofFields schema fields).validate = .ok () := by
  have hflags := flags_of_mem_ofFields schema fields
  have hfields : (ofFields schema fields).columns.map (·.field) = fields := by
    rw [ofFields, List.map_map]
    exact List.map_id fields
  refine validate_eq_ok_iff.2 (wellFormed_of_plain ?_ ?_ ?_)
  · simpa [ofFields] using hne
  · rwa [hfields]
  · exact fun c hc ↦ ⟨(hflags c hc).1, (hflags c hc).2.1⟩

theorem declaration_ofFields :
    (ofFields schema fields).declaration = "CREATE TABLE " ++ schema.name ++ "(" ++
      ", ".intercalate (fields.map fun f ↦ Heading.text ⟨f.name, f.type.keyword, false⟩) ++
        ")" := by
  have hflags := flags_of_mem_ofFields schema fields
  have hheadings : (ofFields schema fields).headings =
      fields.map fun f ↦ ⟨f.name, f.type.keyword, false⟩ := by
    refine List.mapIdx_eq_iff.2 fun i ↦ ?_
    rw [ofFields, List.getElem?_map, List.getElem?_map, Option.map_map]
    refine Option.map_congr fun f hf ↦ ?_
    obtain ⟨hplain, -, -, hhidden⟩ :=
      hflags (.plain f) (List.mem_map_of_mem (List.mem_of_getElem? hf))
    rw [Function.comp_apply, declaredType_of_plain hplain, Column.isDeclaredHidden,
      hplain, hhidden]
    rfl
  have hkey : ¬(ofFields schema fields).hasKey = true := by
    rw [hasKey_iff]
    rintro ⟨c, hc, -, hflag⟩
    exact Bool.false_ne_true ((hflags c hc).2.2.1.symm.trans hflag)
  rw [declaration_eq, ending, if_neg hkey, hheadings, List.map_map]
  rfl

end OfFields

end TableDef

/-! ## Definitions that are declared alike -/

/-- Two columns between which a declaration sees no difference, if not in their types. -/
structure Column.DeclaredAlike (c c' : Column) : Prop where
  name : c.field.name = c'.field.name
  isAlias : c.isAlias = c'.isAlias
  flags : c.isAlias = false → ∀ flag ∈ [ColumnOptions.indexed, .additional, .hidden],
    c.options.contains flag = c'.options.contains flag

namespace Column.DeclaredAlike

variable {c c' : Column}

theorem quotedName (h : c.DeclaredAlike c') : c.quotedName = c'.quotedName := by
  rw [Column.quotedName, Column.quotedName, h.name]

theorem isDeclaredHidden (h : c.DeclaredAlike c') :
    c.isDeclaredHidden = c'.isDeclaredHidden := by
  rw [Column.isDeclaredHidden, Column.isDeclaredHidden, ← h.isAlias]
  cases ha : c.isAlias with
  | true => rfl
  | false => rw [h.flags ha .hidden (by simp)]

theorem isIndexed (h : c.DeclaredAlike c') : c.isIndexed = c'.isIndexed := by
  rw [Bool.eq_iff_iff, isIndexed_iff, isIndexed_iff, ← h.isAlias]
  refine and_congr_right fun ha ↦ ?_
  rw [h.flags ha .indexed (by simp)]

theorem isKeyMember (h : c.DeclaredAlike c') : c.isKeyMember = c'.isKeyMember := by
  rw [Bool.eq_iff_iff, isKeyMember_iff, isKeyMember_iff, ← h.isAlias]
  refine and_congr_right fun ha ↦ ?_
  rw [h.flags ha .indexed (by simp), h.flags ha .additional (by simp)]

end Column.DeclaredAlike

namespace TableDef

variable {d d' : TableDef}

/-- Two definitions that agree in what a declaration is made of.  The type of a column is that of
the column that holds its data, and of the type only the keyword counts. -/
structure DeclaredAlike (d d' : TableDef) : Prop where
  name : d.name = d'.name
  columns : List.Forall₂ Column.DeclaredAlike d.columns d'.columns
  keywords : ∀ i, (d.resolve? i).map (fun found ↦ found.2.field.type.keyword) =
    (d'.resolve? i).map fun found ↦ found.2.field.type.keyword

namespace DeclaredAlike

/-- The columns at one position are declared with the same keyword. -/
theorem keyword (h : d.DeclaredAlike d') (hd : d.WellFormed) (hd' : d'.WellFormed) {i : Nat}
    {c c' : Column} (hc : d.columns[i]? = some c) (hc' : d'.columns[i]? = some c') :
    (d.declaredType i c).keyword = (d'.declaredType i c').keyword := by
  obtain ⟨p, t, hresolve⟩ := hd.exists_resolve? (List.getElem?_eq_some_iff.1 hc).1
  obtain ⟨p', t', hresolve'⟩ := hd'.exists_resolve? (List.getElem?_eq_some_iff.1 hc').1
  have hsame := h.keywords i
  rw [hresolve, hresolve', Option.map_some, Option.map_some, Option.some_inj] at hsame
  rw [hd.declaredType_of_resolve? hc hresolve, hd'.declaredType_of_resolve? hc' hresolve', hsame]

theorem headings (h : d.DeclaredAlike d') (hd : d.WellFormed) (hd' : d'.WellFormed) :
    d.headings = d'.headings := by
  have hlength := h.columns.length_eq
  refine List.ext_getElem (by simpa [TableDef.headings] using hlength) fun i hi hi' ↦ ?_
  rw [TableDef.headings, List.length_mapIdx] at hi hi'
  have halike : d.columns[i].DeclaredAlike d'.columns[i] := h.columns.get hi hi'
  have hkeyword := h.keyword hd hd' (List.getElem?_eq_getElem hi) (List.getElem?_eq_getElem hi')
  simp only [TableDef.headings, List.getElem_mapIdx, halike.name, hkeyword,
    halike.isDeclaredHidden]

/-- Column by column, the key is the same. -/
theorem key_of_columns {cs cs' : List Column} (h : List.Forall₂ Column.DeclaredAlike cs cs') :
    cs.any (·.isIndexed) = cs'.any (·.isIndexed) ∧
      (cs.filter (·.isKeyMember)).map (·.quotedName) =
        (cs'.filter (·.isKeyMember)).map (·.quotedName) := by
  induction h with
  | nil => exact ⟨rfl, rfl⟩
  | @cons c c' cs cs' hc _ ih =>
    rw [List.any_cons, List.any_cons, hc.isIndexed, ih.1]
    refine ⟨rfl, ?_⟩
    cases hkey : c'.isKeyMember with
    | true =>
      rw [List.filter_cons_of_pos (hc.isKeyMember.trans hkey), List.filter_cons_of_pos hkey,
        List.map_cons, List.map_cons, hc.quotedName, ih.2]
    | false =>
      rw [List.filter_cons_of_neg (by simp [hc.isKeyMember, hkey]),
        List.filter_cons_of_neg (by simp [hkey]), ih.2]

theorem ending (h : d.DeclaredAlike d') : d.ending = d'.ending := by
  obtain ⟨hkey, hnames⟩ := key_of_columns h.columns
  rw [TableDef.ending, TableDef.ending, keyNames, keyNames, hnames, hasKey, hasKey, hkey]

/-- **Definitions that are declared alike have the same declaration.** -/
theorem declaration (h : d.DeclaredAlike d') (hd : d.WellFormed) (hd' : d'.WellFormed) :
    d.declaration = d'.declaration := by
  rw [declaration_eq, declaration_eq, h.name, h.headings hd hd', h.ending]

end DeclaredAlike

/-- **What a declaration depends on.**  Two accepted definitions that agree in the name of the
table, in the names of the columns and which of them are aliases, in the keywords of the types that
the columns resolve to, and for the columns with data in the flags for indexed, additional and
hidden columns, are declared by the same text, whatever else is in them.

The text ends in `WITHOUT ROWID` exactly if some column with data is indexed.  Then the key are the
columns with data that are indexed or additional, and no others, in the order of the table. -/
theorem declaration_of_parts :
    (∀ d d' : TableDef, d.validate = .ok () → d'.validate = .ok () → d.DeclaredAlike d' →
        d.declaration = d'.declaration) ∧
      ∀ d : TableDef, d.validate = .ok () →
        ((∃ before, d.declaration = before ++ " WITHOUT ROWID") ↔
            ∃ c ∈ d.columns, c.isAlias = false ∧ c.options.contains .indexed = true) ∧
          ((∃ c ∈ d.columns, c.isAlias = false ∧ c.options.contains .indexed = true) →
            ∃ keys, d.KeyColumns keys ∧ d.declaration =
              "CREATE TABLE " ++ d.name ++ "(" ++ ", ".intercalate (d.headings.map Heading.text) ++
                (", PRIMARY KEY (" ++ ", ".intercalate (keys.map (·.quotedName)) ++
                  ")) WITHOUT ROWID")) := by
  refine ⟨fun d d' hvalid hvalid' halike ↦ ?_, fun d _ ↦ ⟨?_, fun hindexed ↦ ?_⟩⟩
  · exact halike.declaration (wellFormed_of_validate hvalid) (wellFormed_of_validate hvalid')
  · rw [withoutRowid_iff, hasKey_iff]
  · refine ⟨d.columns.filter (·.isKeyMember), d.keyColumns_filter, ?_⟩
    rw [declaration_eq, ending, if_pos (hasKey_iff.2 hindexed), keyNames]

end TableDef

namespace Sample.Users

/-- The users once more, in a registry of their own and with as much changed as can be: other types
with the same keywords, other operators, flags and descriptions, and an alias with a type and flags
of its own. -/
def recast : TableDef where
  schema := ⟨.isolated 0, "users"⟩
  columns :=
    [((Column.plain (.unscoped (.isolated 0) .boolean "userid")).withOptions .indexed).withOptions
        .required,
      (Column.plain (.unscoped (.isolated 0) .any "username")).withOptions ⟨0x80000001⟩,
      (Column.plain (.unscoped (.isolated 0) .utf8 "home")).withOps [.like],
      ((Column.aliasOf (.unscoped (.isolated 0) .blob "uid")
        (.unscoped (.isolated 0) .boolean "userid")).withOptions .indexed).withOptions .hidden]
  attributes := []

/-- It is declared like the users are, and its key is the first column: the alias is flagged as
indexed, too, but has no data. -/
theorem declaration_of_recast :
    definition.validate = .ok () ∧ recast.validate = .ok () ∧ definition.DeclaredAlike recast ∧
      definition.declaration = recast.declaration ∧
      (∃ before, recast.declaration = before ++ " WITHOUT ROWID") ∧
      ∃ keys, recast.KeyColumns keys ∧ recast.declaration =
        "CREATE TABLE " ++ recast.name ++ "(" ++
          ", ".intercalate (recast.headings.map Heading.text) ++
            (", PRIMARY KEY (" ++ ", ".intercalate (keys.map (·.quotedName)) ++
              ")) WITHOUT ROWID") := by
  have hvalid : definition.validate = .ok () := rfl
  have hvalid' : recast.validate = .ok () := rfl
  have halike : definition.DeclaredAlike recast :=
    { name := rfl
      columns := by
        refine .cons ⟨rfl, rfl, ?_⟩ (.cons ⟨rfl, rfl, ?_⟩ (.cons ⟨rfl, rfl, ?_⟩
          (.cons ⟨rfl, rfl, ?_⟩ .nil))) <;> decide
      keywords := fun
        | 0 | 1 | 2 | 3 => rfl
        | _ + 4 => rfl }
  have hindexed : ∃ c ∈ recast.columns, c.isAlias = false ∧ c.options.contains .indexed = true := by
    decide
  obtain ⟨hsame, hparts⟩ := TableDef.declaration_of_parts
  obtain ⟨hends, hkey⟩ := hparts recast hvalid'
  exact ⟨hvalid, hvalid', halike, hsame definition recast hvalid hvalid' halike,
    hends.2 hindexed, hkey hindexed⟩

example : recast.declaration =
    "CREATE TABLE users(\x60userid\x60 INTEGER, \x60username\x60 TEXT, \x60home\x60 TEXT, " ++
      "\x60uid\x60 INTEGER HIDDEN, PRIMARY KEY (\x60userid\x60)) WITHOUT ROWID" := by
  decide +kernel

end Sample.Users
end VirtualTables
