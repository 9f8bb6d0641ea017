import VirtualTables.DataType

/-!
# Interned names of columns

Tables, rows and results key their values by *fields*. A field has a type, a name and possibly the
schema of the table it belongs to, and it is interned: whoever asks a registry for the same type,
name and schema name gets the same field.

What is handed out is a pointer to a field or to a schema. It was allocated when its key was asked
for first, and pointers are compared by the place they point to. An interner allocates once for each
key, so places and what is found there correspond one to one, and elsewhere in the library a field
or a schema stands for its place.

Registries are independent of each other. A registry tells schemas apart by their names alone, so a
field keeps the schema of its first request even if a later request comes with the schema of the
same name from another registry.

* `Schema`, `Field` — what is allocated.
* `InternTable` — what was asked for so far, with the pointers that were handed out.
* `Interner` — the tables of all registries.
* `Interner.schema`, `Interner.field`, `Interner.fieldIn` — the requests.
-/

namespace VirtualTables

/-- The name of a registry: the one that everybody shares, or one of its own. -/
inductive RegistryId where
  | shared
  | isolated (n : Nat)
  deriving DecidableEq, Repr

/-- The identity of a table, by name within a registry. -/
structure Schema where
  registry : RegistryId
  name : String
  deriving DecidableEq, Repr

/-- The identity of a column. -/
structure Field where
  registry : RegistryId
  type : DataType
  name : String
  schema : Option Schema
  deriving DecidableEq, Repr

namespace Field

/-- The field of a registry that belongs to no schema. -/
def unscoped (registry : RegistryId) (type : DataType) (name : String) : Field :=
  ⟨registry, type, name, none⟩

/-- The field of a schema, in the registry that the schema comes from. -/
def inSchema (schema : Schema) (type : DataType) (name : String) : Field :=
  ⟨schema.registry, type, name, some schema⟩

/-- The name of the schema that a field belongs to. -/
def schemaName? (f : Field) : Option String :=
  f.schema.map (·.name)

/-- A field as it is shown in descriptions of what holds it. -/
def describe (f : Field) : String :=
  s!"Field({f.name}: {f.type.label})"

end Field

/-- A schema as it is shown in descriptions. -/
def Schema.describe (s : Schema) : String :=
  s!"SchemaId({s.name})"

/-! ## Tables of what was allocated -/

/-- A pointer to something that was allocated. -/
structure Pointer (α : Type) where
  /-- The place it points to. Pointers to one place are the same pointer. -/
  place : Nat
  /-- What is found there. -/
  content : α
  deriving DecidableEq, Repr

/-- The keys that were asked for so far, each with the pointer that was handed out for it. -/
structure InternTable (κ α : Type) where
  /-- The keys in the order of the first request. -/
  entries : List (κ × Pointer α)
  /-- The number of allocations so far. Each has a place of its own. -/
  allocated : Nat
  deriving DecidableEq, Repr

namespace InternTable

variable {κ α : Type}

/-- Nothing was asked for yet. -/
def empty : InternTable κ α :=
  ⟨[], 0⟩

/-- The pointer for a key. If the key was not asked for before, the content is allocated. -/
def intern [DecidableEq κ] (t : InternTable κ α) (key : κ) (content : α) :
    Pointer α × InternTable κ α :=
  match t.entries.find? (·.1 = key) with
  | some (_, p) => (p, t)
  | none =>
    let p : Pointer α := ⟨t.allocated, content⟩
    (p, { entries := t.entries ++ [(key, p)], allocated := t.allocated + 1 })

end InternTable

/-! ## The requests -/

/-- What a field is asked for with. -/
structure FieldKey where
  registry : RegistryId
  /-- The name of the schema that the field belongs to. -/
  schema : Option String
  type : DataType
  name : String
  deriving DecidableEq, Repr

/-- What a schema is asked for with. -/
structure SchemaKey where
  registry : RegistryId
  name : String
  deriving DecidableEq, Repr

/-- The schemas and fields that were asked for so far. -/
structure Interner where
  schemas : InternTable SchemaKey Schema
  fields : InternTable FieldKey Field
  deriving DecidableEq, Repr

namespace Interner

/-- Nothing was asked for yet. -/
def empty : Interner :=
  ⟨.empty, .empty⟩

/-- The pointer to the schema of a registry with the given name. -/
def schemaPointer (i : Interner) (registry : RegistryId) (name : String) :
    Pointer Schema × Interner :=
  let (p, schemas) := i.schemas.intern ⟨registry, name⟩ ⟨registry, name⟩
  (p, { i with schemas })

/-- The pointer to the field of a registry with the given schema name, type and name; a new one
belongs to the given schema. -/
def fieldPointer (i : Interner) (registry : RegistryId) (schema : Option Schema) (type : DataType)
    (name : String) : Pointer Field × Interner :=
  let key : FieldKey := ⟨registry, schema.map (·.name), type, name⟩
  let (p, fields) := i.fields.intern key ⟨registry, type, name, schema⟩
  (p, { i with fields })

/-- The schema of a registry with the given name. -/
def schema (i : Interner) (registry : RegistryId) (name : String) : Schema × Interner :=
  let (p, i) := i.schemaPointer registry name
  (p.content, i)

/-- The field of a registry with the given schema name, type and name. -/
def intern (i : Interner) (registry : RegistryId) (schema : Option Schema) (type : DataType)
    (name : String) : Field × Interner :=
  let (p, i) := i.fieldPointer registry schema type name
  (p.content, i)

/-- The field of a registry that belongs to no schema. -/
def field (i : Interner) (registry : RegistryId) (type : DataType) (name : String) :
    Field × Interner :=
  i.intern registry none type name

/-- The field of a registry that belongs to a schema. -/
def fieldIn (i : Interner) (registry : RegistryId) (schema : Schema) (type : DataType)
    (name : String) : Field × Interner :=
  i.intern registry (some schema) type name

/-- The number of fields that a registry holds. -/
def fieldCount (i : Interner) (registry : RegistryId) : Nat :=
  i.fields.entries.countP (·.1.registry = registry)

end Interner

/-- A set of fields, as a list without repetition. -/
structure FieldSet where
  toList : List Field
  nodup : toList.Nodup
  deriving DecidableEq

namespace FieldSet

/-- The set without a field. -/
def empty : FieldSet :=
  ⟨[], List.nodup_nil⟩

instance : Membership Field FieldSet :=
  ⟨fun s f => f ∈ s.toList⟩

instance (f : Field) (s : FieldSet) : Decidable (f ∈ s) :=
  inferInstanceAs (Decidable (f ∈ s.toList))

/-- The set with one more field. -/
def insert (s : FieldSet) (f : Field) : FieldSet :=
  if h : f ∈ s.toList then s
  else ⟨s.toList ++ [f], by
    have hs := s.nodup
    simp only [List.nodup_append, List.nodup_cons, List.not_mem_nil, not_false_eq_true,
      List.nodup_nil, and_self, List.mem_cons, or_false, true_and]
    refine ⟨hs, fun a ha b hb => ?_⟩
    rintro rfl
    exact h (hb ▸ ha)⟩

/-- The set of the fields of a list. -/
def ofList (fields : List Field) : FieldSet :=
  fields.foldl insert empty

end FieldSet

end VirtualTables
