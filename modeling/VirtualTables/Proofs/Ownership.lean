import VirtualTables.Proofs.Interning

/-!
# The schema that a field belongs to

A field that is asked for within a schema holds a schema, and one would expect it to be the one that
was given.  But a registry looks fields up by the *name* of the schema, and schemas of one name from
two registries are two schemas.  So what a field holds is decided when its key is asked for first,
and a later request may be given the field of somebody else's schema.

* `schema_of_mem_answers` — a field belongs to the schema that the first request with its key came
  with.
* `Interner.NamesTellOwners` — no two requests with one key name different schemas.
* `owners_of_requests` — exactly if this is so, every field belongs to the schema it was asked for
  with, and fields that were asked for with different schemas are different.

`borrowed_schema_is_lost` is a run of four requests in which a field belongs to another schema than
the one that was given.
-/

namespace VirtualTables
namespace Interner

/-- The schema that a request comes with. -/
def Request.owner? : Request → Option Schema
  | .schema .. | .field .. => none
  | .fieldIn _ owner _ _ => some owner

/-- The schema that the first request with a key comes with. -/
def firstOwner? (requests : List Request) (key : FieldKey) : Option Schema :=
  (requests.find? (·.fieldKey? = some key)).bind Request.owner?

/-! ## Runs -/

theorem mem_fieldKeys_iff {requests : List Request} {key : FieldKey} :
    key ∈ fieldKeys requests ↔ (requests.find? (·.fieldKey? = some key)).isSome := by
  simp [fieldKeys]

/-- What was asked for before is not changed by a further request. -/
theorem firstOwner?_append_of_mem {requests : List Request} {key : FieldKey}
    (h : key ∈ fieldKeys requests) (r : Request) :
    firstOwner? (requests ++ [r]) key = firstOwner? requests key := by
  obtain ⟨first, hfirst⟩ := Option.isSome_iff_exists.1 (mem_fieldKeys_iff.1 h)
  rw [firstOwner?, firstOwner?, List.find?_append, hfirst, Option.some_or]

/-- The request for a new key is the first one with it. -/
theorem firstOwner?_append_of_not_mem {requests : List Request} {key : FieldKey} {r : Request}
    (h : key ∉ fieldKeys requests) (hkey : r.fieldKey? = some key) :
    firstOwner? (requests ++ [r]) key = r.owner? := by
  rw [mem_fieldKeys_iff, Bool.not_eq_true, Option.isSome_eq_false_iff, Option.isNone_iff_eq_none]
    at h
  rw [firstOwner?, List.find?_append, h, Option.none_or, List.find?_singleton,
    if_pos (decide_eq_true hkey), Option.bind_some]

/-- Every field that is kept belongs to the schema of the first request with its key. -/
def Owned (i : Interner) (requests : List Request) : Prop :=
  ∀ entry ∈ i.fields.entries, entry.2.content.schema = firstOwner? requests entry.1

theorem owned_empty : empty.Owned [] :=
  fun _ hentry ↦ absurd hentry List.not_mem_nil

/-- What is kept goes on to belong to the same schema. -/
theorem Owned.concat {i : Interner} {requests : List Request} (howned : i.Owned requests)
    (hkeeps : i.Keeps requests) (r : Request) : i.Owned (requests ++ [r]) := by
  intro entry hentry
  have hasked : entry.1 ∈ fieldKeys requests := by
    rw [← List.mem_eraseDups, ← hkeeps.fields.keys]
    exact List.mem_map_of_mem hentry
  rw [firstOwner?_append_of_mem hasked]
  exact howned entry hentry

/-- A field is known and stays with its schema, or it is new and belongs to that of the request. -/
theorem Owned.fieldPointer {i : Interner} {requests : List Request} (howned : i.Owned requests)
    (hkeeps : i.Keeps requests) {r : Request} {registry : RegistryId} {owner : Option Schema}
    {type : DataType} {name : String} (howner : r.owner? = owner)
    (hkey : r.fieldKey? = some ⟨registry, owner.map (·.name), type, name⟩) :
    (i.fieldPointer registry owner type name).2.Owned (requests ++ [r]) := by
  have hkept := howned.concat hkeeps r
  rw [Interner.fieldPointer]
  obtain ⟨p, -, hintern⟩ | ⟨hnew, hintern⟩ := i.fields.intern_cases
    ⟨registry, owner.map (·.name), type, name⟩ ⟨registry, type, name, owner⟩ <;>
    simp only [hintern]
  · exact hkept
  · intro entry hentry
    rcases List.mem_append.1 hentry with hentry | hentry
    · exact hkept entry hentry
    · rw [hkeeps.fields.keys, List.mem_eraseDups] at hnew
      rw [List.mem_singleton.1 hentry, firstOwner?_append_of_not_mem hnew hkey, howner]

theorem Owned.refer {i : Interner} {requests : List Request} (howned : i.Owned requests)
    (hkeeps : i.Keeps requests) (r : Request) : (i.refer r).2.Owned (requests ++ [r]) := by
  cases r with
  | schema registry name => exact howned.concat hkeeps _
  | field registry type name => exact howned.fieldPointer hkeeps rfl rfl
  | fieldIn registry owner type name => exact howned.fieldPointer hkeeps rfl rfl

theorem Owned.run {i : Interner} {earlier : List Request} (howned : i.Owned earlier)
    (hkeeps : i.Keeps earlier) (requests : List Request) :
    (i.run requests).2.Owned (earlier ++ requests) := by
  induction requests generalizing i earlier with
  | nil => rwa [List.append_nil]
  | cons r rest ih =>
    rw [Interner.run_cons, List.append_cons]
    exact ih (howned.refer hkeeps r) (hkeeps.refer r)

/-- **A field belongs to the schema of the first request with its key.** -/
theorem schema_of_mem_answers {requests : List Request} {r : Request} {f : Field}
    (hmem : (r, .field f) ∈ empty.answers requests) : f.schema = firstOwner? requests f.key := by
  obtain ⟨p, rfl, hp⟩ := exists_pointer_of_mem_answers hmem
  exact owned_empty.run keeps_empty requests _ hp

/-! ## When a field belongs to the schema it was asked for with -/

/-- Each request of a run is given a handle. -/
theorem exists_mem_answers {requests : List Request} {r : Request} (h : r ∈ requests) :
    ∃ handle, (r, handle) ∈ empty.answers requests := by
  have hfst : (empty.answers requests).map Prod.fst = requests :=
    List.map_fst_zip (Nat.le_of_eq (length_run empty requests).symm)
  rw [← hfst, List.mem_map] at h
  obtain ⟨⟨_, handle⟩, hmem, rfl⟩ := h
  exact ⟨handle, hmem⟩

/-- A request for a field within a schema is given a field. -/
theorem exists_field_of_fieldIn {requests : List Request} {registry : RegistryId} {owner : Schema}
    {type : DataType} {name : String} (h : .fieldIn registry owner type name ∈ requests) :
    ∃ f, (.fieldIn registry owner type name, .field f) ∈ empty.answers requests := by
  obtain ⟨handle, hmem⟩ := exists_mem_answers h
  cases handle with
  | schema s => cases (key_of_mem_answers hmem).1
  | field f => exact ⟨f, hmem⟩

theorem mem_of_mem_answers {requests : List Request} {r : Request} {h : Handle}
    (hmem : (r, h) ∈ empty.answers requests) : r ∈ requests :=
  (List.of_mem_zip hmem).1

/-- The key of a field shows what it was asked for with. -/
theorem key_of_fieldIn {requests : List Request} {registry : RegistryId} {owner : Schema}
    {type : DataType} {name : String} {f : Field}
    (hmem : (.fieldIn registry owner type name, .field f) ∈ empty.answers requests) :
    f.key = ⟨registry, some owner.name, type, name⟩ :=
  Option.some.inj (key_of_mem_answers hmem).1

/-- A field that was asked for within a schema belongs to the schema of the first request with its
key. -/
theorem schema_of_fieldIn {requests : List Request} {registry : RegistryId} {owner : Schema}
    {type : DataType} {name : String} {f : Field}
    (hmem : (.fieldIn registry owner type name, .field f) ∈ empty.answers requests) :
    f.schema = firstOwner? requests ⟨registry, some owner.name, type, name⟩ := by
  rw [schema_of_mem_answers hmem, key_of_fieldIn hmem]

/-- Schemas of one name are given one field, if all else is the same. -/
theorem exists_shared_field {requests : List Request} {registry : RegistryId}
    {owner owner' : Schema} {type : DataType} {name : String}
    (hin : .fieldIn registry owner type name ∈ requests)
    (hin' : .fieldIn registry owner' type name ∈ requests) (hname : owner.name = owner'.name) :
    ∃ f, (.fieldIn registry owner type name, .field f) ∈ empty.answers requests ∧
      (.fieldIn registry owner' type name, .field f) ∈ empty.answers requests := by
  obtain ⟨f, hmem⟩ := exists_field_of_fieldIn hin
  obtain ⟨f', hmem'⟩ := exists_field_of_fieldIn hin'
  have hsame : f' = f := by
    apply field_of_key hmem' hmem
    rw [key_of_fieldIn hmem, key_of_fieldIn hmem', hname]
  exact ⟨f, hmem, hsame ▸ hmem'⟩

/-- Requests to one registry for one type and name come with one schema of each name. -/
def NamesTellOwners (requests : List Request) : Prop :=
  ∀ registry owner owner' type name, .fieldIn registry owner type name ∈ requests →
    .fieldIn registry owner' type name ∈ requests → owner.name = owner'.name → owner = owner'

/-- Where the names tell the schemas apart, the first request came with the same schema. -/
theorem NamesTellOwners.firstOwner? {requests : List Request} (h : NamesTellOwners requests)
    {registry : RegistryId} {owner : Schema} {type : DataType} {name : String}
    (hmem : .fieldIn registry owner type name ∈ requests) :
    firstOwner? requests ⟨registry, some owner.name, type, name⟩ = some owner := by
  have hasked : (⟨registry, some owner.name, type, name⟩ : FieldKey) ∈ fieldKeys requests :=
    List.mem_filterMap.2 ⟨_, hmem, rfl⟩
  obtain ⟨first, hfirst⟩ := Option.isSome_iff_exists.1 (mem_fieldKeys_iff.1 hasked)
  have hin : first ∈ requests := List.mem_of_find?_eq_some hfirst
  have hkey := List.find?_some hfirst
  rw [decide_eq_true_eq] at hkey
  rw [Interner.firstOwner?, hfirst, Option.bind_some]
  cases first with
  | schema registry' name' => cases hkey
  | field registry' type' name' => cases hkey
  | fieldIn registry' owner' type' name' =>
    simp only [Request.fieldKey?, Option.some.injEq, FieldKey.mk.injEq] at hkey
    obtain ⟨rfl, hname, rfl, rfl⟩ := hkey
    exact congrArg some (h _ _ _ _ _ hin hmem hname)

/-- Where the names tell the schemas apart, fields of different schemas are different. -/
theorem NamesTellOwners.ne_of_ne {requests : List Request} (h : NamesTellOwners requests)
    {registry registry' : RegistryId} {owner owner' : Schema} {type type' : DataType}
    {name name' : String} {f f' : Field}
    (hmem : (.fieldIn registry owner type name, .field f) ∈ empty.answers requests)
    (hmem' : (.fieldIn registry' owner' type' name', .field f') ∈ empty.answers requests)
    (hne : owner ≠ owner') : f ≠ f' := by
  rintro rfl
  have hkey := (key_of_fieldIn hmem).symm.trans (key_of_fieldIn hmem')
  simp only [FieldKey.mk.injEq, Option.some.injEq] at hkey
  obtain ⟨rfl, hname, rfl, rfl⟩ := hkey
  exact hne (h _ _ _ _ _ (mem_of_mem_answers hmem) (mem_of_mem_answers hmem') hname)

/-- The names tell a registry's own schemas apart. -/
theorem namesTellOwners_of_own {requests : List Request}
    (hown : ∀ registry owner type name, .fieldIn registry owner type name ∈ requests →
      owner.registry = registry) : NamesTellOwners requests := by
  intro registry owner owner' type name hin hin' hname
  rcases owner with ⟨_, _⟩
  rcases owner' with ⟨_, _⟩
  obtain rfl := hown _ _ _ _ hin
  obtain rfl := hown _ _ _ _ hin'
  exact congrArg (Schema.mk _) hname

/-- **When a field belongs to the schema it was asked for with.**  Take any run of requests to any
number of registries, with schemas from wherever they come.  A field belongs to the schema of the
first request with its key.  So every field belongs to the schema it was asked for with exactly if
no two requests with one key come with different schemas, as when every registry is given its own
schemas only; and fields that were asked for with different schemas are different exactly then. -/
theorem owners_of_requests (requests : List Request) :
    let answers := empty.answers requests
    (∀ registry owner type name f, (.fieldIn registry owner type name, .field f) ∈ answers →
        f.schema = firstOwner? requests ⟨registry, some owner.name, type, name⟩) ∧
      ((∀ registry owner type name f, (.fieldIn registry owner type name, .field f) ∈ answers →
          f.schema = some owner) ↔ NamesTellOwners requests) ∧
      ((∀ registry owner type name f registry' owner' type' name' f',
          (.fieldIn registry owner type name, .field f) ∈ answers →
            (.fieldIn registry' owner' type' name', .field f') ∈ answers →
              owner ≠ owner' → f ≠ f') ↔ NamesTellOwners requests) ∧
      ((∀ registry owner type name, .fieldIn registry owner type name ∈ requests →
          owner.registry = registry) → NamesTellOwners requests) := by
  intro answers
  refine ⟨fun _ _ _ _ _ hmem ↦ schema_of_fieldIn hmem, ⟨fun hlaw ↦ ?_, fun htell ↦ ?_⟩,
    ⟨fun hlaw ↦ ?_, fun htell ↦ ?_⟩, namesTellOwners_of_own⟩
  · intro registry owner owner' type name hin hin' hname
    obtain ⟨f, hmem, hmem'⟩ := exists_shared_field hin hin' hname
    exact Option.some.inj ((hlaw _ _ _ _ _ hmem).symm.trans (hlaw _ _ _ _ _ hmem'))
  · intro registry owner type name f hmem
    rw [schema_of_fieldIn hmem]
    exact htell.firstOwner? (mem_of_mem_answers hmem)
  · intro registry owner owner' type name hin hin' hname
    obtain ⟨f, hmem, hmem'⟩ := exists_shared_field hin hin' hname
    by_contra hne
    exact hlaw _ _ _ _ _ _ _ _ _ _ hmem hmem' hne rfl
  · intro _ _ _ _ _ _ _ _ _ _ hmem hmem' hne
    exact htell.ne_of_ne hmem hmem' hne

/-! ### Schemas of one name from two registries -/

/-- The shared registry is asked for a name of users within the schema of another registry, and for
their homes within its own. -/
def lentSchema : List Request :=
  [.schema (.isolated 0) "users", .schema .shared "users",
    .fieldIn .shared ⟨.isolated 0, "users"⟩ .utf8 "name",
    .fieldIn .shared ⟨.shared, "users"⟩ .utf8 "home",
    .fieldIn (.isolated 0) ⟨.isolated 0, "users"⟩ .utf8 "name"]

/-- Each key comes with one schema, so the fields belong to the schemas they were asked for with,
although the registry knows two schemas by one name. -/
theorem owners_of_lent_schema :
    NamesTellOwners lentSchema ∧
      ∃ name home, (.fieldIn .shared ⟨.isolated 0, "users"⟩ .utf8 "name", .field name) ∈
          empty.answers lentSchema ∧
        (.fieldIn .shared ⟨.shared, "users"⟩ .utf8 "home", .field home) ∈
          empty.answers lentSchema ∧
        name.schema = some ⟨.isolated 0, "users"⟩ ∧ home.schema = some ⟨.shared, "users"⟩ ∧
        name ≠ home := by
  have htell : NamesTellOwners lentSchema := by
    intro registry owner owner' type name hin hin' hname
    simp only [lentSchema, List.mem_cons, List.not_mem_nil, or_false, reduceCtorEq, false_or,
      Request.fieldIn.injEq] at hin hin'
    rcases hin with ⟨rfl, rfl, rfl, rfl⟩ | ⟨rfl, rfl, rfl, rfl⟩ | ⟨rfl, rfl, rfl, rfl⟩ <;>
      simpa [eq_comm] using hin'
  have hborrowed : .fieldIn .shared ⟨.isolated 0, "users"⟩ .utf8 "name" ∈ lentSchema := by decide
  have hown : .fieldIn .shared ⟨.shared, "users"⟩ .utf8 "home" ∈ lentSchema := by decide
  obtain ⟨-, hlaw, hdiffer, -⟩ := owners_of_requests lentSchema
  obtain ⟨name, hname⟩ := exists_field_of_fieldIn hborrowed
  obtain ⟨home, hhome⟩ := exists_field_of_fieldIn hown
  exact ⟨htell, name, home, hname, hhome, hlaw.2 htell _ _ _ _ _ hname,
    hlaw.2 htell _ _ _ _ _ hhome,
    hdiffer.2 htell _ _ _ _ _ _ _ _ _ _ hname hhome (by decide)⟩

/-- **A field may belong to another schema than the one it was asked for with.**  Both schemas were
obtained from their registries and are different, and both requests are given the same field. -/
theorem borrowed_schema_is_lost :
    let own : Schema := ⟨.shared, "users"⟩
    let borrowed : Schema := ⟨.isolated 0, "users"⟩
    let answers := empty.answers borrowedSchema
    (.schema .shared "users", .schema own) ∈ answers ∧
      (.schema (.isolated 0) "users", .schema borrowed) ∈ answers ∧ own ≠ borrowed ∧
      ∃ f : Field, (.fieldIn .shared own .utf8 "name", .field f) ∈ answers ∧
        (.fieldIn .shared borrowed .utf8 "name", .field f) ∈ answers ∧
        f.schema ≠ some borrowed := by
  refine ⟨by decide, by decide, by decide, .inSchema ⟨.shared, "users"⟩ .utf8 "name", by decide,
    by decide, by decide⟩

end Interner
end VirtualTables
