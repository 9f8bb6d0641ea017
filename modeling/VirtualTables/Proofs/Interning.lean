import VirtualTables.Proofs.InternTable

/-!
# Handles and what they were asked for with

Rows, contexts and plans know columns by their handles, and handles are pointers.  So two things
must not happen, whatever was asked for before and in whichever registry: that one column gets two
places, and that two columns share one.  A registry that allocated at every request would do the
first, and one that confused keys the second.

A run of requests is read off the *keys* of the requests, `Interner.Request.fieldKey?` and
`Interner.Request.schemaKey?`.  The invariant is `Interner.Keeps`: each of the two tables keeps the
keys of all requests so far, each once and with a place of its own.  `handles_of_requests` concludes
that places and keys correspond one to one, that what is found at a place tells it from all others,
and that a registry counts the keys.  By the last but one of these it makes no difference whether
handles are compared by their places or by what is found there, and elsewhere the second is done.
-/

namespace VirtualTables

/-- The key that a field shows. -/
def Field.key (f : Field) : FieldKey :=
  ⟨f.registry, f.schemaName?, f.type, f.name⟩

/-- The key that a schema shows. -/
def Schema.key (s : Schema) : SchemaKey :=
  ⟨s.registry, s.name⟩

namespace Interner

/-- A request to a registry. -/
inductive Request where
  | schema (registry : RegistryId) (name : String)
  | field (registry : RegistryId) (type : DataType) (name : String)
  /-- The schema may come from any registry. -/
  | fieldIn (registry : RegistryId) (owner : Schema) (type : DataType) (name : String)
  deriving DecidableEq

/-- What a request is given: a pointer. -/
inductive Reference where
  | schema (p : Pointer Schema)
  | field (p : Pointer Field)
  deriving DecidableEq

/-- What is found where a pointer points to. -/
inductive Handle where
  | schema (s : Schema)
  | field (f : Field)
  deriving DecidableEq

/-- Follows a pointer. -/
def Reference.handle : Reference → Handle
  | schema p => .schema p.content
  | field p => .field p.content

namespace Request

/-- The key of a request for a field. -/
def fieldKey? : Request → Option FieldKey
  | schema .. => none
  | field registry type name => some ⟨registry, none, type, name⟩
  | fieldIn registry owner type name => some ⟨registry, some owner.name, type, name⟩

/-- The key of a request for a schema. -/
def schemaKey? : Request → Option SchemaKey
  | schema registry name => some ⟨registry, name⟩
  | field .. | fieldIn .. => none

end Request

namespace Handle

/-- The key that a handle shows, if it is a field. -/
def fieldKey? : Handle → Option FieldKey
  | schema _ => none
  | field f => some f.key

/-- The key that a handle shows, if it is a schema. -/
def schemaKey? : Handle → Option SchemaKey
  | schema s => some s.key
  | field _ => none

end Handle

/-- Answers a request. -/
def answer (i : Interner) : Request → Handle × Interner
  | .schema registry name => (.schema (i.schema registry name).1, (i.schema registry name).2)
  | .field registry type name =>
    (.field (i.field registry type name).1, (i.field registry type name).2)
  | .fieldIn registry owner type name =>
    (.field (i.fieldIn registry owner type name).1, (i.fieldIn registry owner type name).2)

/-- Answers requests one after another. -/
def run (i : Interner) : List Request → List Handle × Interner
  | [] => ([], i)
  | r :: rest => ((i.answer r).1 :: ((i.answer r).2.run rest).1, ((i.answer r).2.run rest).2)

/-- Answers a request with a pointer. -/
def refer (i : Interner) : Request → Reference × Interner
  | .schema registry name =>
    (.schema (i.schemaPointer registry name).1, (i.schemaPointer registry name).2)
  | .field registry type name =>
    (.field (i.fieldPointer registry none type name).1,
      (i.fieldPointer registry none type name).2)
  | .fieldIn registry owner type name =>
    (.field (i.fieldPointer registry (some owner) type name).1,
      (i.fieldPointer registry (some owner) type name).2)

/-- The pointers that requests are answered with, one after another. -/
def references (i : Interner) : List Request → List Reference
  | [] => []
  | r :: rest => (i.refer r).1 :: (i.refer r).2.references rest

/-- Whether an interner keeps a pointer under the key that is found at its place. -/
def Has (i : Interner) : Reference → Prop
  | .schema p => (p.content.key, p) ∈ i.schemas.entries
  | .field p => (p.content.key, p) ∈ i.fields.entries

/-! ## One request -/

/-- An answer is what is found where the pointer points to. -/
theorem answer_eq (i : Interner) (r : Request) :
    i.answer r = ((i.refer r).1.handle, (i.refer r).2) := by
  cases r <;> rfl

/-- What is kept stays. -/
theorem Has.refer {i : Interner} {x : Reference} (hkept : i.Has x) (r : Request) :
    (i.refer r).2.Has x := by
  cases x with
  | schema p =>
    cases r with
    | schema registry name => exact InternTable.mem_entries_intern hkept _ _
    | field | fieldIn => exact hkept
  | field p =>
    cases r with
    | schema registry name => exact hkept
    | field | fieldIn => exact InternTable.mem_entries_intern hkept _ _

/-! ## Runs -/

/-- The keys of all fields that were asked for. -/
def fieldKeys (requests : List Request) : List FieldKey :=
  requests.filterMap Request.fieldKey?

/-- The keys of all schemas that were asked for. -/
def schemaKeys (requests : List Request) : List SchemaKey :=
  requests.filterMap Request.schemaKey?

theorem fieldKeys_concat (requests : List Request) (r : Request) :
    fieldKeys (requests ++ [r]) = fieldKeys requests ++ r.fieldKey?.toList := by
  rw [fieldKeys, List.filterMap_append]
  cases h : r.fieldKey? <;> simp [fieldKeys, h]

theorem schemaKeys_concat (requests : List Request) (r : Request) :
    schemaKeys (requests ++ [r]) = schemaKeys requests ++ r.schemaKey?.toList := by
  rw [schemaKeys, List.filterMap_append]
  cases h : r.schemaKey? <;> simp [schemaKeys, h]

/-- An interner keeps the keys of all requests that were made to it, each once and with a place of
its own. -/
structure Keeps (i : Interner) (requests : List Request) : Prop where
  fields : i.fields.Keeps Field.key (fieldKeys requests)
  schemas : i.schemas.Keeps Schema.key (schemaKeys requests)

theorem keeps_empty : empty.Keeps [] :=
  ⟨InternTable.keeps_empty, InternTable.keeps_empty⟩

/-- **One request is answered from one of the tables**, and leaves the other as it is. -/
theorem Keeps.refer {i : Interner} {requests : List Request} (h : i.Keeps requests)
    (r : Request) : (i.refer r).2.Keeps (requests ++ [r]) := by
  cases r with
  | schema registry name =>
    refine ⟨?_, ?_⟩
    · rw [fieldKeys_concat, Request.fieldKey?, Option.toList_none, List.append_nil]
      exact h.fields
    · rw [schemaKeys_concat]
      exact h.schemas.intern rfl
  | field | fieldIn =>
    refine ⟨?_, ?_⟩
    · rw [fieldKeys_concat]
      exact h.fields.intern rfl
    · rw [schemaKeys_concat, Request.schemaKey?, Option.toList_none, List.append_nil]
      exact h.schemas

/-- A request is given a pointer to what shows its key, and the pointer is kept. -/
theorem Keeps.key_refer {i : Interner} {requests : List Request} (h : i.Keeps requests)
    (r : Request) :
    (i.refer r).1.handle.fieldKey? = r.fieldKey? ∧
      (i.refer r).1.handle.schemaKey? = r.schemaKey? ∧ (i.refer r).2.Has (i.refer r).1 := by
  cases r with
  | schema registry name =>
    obtain ⟨hkey, hkept⟩ := h.schemas.mem_of_intern
      (show Schema.key ⟨registry, name⟩ = ⟨registry, name⟩ from rfl)
    exact ⟨rfl, congrArg some hkey, hkept⟩
  | field registry type name =>
    obtain ⟨hkey, hkept⟩ := h.fields.mem_of_intern
      (show Field.key ⟨registry, type, name, none⟩ = ⟨registry, none, type, name⟩ from rfl)
    exact ⟨congrArg some hkey, rfl, hkept⟩
  | fieldIn registry owner type name =>
    obtain ⟨hkey, hkept⟩ := h.fields.mem_of_intern
      (show Field.key ⟨registry, type, name, some owner⟩ =
        ⟨registry, some owner.name, type, name⟩ from rfl)
    exact ⟨congrArg some hkey, rfl, hkept⟩

theorem run_cons (i : Interner) (r : Request) (rest : List Request) :
    i.run (r :: rest) =
      ((i.refer r).1.handle :: ((i.refer r).2.run rest).1, ((i.refer r).2.run rest).2) := by
  rw [run, answer_eq]

theorem Keeps.run {i : Interner} {earlier : List Request} (h : i.Keeps earlier)
    (requests : List Request) : (i.run requests).2.Keeps (earlier ++ requests) := by
  induction requests generalizing i earlier with
  | nil => rwa [List.append_nil]
  | cons r rest ih =>
    rw [run_cons, List.append_cons]
    exact ih (h.refer r)

theorem Has.run {i : Interner} {x : Reference} (hkept : i.Has x) (requests : List Request) :
    (i.run requests).2.Has x := by
  induction requests generalizing i with
  | nil => exact hkept
  | cons r rest ih =>
    rw [run_cons]
    exact ih (hkept.refer r)

/-- The requests of a run, each with the pointer that it was given. -/
def pointers (i : Interner) (requests : List Request) : List (Request × Reference) :=
  requests.zip (i.references requests)

/-- The requests of a run, each with the handle that it was given. -/
def answers (i : Interner) (requests : List Request) : List (Request × Handle) :=
  requests.zip (i.run requests).1

theorem run_eq_references (i : Interner) (requests : List Request) :
    (i.run requests).1 = (i.references requests).map Reference.handle := by
  induction requests generalizing i with
  | nil => rfl
  | cons r rest ih => rw [run_cons, references, List.map_cons, ih]

/-- The answers are what is found where the pointers point to. -/
theorem answers_eq (i : Interner) (requests : List Request) :
    i.answers requests = (i.pointers requests).map fun (r, x) ↦ (r, x.handle) := by
  rw [answers, run_eq_references, List.zip_map_right]
  rfl

theorem length_run (i : Interner) (requests : List Request) :
    (i.run requests).1.length = requests.length := by
  induction requests generalizing i with
  | nil => rfl
  | cons r rest ih => rw [run_cons, List.length_cons, List.length_cons, ih]

/-- Every pointer leads to what shows the key of its request, and is still kept at the end. -/
theorem Keeps.key_of_mem_pointers {i : Interner} {earlier requests : List Request}
    (h : i.Keeps earlier) {r : Request} {x : Reference} (hmem : (r, x) ∈ i.pointers requests) :
    x.handle.fieldKey? = r.fieldKey? ∧ x.handle.schemaKey? = r.schemaKey? ∧
      (i.run requests).2.Has x := by
  induction requests generalizing i earlier with
  | nil => exact absurd hmem List.not_mem_nil
  | cons q rest ih =>
    rw [run_cons]
    rw [pointers, references, List.zip_cons_cons, List.mem_cons] at hmem
    rcases hmem with heq | hmem
    · obtain ⟨rfl, rfl⟩ := Prod.mk.inj heq
      obtain ⟨hfield, hschema, hkept⟩ := h.key_refer r
      exact ⟨hfield, hschema, hkept.run rest⟩
    · exact ih (h.refer q) hmem

/-- The same for a handle. -/
theorem key_of_mem_answers {requests : List Request} {r : Request} {h : Handle}
    (hmem : (r, h) ∈ empty.answers requests) :
    h.fieldKey? = r.fieldKey? ∧ h.schemaKey? = r.schemaKey? ∧
      ∃ x : Reference, x.handle = h ∧ (empty.run requests).2.Has x := by
  rw [answers_eq] at hmem
  obtain ⟨⟨_, x⟩, hx, heq⟩ := List.mem_map.1 hmem
  obtain ⟨rfl, rfl⟩ := Prod.mk.inj heq
  obtain ⟨hfield, hschema, hkept⟩ := keeps_empty.key_of_mem_pointers hx
  exact ⟨hfield, hschema, x, rfl, hkept⟩

/-- A field that was given is found where a pointer points to that is kept under its key. -/
theorem exists_pointer_of_mem_answers {requests : List Request} {r : Request} {f : Field}
    (hmem : (r, .field f) ∈ empty.answers requests) :
    ∃ p : Pointer Field, p.content = f ∧
      (f.key, p) ∈ (empty.run requests).2.fields.entries := by
  obtain ⟨-, -, x, hx, hkept⟩ := key_of_mem_answers hmem
  cases x with
  | schema p => cases hx
  | field p =>
    cases hx
    exact ⟨p, rfl, hkept⟩

/-- Fields that were given for one key are one field. -/
theorem field_of_key {requests : List Request} {r r' : Request} {f f' : Field}
    (hmem : (r, .field f) ∈ empty.answers requests)
    (hmem' : (r', .field f') ∈ empty.answers requests) (hkey : f.key = f'.key) : f = f' := by
  obtain ⟨p, rfl, hp⟩ := exists_pointer_of_mem_answers hmem
  obtain ⟨p', rfl, hp'⟩ := exists_pointer_of_mem_answers hmem'
  have hfields := (keeps_empty.run requests).fields
  exact (hfields.place_eq_iff_content hp hp').1 ((hfields.place_eq_iff hp hp').1.2 hkey)

/-- **Places and keys correspond one to one.**  In every run of requests to any number of registries
each request is given a pointer to what shows the type, the name and the schema name that it was
made with.  Two pointers have the same place exactly when the requests had the same key, and exactly
when the same is found there, so there was one allocation for each key.  A registry counts the keys
of the fields that were asked of it. -/
theorem handles_of_requests (requests : List Request) :
    let interner := (empty.run requests).2
    let pointers := empty.pointers requests
    pointers.map Prod.fst = requests ∧
      empty.answers requests = pointers.map (fun (r, x) ↦ (r, x.handle)) ∧
      (∀ r x, (r, x) ∈ pointers →
        x.handle.fieldKey? = r.fieldKey? ∧ x.handle.schemaKey? = r.schemaKey?) ∧
      (∀ r p r' p', (r, .field p) ∈ pointers → (r', .field p') ∈ pointers →
        (p.place = p'.place ↔ r.fieldKey? = r'.fieldKey?) ∧
          (p.place = p'.place ↔ p.content = p'.content)) ∧
      (∀ r p r' p', (r, .schema p) ∈ pointers → (r', .schema p') ∈ pointers →
        (p.place = p'.place ↔ r.schemaKey? = r'.schemaKey?) ∧
          (p.place = p'.place ↔ p.content = p'.content)) ∧
      interner.fields.allocated = (fieldKeys requests).eraseDups.length ∧
      interner.schemas.allocated = (schemaKeys requests).eraseDups.length ∧
      ∀ registry, interner.fieldCount registry =
        ((fieldKeys requests).filter (·.registry = registry)).toFinset.card := by
  intro interner pointers
  have hkeeps : interner.Keeps requests := keeps_empty.run requests
  refine ⟨?_, answers_eq empty requests, fun r x hmem ↦ ?_, fun r p r' p' hmem hmem' ↦ ?_,
    fun r p r' p' hmem hmem' ↦ ?_, hkeeps.fields.allocated, hkeeps.schemas.allocated,
    fun registry ↦ ?_⟩
  · refine List.map_fst_zip (Nat.le_of_eq ?_)
    rw [← length_run empty requests, run_eq_references, List.length_map]
  · obtain ⟨hfield, hschema, -⟩ := keeps_empty.key_of_mem_pointers hmem
    exact ⟨hfield, hschema⟩
  · obtain ⟨hkey, -, hkept⟩ := keeps_empty.key_of_mem_pointers hmem
    obtain ⟨hkey', -, hkept'⟩ := keeps_empty.key_of_mem_pointers hmem'
    rw [← hkey, ← hkey']
    exact ⟨(hkeeps.fields.place_eq_iff hkept hkept').1.trans Option.some_inj.symm,
      hkeeps.fields.place_eq_iff_content hkept hkept'⟩
  · obtain ⟨-, hkey, hkept⟩ := keeps_empty.key_of_mem_pointers hmem
    obtain ⟨-, hkey', hkept'⟩ := keeps_empty.key_of_mem_pointers hmem'
    rw [← hkey, ← hkey']
    exact ⟨(hkeeps.schemas.place_eq_iff hkept hkept').1.trans Option.some_inj.symm,
      hkeeps.schemas.place_eq_iff_content hkept hkept'⟩
  · exact countP_kept hkeeps.fields.keys (fun key ↦ key.registry = registry)

/-! ### A schema from another registry -/

/-- One field, asked for with schemas of the same name from two registries. -/
def borrowedSchema : List Request :=
  [.schema .shared "users", .schema (.isolated 0) "users",
    .fieldIn .shared ⟨.shared, "users"⟩ .utf8 "name",
    .fieldIn .shared ⟨.isolated 0, "users"⟩ .utf8 "name", .field .shared .utf8 "name"]

/-- Both requests are given a pointer to the field that belongs to the schema of the first one, and
the field without a schema is at another place. -/
theorem handles_of_borrowed_schema :
    let name : Field := .inSchema ⟨.shared, "users"⟩ .utf8 "name"
    ∃ p p' q : Pointer Field, (empty.pointers borrowedSchema).drop 2 =
        [(.fieldIn .shared ⟨.shared, "users"⟩ .utf8 "name", .field p),
          (.fieldIn .shared ⟨.isolated 0, "users"⟩ .utf8 "name", .field p'),
          (.field .shared .utf8 "name", .field q)] ∧
      p.content = name ∧ q.content = .unscoped .shared .utf8 "name" ∧
      p.place = p'.place ∧ p.place ≠ q.place ∧
      (empty.run borrowedSchema).2.fieldCount .shared = 2 := by
  intro name
  obtain ⟨-, -, -, hplaces, -, -, -, hfields⟩ := handles_of_requests borrowedSchema
  refine ⟨⟨0, name⟩, ⟨0, name⟩, ⟨1, .unscoped .shared .utf8 "name"⟩, rfl, rfl, rfl, ?_, ?_,
    (hfields .shared).trans (by decide)⟩
  · exact (hplaces (.fieldIn .shared ⟨.shared, "users"⟩ .utf8 "name") _
      (.fieldIn .shared ⟨.isolated 0, "users"⟩ .utf8 "name") _ (by decide) (by decide)).1.2 rfl
  · exact fun hplace ↦ absurd ((hplaces (.fieldIn .shared ⟨.shared, "users"⟩ .utf8 "name") _
      (.field .shared .utf8 "name") _ (by decide) (by decide)).1.1 hplace) (by decide)

end Interner
end VirtualTables
