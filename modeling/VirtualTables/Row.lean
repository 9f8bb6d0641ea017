import VirtualTables.Field
import VirtualTables.Value.Basic

/-!
# Rows

A row holds values keyed by fields, in the order in which the fields were first set. Setting a
field again replaces its value and keeps its place. Two rows are equal when they hold the same
fields with equal values, whatever the order.
-/

namespace VirtualTables

/-- Values keyed by fields, each field at most once. -/
structure Row where
  entries : List (Field × Value)
  nodup : (entries.map Prod.fst).Nodup
  deriving DecidableEq

namespace Row

/-- The row without values. -/
def empty : Row :=
  ⟨[], List.nodup_nil⟩

/-- The entries with the value of a field replaced, or added at the end. -/
def setEntry (field : Field) (value : Value) : List (Field × Value) → List (Field × Value)
  | [] => [(field, value)]
  | (f, v) :: rest =>
    if f = field then (f, value) :: rest else (f, v) :: setEntry field value rest

theorem mem_keys_setEntry {field f : Field} {value : Value} {entries : List (Field × Value)} :
    f ∈ (setEntry field value entries).map Prod.fst ↔ f = field ∨ f ∈ entries.map Prod.fst := by
  induction entries with
  | nil => simp [setEntry]
  | cons e rest ih =>
    obtain ⟨g, v⟩ := e
    by_cases h : g = field
    · subst h
      simp [setEntry]
    · simp only [setEntry, h, if_false, List.map_cons, List.mem_cons, ih]
      grind

theorem nodup_keys_setEntry {field : Field} {value : Value} {entries : List (Field × Value)}
    (h : (entries.map Prod.fst).Nodup) : ((setEntry field value entries).map Prod.fst).Nodup := by
  induction entries with
  | nil => simp [setEntry]
  | cons e rest ih =>
    obtain ⟨g, v⟩ := e
    rw [List.map_cons, List.nodup_cons] at h
    by_cases hg : g = field
    · subst hg
      simpa [setEntry] using h
    · simp only [setEntry, hg, if_false, List.map_cons, List.nodup_cons]
      refine ⟨fun hm => ?_, ih h.2⟩
      rcases mem_keys_setEntry.1 hm with rfl | hm
      · exact hg rfl
      · exact h.1 hm

/-- The row with a field set to a value. -/
def set (row : Row) (field : Field) (value : Value) : Row :=
  ⟨setEntry field value row.entries, nodup_keys_setEntry row.nodup⟩

/-- The row with the given fields set one after another. -/
def setAll (row : Row) (pairs : List (Field × Value)) : Row :=
  pairs.foldl (fun r p => r.set p.1 p.2) row

/-- The row made by setting the given fields one after another. -/
def ofList (pairs : List (Field × Value)) : Row :=
  empty.setAll pairs

/-- The value of a field. -/
def get? (row : Row) (field : Field) : Option Value :=
  (row.entries.find? (·.1 = field)).map Prod.snd

/-- The value of the first field with the given name. -/
def getByName? (row : Row) (name : String) : Option Value :=
  (row.entries.find? (·.1.name = name)).map Prod.snd

/-- Whether a field is set. -/
def contains (row : Row) (field : Field) : Bool :=
  (row.get? field).isSome

/-- The fields that are set, in order. -/
def fields (row : Row) : List Field :=
  row.entries.map Prod.fst

/-- The number of fields that are set. -/
def size (row : Row) : Nat :=
  row.entries.length

/-- Whether no field is set. -/
def isEmpty (row : Row) : Bool :=
  row.entries.isEmpty

/-- Equality of rows as queries see it. -/
def equal (a b : Row) : Bool :=
  a.size = b.size &&
    a.entries.all fun (field, value) => (b.get? field).any (value.equal ·)

end Row

end VirtualTables
