import Mathlib.Data.List.Nodup
import VirtualTables.Json.Record
import VirtualTables.Proofs.Json.RoundTrip

/-!
# Reading records back

A record that is written with each of its names once is read back field by field
(`Json.fields?_record`), and a list is read back if its items are (`Json.list?_map`).  A record type
has its round trip from these two and from those of its fields.
-/

namespace VirtualTables
namespace Json

theorem wellFormed_record {members : List (String × Json)} :
    (record members).WellFormed ↔ ∀ m ∈ members, m.2.WellFormed := by
  rw [record, wellFormed_object, List.forall_mem_map]

theorem wellFormed_array_map {α : Type} {write : α → Json} (hwrite : ∀ x, (write x).WellFormed)
    (xs : List α) : (array (xs.map write)).WellFormed := by
  rw [wellFormed_array, List.forall_mem_map]
  exact fun x _ ↦ hwrite x

theorem text?_text (s : String) : text? (text s) = some s :=
  rfl

/-- A list is read back item by item. -/
theorem list?_map {α : Type} {read : Json → Option α} {write : α → Json}
    (hread : ∀ x, read (write x) = some x) (xs : List α) :
    list? read (array (xs.map write)) = some xs := by
  have hsome : read ∘ write = fun x ↦ some (id x) := funext hread
  rw [list?, List.mapM_map, hsome]
  exact List.mapM_pure.trans (congrArg some xs.map_id)

/-- A text that may be missing is read back. -/
theorem optional_textOrNull (s : Option String) :
    optional text? (some (textOrNull s)) = some s := by
  cases s <;> rfl

section

variable {members : List (String × Json)}

/-- Nothing is found under a name that no member has. -/
theorem filter_record_eq_nil {name : String} (h : ∀ m ∈ members, m.1 ≠ name) :
    (members.map fun m ↦ (some m.1, m.2)).filter (·.1 = some name) = [] := by
  rw [List.filter_eq_nil_iff, List.forall_mem_map]
  intro m hm
  simpa using h m hm

/-- A member is found under its name. -/
theorem member?_record (hnames : (members.map (·.1)).Nodup) {m : String × Json}
    (hm : m ∈ members) : member? (members.map fun m ↦ (some m.1, m.2)) m.1 = some (some m.2) := by
  obtain ⟨before, after, rfl⟩ := List.append_of_mem hm
  rw [List.map_append, List.map_cons, List.nodup_middle, List.nodup_cons, ← List.map_append]
    at hnames
  have hothers : ∀ other ∈ before ++ after, other.1 ≠ m.1 :=
    fun other hother hname ↦ hnames.1 (hname ▸ List.mem_map_of_mem hother)
  rw [List.forall_mem_append] at hothers
  rw [member?, List.map_append, List.map_cons, List.filter_append, filter_record_eq_nil hothers.1,
    List.nil_append, List.filter_cons_of_pos (by simp), filter_record_eq_nil hothers.2]

/-- **A record is read back field by field**, if no name stands in it twice. -/
theorem fields?_record (hnames : (members.map (·.1)).Nodup) :
    fields? (members.map (·.1)) (record members) = some (members.map fun m ↦ some m.2) := by
  have hsome : (members.map fun m ↦ (some m.1, m.2)).all (·.1.isSome) = true := by simp
  -- each of the names is looked up in the whole record
  have hfound : ∀ part ⊆ members,
      (part.map (·.1)).mapM (member? (members.map fun m ↦ (some m.1, m.2))) =
        some (part.map fun m ↦ some m.2) := by
    intro part hpart
    induction part with
    | nil => rfl
    | cons m part ih =>
      rw [List.cons_subset] at hpart
      rw [List.map_cons, List.mapM_cons, member?_record hnames hpart.1, ih hpart.2]
      rfl
  exact (if_pos hsome).trans (hfound members (List.Subset.refl members))

end

end Json
end VirtualTables
