import Mathlib.Data.List.Perm.Subperm
import Mathlib.Data.Option.Basic
import VirtualTables.Proofs.Row

/-!
# Rows with a history

A cursor fills one row again and again, and a query compares the rows that it returns, so a row may
have any history of cells that were set and of times when it was cleared.  What counts is the list
of the cells that were set since it was last cleared, and a row with a history is the row made of
this list (`Row.after_eq_ofList`).

`Row.row_of_calls` puts together what can be seen of it.  The order of the fields is the order in
which they were first set, and it decides what a name finds, for several fields may share a name.
The order does not count when rows are compared (`Row.equal_iff`).
-/

namespace VirtualTables
namespace Row

/-- A call on a row. -/
inductive Call where
  | set (field : Field) (value : Value)
  | clear
  deriving DecidableEq

/-- The cell that a call sets. -/
def Call.cell? : Call → Option (Field × Value)
  | set field value => some (field, value)
  | clear => none

/-- The row after one more call. -/
def apply (row : Row) : Call → Row
  | .set field value => row.set field value
  | .clear => empty

/-- A new row after some calls. -/
def after (calls : List Call) : Row :=
  calls.foldl apply empty

/-- The cells that were set since the row was last cleared, in the order of their setting. -/
def cellsSince (calls : List Call) : List (Field × Value) :=
  sinceEmptied Call.cell? calls

theorem after_append_singleton (calls : List Call) (call : Call) :
    after (calls ++ [call]) = (after calls).apply call := by
  rw [after, List.foldl_append, List.foldl_cons, List.foldl_nil, after]

/-- **A row with a history** is the row of the cells that were set since it was last cleared. -/
theorem after_eq_ofList (calls : List Call) : after calls = ofList (cellsSince calls) := by
  induction calls using List.reverseRecOn with
  | nil => rfl
  | append_singleton calls call ih =>
    rw [after_append_singleton, ih]
    cases call with
    | set field value =>
      have hone : cellsSince (calls ++ [.set field value]) = cellsSince calls ++ [(field, value)] :=
        sinceEmptied_of_some calls rfl
      rw [hone, ofList_append_singleton, apply]
    | clear =>
      have hnone : cellsSince (calls ++ [.clear]) = [] := sinceEmptied_of_none calls rfl
      rw [hnone]
      rfl

theorem ofList_eq_after (pairs : List (Field × Value)) :
    ofList pairs = after (pairs.map fun pair ↦ .set pair.1 pair.2) := by
  rw [after, List.foldl_map]
  rfl

/-! ## Looking up -/

variable {row a b : Row} {field : Field} {value : Value}

/-- A row says of its fields exactly what its entries say. -/
theorem get?_eq_some_iff : row.get? field = some value ↔ (field, value) ∈ row.entries := by
  constructor
  · intro h
    obtain ⟨cell, hcell, rfl⟩ := Option.map_eq_some_iff.1 h
    have hfield : cell.1 = field := by simpa using List.find?_some hcell
    exact hfield ▸ List.mem_of_find?_eq_some hcell
  · exact get?_of_mem

theorem mem_fields_iff : field ∈ row.fields ↔ ∃ v, row.get? field = some v := by
  simp [fields, get?_eq_some_iff]

/-- **A name finds the first field that has it**, in the order of the row. -/
theorem getByName?_eq (row : Row) (name : String) :
    row.getByName? name = (row.fields.find? (·.name = name)).bind row.get? := by
  have hfields : row.fields.find? (·.name = name) =
      (row.entries.find? (·.1.name = name)).map Prod.fst :=
    List.find?_map ..
  rw [getByName?, hfields]
  cases hfound : row.entries.find? (·.1.name = name) with
  | none => rfl
  | some cell =>
    rw [Option.map_some, Option.map_some, Option.bind_some]
    exact (get?_of_mem (List.mem_of_find?_eq_some hfound)).symm

/-! ## Comparing -/

theorem nodup_fields (row : Row) : row.fields.Nodup :=
  row.nodup

theorem length_fields (row : Row) : row.fields.length = row.size :=
  List.length_map Prod.fst

/-- What it takes for rows to be equal, read off the comparison. -/
theorem equal_iff_forall_mem :
    a.equal b = true ↔ a.size = b.size ∧
      ∀ field v, a.get? field = some v → ∃ w, b.get? field = some w ∧ v.equal w = true := by
  rw [equal, Bool.and_eq_true, decide_eq_true_eq, List.all_eq_true]
  refine and_congr_right fun _ ↦ ?_
  simp only [Prod.forall, get?_eq_some_iff, Option.any_eq_true]

/-- Equal rows have the same fields: those of the one are among those of the other, and there are as
many of them. -/
theorem mem_fields_of_equal (h : a.equal b = true) : field ∈ a.fields ↔ field ∈ b.fields := by
  obtain ⟨hsize, hvalues⟩ := equal_iff_forall_mem.1 h
  have hsub : a.fields ⊆ b.fields := by
    intro f hf
    obtain ⟨v, hv⟩ := mem_fields_iff.1 hf
    obtain ⟨w, hw, -⟩ := hvalues f v hv
    exact mem_fields_iff.2 ⟨w, hw⟩
  have hlength : b.fields.length ≤ a.fields.length := by
    rw [length_fields, length_fields, hsize]
  exact ((List.subperm_of_subset a.nodup_fields hsub).perm_of_length_le hlength).mem_iff

theorem size_eq_of_mem_fields_iff (h : ∀ f, f ∈ a.fields ↔ f ∈ b.fields) : a.size = b.size := by
  rw [← length_fields, ← length_fields]
  exact ((List.perm_ext_iff_of_nodup a.nodup_fields b.nodup_fields).2 h).length_eq

theorem mem_fields_of_rel {r : Value → Value → Prop}
    (h : Option.Rel r (a.get? field) (b.get? field)) : field ∈ a.fields ↔ field ∈ b.fields := by
  rw [mem_fields_iff, mem_fields_iff]
  generalize a.get? field = x at h ⊢
  generalize b.get? field = y at h ⊢
  cases h <;> simp

/-- **Rows are equal** if each field is in both with equal values, or in neither.  So the order in
which the fields were set does not count. -/
theorem equal_iff :
    a.equal b = true ↔
      ∀ field, Option.Rel (fun v w ↦ v.equal w = true) (a.get? field) (b.get? field) := by
  constructor
  · intro h field
    obtain ⟨-, hvalues⟩ := equal_iff_forall_mem.1 h
    cases ha : a.get? field with
    | some v =>
      obtain ⟨w, hw, hequal⟩ := hvalues field v ha
      rw [hw]
      exact .some hequal
    | none =>
      cases hb : b.get? field with
      | none => exact .none
      | some w =>
        have hmem : field ∈ a.fields := (mem_fields_of_equal h).2 (mem_fields_iff.2 ⟨w, hb⟩)
        obtain ⟨v, hv⟩ := mem_fields_iff.1 hmem
        rw [ha] at hv
        cases hv
  · intro hrel
    have hsize := size_eq_of_mem_fields_iff fun f ↦ mem_fields_of_rel (hrel f)
    refine equal_iff_forall_mem.2 ⟨hsize, fun f v hv ↦ ?_⟩
    have hf := hrel f
    rw [hv] at hf
    generalize b.get? f = y at hf ⊢
    cases hf with
    | some hequal => exact ⟨_, rfl, hequal⟩

/-- **What a row shows after any history.**  It holds each field that was set since it was last
cleared once, in the order in which they were first set and with the value that was last set, as if
the cells had been given all at once; a name finds the first field that has it; and rows with any
two histories are equal if they hold the same fields with equal values. -/
theorem row_of_calls (calls : List Call) :
    let row := after calls
    let cells := cellsSince calls
    FirstOccurrences row.fields (cells.map Prod.fst) ∧
      (∀ cell, cell ∈ row.entries ↔ lastSet cells cell.1 = some cell.2) ∧
      (∀ field, row.get? field = lastSet cells field) ∧
      (∀ pairs, ofList pairs = after (pairs.map fun pair ↦ .set pair.1 pair.2)) ∧
      (∀ name, row.getByName? name = (row.fields.find? (·.name = name)).bind row.get?) ∧
      ∀ calls', row.equal (after calls') = true ↔ ∀ field,
        Option.Rel (fun v w ↦ v.equal w = true) (row.get? field) ((after calls').get? field) := by
  intro row cells
  have hrow : row = ofList cells := after_eq_ofList calls
  have hget : ∀ field, row.get? field = lastSet cells field := by
    intro field
    rw [hrow, get?_ofList]
  refine ⟨?_, fun cell ↦ ?_, hget, ofList_eq_after, row.getByName?_eq, fun calls' ↦ equal_iff⟩
  · rw [firstOccurrences_iff, hrow, fields_ofList]
  · rw [← hget, get?_eq_some_iff]

/-- A cell that is set again keeps its place, and a name finds the first of two fields. -/
example :
    let first : Field := .unscoped .shared .utf8 "name"
    let second : Field := .unscoped (.isolated 0) .utf8 "name"
    let row := after [.set second .undefined, .clear, .set first (.utf8 "ada"),
      .set second (.utf8 "bob"), .set first (.utf8 "eve")]
    row.entries = [(first, .utf8 "eve"), (second, .utf8 "bob")] ∧
      row.getByName? "name" = some (.utf8 "eve") ∧ row.get? second = some (.utf8 "bob") := by
  decide

end Row
end VirtualTables
