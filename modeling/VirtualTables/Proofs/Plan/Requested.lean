import VirtualTables.Plan.Pushdown
import VirtualTables.Proofs.Table.WellFormed

/-!
# The fields that a plan asks for

A plan asks a table for a set of fields, and a set is kept as a list in which the order of the
columns still shows.  What counts is membership, and `mem_requestedColumns_iff` reads it off the
mask of the columns that are read: a field is asked for when it holds the data of one of them.  The
mask has fewer bits than a table may have columns, which `reads` alone knows of.
-/

namespace VirtualTables

/-! ## Sets of fields -/

namespace FieldSet

theorem mem_insert {s : FieldSet} {f g : Field} : f ∈ s.insert g ↔ f = g ∨ f ∈ s := by
  change f ∈ (s.insert g).toList ↔ f = g ∨ f ∈ s.toList
  rw [insert]
  split
  · rename_i hg
    exact ⟨.inr, fun h ↦ h.elim (fun heq ↦ heq ▸ hg) id⟩
  · rw [List.mem_append, List.mem_singleton, or_comm]

theorem mem_foldl_insert {s : FieldSet} {f : Field} {fields : List Field} :
    f ∈ fields.foldl insert s ↔ f ∈ fields ∨ f ∈ s := by
  induction fields generalizing s with
  | nil => simp
  | cons g rest ih => rw [List.foldl_cons, ih, mem_insert, List.mem_cons, or_left_comm, or_assoc]

theorem mem_ofList {f : Field} {fields : List Field} : f ∈ ofList fields ↔ f ∈ fields := by
  rw [ofList, mem_foldl_insert]
  exact or_iff_left List.not_mem_nil

end FieldSet

namespace TableDef

variable {d : TableDef}

/-- **A field is asked for exactly when it holds the data of a column that is read.** -/
theorem mem_requestedColumns_iff {used : BitVec 64} {f : Field} :
    f ∈ d.requestedColumns used ↔
      ∃ i p column, reads used i = true ∧ d.resolve? i = some (p, column) ∧ column.field = f := by
  rw [requestedColumns, FieldSet.mem_ofList, List.mem_filterMap]
  constructor
  · rintro ⟨i, -, h⟩
    split at h
    · rename_i hread
      obtain ⟨⟨p, column⟩, hresolve, hfield⟩ := Option.map_eq_some_iff.1 h
      exact ⟨i, p, column, hread, hresolve, hfield⟩
    · exact absurd h (by simp)
  · rintro ⟨i, p, column, hread, hresolve, rfl⟩
    refine ⟨i, List.mem_range.2 (lt_length_of_resolve? hresolve), ?_⟩
    rw [if_pos hread, hresolve, Option.map_some]

theorem reads_or (m n : BitVec 64) (i : Nat) : reads (m ||| n) i = (reads m i || reads n i) :=
  BitVec.getLsbD_or

/-- What two masks ask for together is what the one asks for and what the other does. -/
theorem mem_requestedColumns_or {m n : BitVec 64} {f : Field} :
    f ∈ d.requestedColumns (m ||| n) ↔ f ∈ d.requestedColumns m ∨ f ∈ d.requestedColumns n := by
  simp only [mem_requestedColumns_iff, reads_or, Bool.or_eq_true, or_and_right, exists_or]

/-- **A table is asked for its data alone**: no alias has a field that is asked for. -/
theorem WellFormed.isAlias_of_mem_requestedColumns (hd : d.WellFormed) {used : BitVec 64}
    {f : Field} (hf : f ∈ d.requestedColumns used) :
    (∃ column ∈ d.columns, column.field = f) ∧
      ∀ column ∈ d.columns, column.field = f → column.isAlias = false := by
  obtain ⟨i, p, column, -, hresolve, rfl⟩ := mem_requestedColumns_iff.1 hf
  have hmem := mem_columns_of_resolve? hresolve
  refine ⟨⟨column, hmem, rfl⟩, fun column' hmem' hsame ↦ ?_⟩
  rw [List.inj_on_of_nodup_map hd.nodup_fields hmem' hmem hsame]
  exact hd.isAlias_of_resolve? hresolve

end TableDef

end VirtualTables
