import VirtualTables.Proofs.Distinct
import VirtualTables.Row

/-!
# Reading a row back

A row keeps each field once and in the place where it was first set, so how it stores a cell says
little about what was set.  What a reader wants is the list of the cells in the order of their
setting: a row that was made from such a list has, under each field, the value that was set last
(`Row.get?_ofList`), and it is empty only if nothing was set (`Row.isEmpty_ofList`).  Its fields are
those of the list without repetitions (`Row.fields_ofList`), and if there are none then the row is
the list itself (`Row.entries_ofList_of_nodup`).
-/

namespace VirtualTables

/-- The value that was set last under a field. -/
def lastSet (cells : List (Field × Value)) (field : Field) : Option Value :=
  (cells.reverse.find? (·.1 = field)).map Prod.snd

theorem lastSet_append_singleton (cells : List (Field × Value)) (f field : Field) (v : Value) :
    lastSet (cells ++ [(f, v)]) field = if f = field then some v else lastSet cells field := by
  rw [lastSet, List.reverse_append, List.reverse_singleton, List.singleton_append]
  by_cases h : f = field
  · rw [List.find?_cons_of_pos (by simpa using h), if_pos h, Option.map_some]
  · rw [List.find?_cons_of_neg (by simpa using h), if_neg h, lastSet]

/-- Cells that are left out by their fields do not count, and no other field is touched. -/
theorem lastSet_filter (cells : List (Field × Value)) (keep : Field → Bool) (field : Field) :
    lastSet (cells.filter fun cell ↦ keep cell.1) field =
      if keep field then lastSet cells field else none := by
  induction cells using List.reverseRecOn with
  | nil => simp [lastSet]
  | append_singleton cells cell ih =>
    obtain ⟨f, v⟩ := cell
    rw [List.filter_append, lastSet_append_singleton]
    by_cases hf : f = field
    · subst hf
      cases hkeep : keep f with
      | true => simp [hkeep, lastSet_append_singleton]
      | false => simpa [hkeep] using ih
    · rw [if_neg hf, ← ih]
      cases hkeep : keep f with
      | true => simp [hkeep, lastSet_append_singleton, hf]
      | false => simp [hkeep]

namespace Row

/-! ## Setting one cell -/

theorem find?_setEntry (f field : Field) (v : Value) (entries : List (Field × Value)) :
    (setEntry f v entries).find? (·.1 = field) =
      if f = field then some (f, v) else entries.find? (·.1 = field) := by
  induction entries with
  | nil => by_cases h : f = field <;> simp [setEntry, h]
  | cons e rest ih =>
    obtain ⟨g, w⟩ := e
    by_cases hg : g = f
    · subst hg
      rw [setEntry, if_pos rfl]
      by_cases h : g = field <;> simp [h]
    · rw [setEntry, if_neg hg]
      by_cases h : g = field
      · -- the entry in front is found, and it is not the one that was set
        have hne : f ≠ field := fun hf ↦ hg (h.trans hf.symm)
        rw [List.find?_cons_of_pos (by simpa using h), if_neg hne,
          List.find?_cons_of_pos (by simpa using h)]
      · rw [List.find?_cons_of_neg (by simpa using h), ih,
          List.find?_cons_of_neg (by simpa using h)]

/-- A cell that is set is read back, and the others stay as they are. -/
theorem get?_set (row : Row) (f field : Field) (v : Value) :
    (row.set f v).get? field = if f = field then some v else row.get? field := by
  rw [get?, set, find?_setEntry]
  by_cases h : f = field
  · rw [if_pos h, if_pos h, Option.map_some]
  · rw [if_neg h, if_neg h, get?]

theorem setEntry_ne_nil (f : Field) (v : Value) (entries : List (Field × Value)) :
    setEntry f v entries ≠ [] := by
  cases entries with
  | nil => simp [setEntry]
  | cons e rest =>
    obtain ⟨g, w⟩ := e
    by_cases hg : g = f <;> simp [setEntry, hg]

@[simp]
theorem isEmpty_set (row : Row) (f : Field) (v : Value) : (row.set f v).isEmpty = false := by
  rw [isEmpty, List.isEmpty_eq_false_iff]
  exact setEntry_ne_nil f v row.entries

@[simp]
theorem entries_set (row : Row) (f : Field) (v : Value) :
    (row.set f v).entries = setEntry f v row.entries :=
  rfl

/-- A field that is not set comes last. -/
theorem setEntry_of_not_mem {f : Field} (v : Value) {entries : List (Field × Value)}
    (h : f ∉ entries.map Prod.fst) : setEntry f v entries = entries ++ [(f, v)] := by
  induction entries with
  | nil => rfl
  | cons e rest ih =>
    rw [List.map_cons, List.mem_cons, not_or] at h
    rw [setEntry, if_neg fun heq ↦ h.1 heq.symm, ih h.2, List.cons_append]

/-- A field that is set already keeps its place. -/
theorem keys_setEntry_of_mem {f : Field} (v : Value) {entries : List (Field × Value)}
    (h : f ∈ entries.map Prod.fst) :
    (setEntry f v entries).map Prod.fst = entries.map Prod.fst := by
  induction entries with
  | nil => cases h
  | cons e rest ih =>
    obtain ⟨g, w⟩ := e
    by_cases hg : g = f
    · rw [setEntry, if_pos hg, List.map_cons, List.map_cons]
    · rw [List.map_cons, List.mem_cons] at h
      rw [setEntry, if_neg hg, List.map_cons, List.map_cons,
        ih (h.resolve_left fun heq ↦ hg heq.symm)]

theorem mem_setEntry {f : Field} {v : Value} {entries : List (Field × Value)}
    {cell : Field × Value} (h : cell ∈ setEntry f v entries) : cell = (f, v) ∨ cell ∈ entries := by
  induction entries with
  | nil => exact .inl (List.mem_singleton.1 h)
  | cons e rest ih =>
    obtain ⟨g, w⟩ := e
    by_cases hg : g = f
    · subst hg
      rw [setEntry, if_pos rfl] at h
      exact (List.mem_cons.1 h).imp id (List.mem_cons_of_mem _)
    · rw [setEntry, if_neg hg] at h
      obtain rfl | h := List.mem_cons.1 h
      · exact .inr List.mem_cons_self
      · exact (ih h).imp id (List.mem_cons_of_mem _)

/-- An entry is read back. -/
theorem get?_of_mem {row : Row} {f : Field} {v : Value} (h : (f, v) ∈ row.entries) :
    row.get? f = some v := by
  have hfound : (row.entries.find? (·.1 = f)).isSome := List.find?_isSome.2 ⟨_, h, by simp⟩
  obtain ⟨e, he⟩ := Option.isSome_iff_exists.1 hfound
  have hfield : e.1 = f := by simpa using List.find?_some he
  -- no other entry has the field
  have hsame : e = (f, v) :=
    List.inj_on_of_nodup_map row.nodup (List.mem_of_find?_eq_some he) h hfield
  rw [get?, he, hsame, Option.map_some]

/-! ## Setting many -/

theorem ofList_append_singleton (cells : List (Field × Value)) (f : Field) (v : Value) :
    ofList (cells ++ [(f, v)]) = (ofList cells).set f v := by
  rw [ofList, setAll, List.foldl_append]
  rfl

/-- **A row holds, under each field, the value that was set last.** -/
theorem get?_ofList (cells : List (Field × Value)) (field : Field) :
    (ofList cells).get? field = lastSet cells field := by
  induction cells using List.reverseRecOn with
  | nil => rfl
  | append_singleton cells cell ih =>
    rw [ofList_append_singleton, get?_set, ih, lastSet_append_singleton]

/-- **The fields of a row** are those that were set, each in the place where it was set first. -/
theorem fields_ofList (cells : List (Field × Value)) :
    (ofList cells).fields = (cells.map Prod.fst).eraseDups := by
  induction cells using List.reverseRecOn with
  | nil => rfl
  | append_singleton cells cell ih =>
    obtain ⟨f, v⟩ := cell
    have hset : f ∈ cells.map Prod.fst ↔ f ∈ (ofList cells).entries.map Prod.fst := by
      rw [← List.mem_eraseDups, ← ih, fields]
    rw [List.map_append, List.map_singleton, eraseDups_append_singleton, ofList_append_singleton,
      ← ih, fields, entries_set, fields]
    split
    · rename_i hmem
      exact keys_setEntry_of_mem v (hset.1 hmem)
    · rename_i hmem
      rw [setEntry_of_not_mem v fun h ↦ hmem (hset.2 h), List.map_append]
      rfl

/-- Nothing is replaced in a row if no field is set twice. -/
theorem entries_ofList_of_nodup {cells : List (Field × Value)}
    (h : (cells.map Prod.fst).Nodup) : (ofList cells).entries = cells := by
  induction cells using List.reverseRecOn with
  | nil => rfl
  | append_singleton cells cell ih =>
    obtain ⟨f, v⟩ := cell
    rw [List.map_append, List.nodup_append] at h
    obtain ⟨hbefore, -, hdisjoint⟩ := h
    have hentries := ih hbefore
    have hnew : f ∉ (ofList cells).entries.map Prod.fst := by
      rw [hentries]
      exact fun hmem ↦ hdisjoint f hmem f (List.mem_singleton.2 rfl) rfl
    rw [ofList_append_singleton, entries_set, setEntry_of_not_mem v hnew, hentries]

/-- A row holds nothing that was not set. -/
theorem mem_of_mem_entries_ofList {cells : List (Field × Value)} {cell : Field × Value}
    (h : cell ∈ (ofList cells).entries) : cell ∈ cells := by
  induction cells using List.reverseRecOn with
  | nil => exact h
  | append_singleton cells last ih =>
    obtain ⟨f, v⟩ := last
    rw [ofList_append_singleton, entries_set] at h
    obtain rfl | h := mem_setEntry h
    · exact List.mem_append_right cells (List.mem_singleton.2 rfl)
    · exact List.mem_append_left _ (ih h)

/-- A row is empty only if no cell was set. -/
theorem isEmpty_ofList {cells : List (Field × Value)} :
    (ofList cells).isEmpty = cells.isEmpty := by
  cases cells using List.reverseRecOn with
  | nil => rfl
  | append_singleton cells cell => rw [ofList_append_singleton, isEmpty_set]; simp

end Row

end VirtualTables
