import Mathlib.Data.List.Nodup
import VirtualTables.Table.Validation

/-!
# Well-formed table definitions

Validation looks at the columns one after another and stops at the first fault.  What it finds out
about an accepted definition is a statement about all columns at once, `TableDef.WellFormed`, and
this is what the theorems about scans are stated with (`validate_eq_ok_iff`).

The reason to ask for it is `TableDef.resolve?`: a constraint on a column, a column that is read and
a cell of a row all go through it.  In a well-formed definition it is defined for every column
(`WellFormed.exists_resolve?`), and it ends at a column with data of its own
(`WellFormed.isAlias_of_resolve?`).
-/

namespace VirtualTables

namespace TableDef

variable {d : TableDef}

/-- The definitions that are accepted. -/
structure WellFormed (d : TableDef) : Prop where
  /-- There is a column. -/
  columns_ne_nil : d.columns ≠ []
  /-- No field stands twice. -/
  nodup_fields : (d.columns.map (·.field)).Nodup
  /-- An alias stands for a column of the table that is no alias. -/
  target_of_alias : ∀ c ∈ d.columns, c.isAlias = true →
    ∃ t ∈ d.columns, c.target = some t.field ∧ t.isAlias = false
  /-- A column that is no alias stands for no other one. -/
  target_of_plain : ∀ c ∈ d.columns, c.isAlias = false → c.target = none

/-! ## Positions -/

theorem mem_columns_of_position? {f : Field} {p : Nat} {c : Column}
    (hp : d.position? f = some p) (hc : d.columns[p]? = some c) :
    c ∈ d.columns ∧ c.field = f := by
  obtain ⟨hlt, hf, -⟩ := List.findIdx?_eq_some_iff_getElem.1 hp
  rw [List.getElem?_eq_getElem hlt, Option.some_inj] at hc
  subst hc
  exact ⟨List.getElem_mem hlt, by simpa using hf⟩

/-- The column that `resolve?` ends at stands at the position it gives. -/
theorem getElem?_of_resolve? {i p : Nat} {c : Column} (h : d.resolve? i = some (p, c)) :
    d.columns[p]? = some c := by
  unfold resolve? at h
  split at h
  · exact absurd h (by simp)
  · rename_i c₀ hc₀
    split at h
    · split at h
      · obtain ⟨q, -, hq⟩ := Option.bind_eq_some_iff.1 h
        obtain ⟨t, ht, heq⟩ := Option.map_eq_some_iff.1 hq
        rw [Prod.mk.injEq] at heq
        obtain ⟨rfl, rfl⟩ := heq
        exact ht
      · rw [Option.some_inj, Prod.mk.injEq] at h
        obtain ⟨rfl, rfl⟩ := h
        exact hc₀
    · rw [Option.some_inj, Prod.mk.injEq] at h
      obtain ⟨rfl, rfl⟩ := h
      exact hc₀

theorem mem_columns_of_resolve? {i p : Nat} {c : Column} (h : d.resolve? i = some (p, c)) :
    c ∈ d.columns :=
  List.mem_of_getElem? (getElem?_of_resolve? h)

theorem lt_length_of_resolve? {i p : Nat} {c : Column} (h : d.resolve? i = some (p, c)) :
    i < d.columns.length := by
  by_contra hge
  rw [resolve?, List.getElem?_eq_none (Nat.le_of_not_lt hge)] at h
  exact absurd h (by simp)

/-! ## What validation finds out -/

/-- The invariant of the walk over the columns: those seen so far have different fields, and none of
them comes again. -/
theorem firstFault?_eq_none_iff {seen : List Field} {columns : List Column} (hseen : seen.Nodup) :
    d.firstFault? seen columns = none ↔
      (seen ++ columns.map (·.field)).Nodup ∧ ∀ c ∈ columns, d.targetFault? c = none := by
  induction columns generalizing seen with
  | nil => simpa [firstFault?] using hseen
  | cons c rest ih =>
    rw [firstFault?, List.map_cons, List.perm_middle.nodup_iff, List.forall_mem_cons]
    split
    · rename_i hc
      have hagain : ¬(c.field :: (seen ++ rest.map (·.field))).Nodup := fun h ↦
        (List.nodup_cons.1 h).1 (List.mem_append_left _ hc)
      simp [hagain]
    · rename_i hc
      rw [Option.or_eq_none_iff, ih (List.nodup_cons.2 ⟨hc, hseen⟩), List.cons_append,
        and_left_comm]

/-- The column that a target names is the first one with its field. -/
theorem bind_column?_position? (f : Field) :
    (d.position? f).bind d.column? = d.columns.find? (·.field = f) :=
  List.find?_eq_bind_findIdx?_getElem?.symm

theorem targetFault?_eq_none_iff {c : Column} :
    d.targetFault? c = none ↔
      (c.isAlias = true → ∃ f t, c.target = some f ∧ d.columns.find? (·.field = f) = some t ∧
        t.isAlias = false) ∧ (c.isAlias = false → c.target = none) := by
  unfold targetFault?
  split
  · rename_i ha ht
    simp [ha, ht]
  · rename_i ha ht
    simp [ha, ht]
  · rename_i ha ht
    simp [ha, ht]
  · rename_i f ha ht
    rw [bind_column?_position?]
    cases hfind : d.columns.find? (·.field = f) with
    | none => simp [ha, ht, hfind]
    | some t => simp [ha, ht, hfind]

/-- Where no field stands twice, a field names the only column that has it. -/
theorem find?_field_eq_some_iff (hnodup : (d.columns.map (·.field)).Nodup) {f : Field}
    {t : Column} : d.columns.find? (·.field = f) = some t ↔ t ∈ d.columns ∧ t.field = f := by
  constructor
  · intro h
    exact ⟨List.mem_of_find?_eq_some h, by simpa using List.find?_some h⟩
  · rintro ⟨hmem, rfl⟩
    obtain ⟨t', ht'⟩ : ∃ t', d.columns.find? (·.field = t.field) = some t' := by
      rw [← Option.isSome_iff_exists, List.find?_isSome]
      exact ⟨t, hmem, by simp⟩
    have hfield : t'.field = t.field := by simpa using List.find?_some ht'
    rw [ht', List.inj_on_of_nodup_map hnodup (List.mem_of_find?_eq_some ht') hmem hfield]

theorem fault?_eq_none_iff : d.fault? = none ↔ d.WellFormed := by
  rw [fault?]
  split
  · rename_i hnil
    have hempty : d.columns = [] := List.isEmpty_iff.1 hnil
    exact ⟨fun h ↦ absurd h (by simp), fun hd ↦ absurd hempty hd.columns_ne_nil⟩
  · rename_i hne
    rw [firstFault?_eq_none_iff List.nodup_nil, List.nil_append]
    constructor
    · rintro ⟨hnodup, htarget⟩
      refine
        { columns_ne_nil := by simpa using hne
          nodup_fields := hnodup
          target_of_alias := fun c hc ha ↦ ?_
          target_of_plain := fun c hc ↦ (targetFault?_eq_none_iff.1 (htarget c hc)).2 }
      obtain ⟨f, t, ht, hfind, hplain⟩ := (targetFault?_eq_none_iff.1 (htarget c hc)).1 ha
      obtain ⟨hmem, rfl⟩ := (find?_field_eq_some_iff hnodup).1 hfind
      exact ⟨t, hmem, ht, hplain⟩
    · intro hd
      refine ⟨hd.nodup_fields, fun c hc ↦
        targetFault?_eq_none_iff.2 ⟨fun ha ↦ ?_, hd.target_of_plain c hc⟩⟩
      obtain ⟨t, hmem, ht, hplain⟩ := hd.target_of_alias c hc ha
      exact ⟨t.field, t, ht, (find?_field_eq_some_iff hd.nodup_fields).2 ⟨hmem, rfl⟩, hplain⟩

/-- **The definitions that are accepted are the well-formed ones.** -/
theorem validate_eq_ok_iff : d.validate = .ok () ↔ d.WellFormed := by
  rw [← fault?_eq_none_iff, validate]
  cases d.fault? <;> simp

theorem wellFormed_of_validate (h : d.validate = .ok ()) : d.WellFormed :=
  validate_eq_ok_iff.1 h

/-- Where no column is an alias, different fields are all it takes. -/
theorem wellFormed_of_plain (hne : d.columns ≠ []) (hnodup : (d.columns.map (·.field)).Nodup)
    (hplain : ∀ c ∈ d.columns, c.isAlias = false ∧ c.target = none) : d.WellFormed where
  columns_ne_nil := hne
  nodup_fields := hnodup
  target_of_alias c hc ha := by
    rw [(hplain c hc).1] at ha
    exact absurd ha Bool.false_ne_true
  target_of_plain c hc _ := (hplain c hc).2

/-! ## Resolving columns -/

namespace WellFormed

/-- Every field of a column has a position, and there is only one column at it. -/
theorem exists_position? (hd : d.WellFormed) {t : Column} (ht : t ∈ d.columns) :
    ∃ p, d.position? t.field = some p ∧ d.columns[p]? = some t := by
  cases hp : d.position? t.field with
  | none =>
    have hnone := List.findIdx?_eq_none_iff.1 hp t ht
    exact absurd hnone (by simp)
  | some p =>
    obtain ⟨hlt, -, -⟩ := List.findIdx?_eq_some_iff_getElem.1 hp
    have hc : d.columns[p]? = some d.columns[p] := List.getElem?_eq_getElem hlt
    obtain ⟨hmem, hf⟩ := mem_columns_of_position? hp hc
    have heq : d.columns[p] = t := List.inj_on_of_nodup_map hd.nodup_fields hmem ht hf
    exact ⟨p, rfl, by rw [hc, heq]⟩

/-- Every alias has its target at some position, and resolves to it. -/
theorem exists_target (hd : d.WellFormed) {i : Nat} {c : Column} (hc : d.columns[i]? = some c)
    (halias : c.isAlias = true) :
    ∃ p t, c.target = some t.field ∧ d.columns[p]? = some t ∧ d.resolve? i = some (p, t) := by
  obtain ⟨t, hmem, htarget, -⟩ := hd.target_of_alias _ (List.mem_of_getElem? hc) halias
  obtain ⟨p, hp, hat⟩ := hd.exists_position? hmem
  exact ⟨p, t, htarget, hat, by simp [resolve?, hc, htarget, halias, hp, hat]⟩

/-- A column with data of its own is found where it is. -/
theorem resolve?_of_plain (hd : d.WellFormed) {i : Nat} {c : Column} (hc : d.columns[i]? = some c)
    (hplain : c.isAlias = false) : d.resolve? i = some (i, c) := by
  have htarget := hd.target_of_plain _ (List.mem_of_getElem? hc) hplain
  simp only [resolve?, hc, htarget]

/-- **Every column of a well-formed definition has a column with its data.** -/
theorem exists_resolve? (hd : d.WellFormed) {i : Nat} (hi : i < d.columns.length) :
    ∃ p c, d.resolve? i = some (p, c) := by
  have hc : d.columns[i]? = some d.columns[i] := List.getElem?_eq_getElem hi
  by_cases ha : d.columns[i].isAlias = true
  · obtain ⟨p, t, -, -, hresolve⟩ := hd.exists_target hc ha
    exact ⟨p, t, hresolve⟩
  · exact ⟨i, d.columns[i], hd.resolve?_of_plain hc (by simpa using ha)⟩

/-- **The column with the data is no alias.** -/
theorem isAlias_of_resolve? (hd : d.WellFormed) {i p : Nat} {c : Column}
    (h : d.resolve? i = some (p, c)) : c.isAlias = false := by
  have hi := lt_length_of_resolve? h
  have hc : d.columns[i]? = some d.columns[i] := List.getElem?_eq_getElem hi
  by_cases ha : d.columns[i].isAlias = true
  · obtain ⟨t, ht, htarget, hplain⟩ := hd.target_of_alias _ (List.getElem_mem hi) ha
    obtain ⟨q, hq, hcol⟩ := hd.exists_position? ht
    simp only [resolve?, hc, htarget, ha, if_true, hq, hcol, Option.bind_some, Option.map_some,
      Option.some_inj, Prod.mk.injEq] at h
    rw [← h.2]
    exact hplain
  · rw [Bool.not_eq_true] at ha
    obtain ⟨-, rfl⟩ := Prod.mk.inj (Option.some_inj.1 ((hd.resolve?_of_plain hc ha).symm.trans h))
    exact ha

/-- Resolving twice is resolving once. -/
theorem resolve?_of_resolve? (hd : d.WellFormed) {i p : Nat} {c : Column}
    (h : d.resolve? i = some (p, c)) : d.resolve? p = some (p, c) :=
  hd.resolve?_of_plain (getElem?_of_resolve? h) (hd.isAlias_of_resolve? h)

end WellFormed

end TableDef

end VirtualTables
