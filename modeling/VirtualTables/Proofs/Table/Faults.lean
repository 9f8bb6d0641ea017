import VirtualTables.Proofs.Table.WellFormed
import VirtualTables.Sample.Users

/-!
# What a definition is refused for

Validation walks over the columns once and stops where something is wrong.  On its way it knows the
columns behind it by their fields alone, while a target may name a column that is still to come.
This module says what the walk finds out, in terms of the columns: which definitions are accepted,
and for the others which column is reported (`RefusedFor`).  It is the first one that is at fault,
and of its faults a repeated field comes before everything else.

An accepted definition can be relied on to resolve its columns (`Resolves`), and
`verdict_of_columns` puts all this together.
-/

namespace VirtualTables

namespace TableDef

variable {d : TableDef} {c : Column} {fault : DefinitionFault}

/-! ## What is wrong with a column -/

/-- The fields of the columns before a position. -/
def fieldsBefore (d : TableDef) (i : Nat) : List Field :=
  (d.columns.take i).map (·.field)

/-- A column is at odds with its target.  A target names a column by its field, and if the field
stands twice, the first column that has it. -/
inductive Mistargets (d : TableDef) (c : Column) : DefinitionFault → Prop
  | noTarget (halias : c.isAlias = true) (htarget : c.target = none) :
    Mistargets d c (.noTarget c.field.name)
  | strayTarget {f : Field} (hplain : c.isAlias = false) (htarget : c.target = some f) :
    Mistargets d c (.strayTarget c.field.name)
  | unknownTarget {f : Field} (halias : c.isAlias = true) (htarget : c.target = some f)
      (hnone : ∀ t ∈ d.columns, t.field ≠ f) :
    Mistargets d c (.unknownTarget c.field.name f.name)
  | aliasTarget {f : Field} {t : Column} (halias : c.isAlias = true) (htarget : c.target = some f)
      (hfirst : d.columns.find? (·.field = f) = some t) (ht : t.isAlias = true) :
    Mistargets d c (.aliasTarget c.field.name f.name)

/-- What is wrong with the column at a position.  Its target counts only if its field is new. -/
inductive Offends (d : TableDef) (i : Nat) : DefinitionFault → Prop
  | repeated {c : Column} (hc : d.columns[i]? = some c) (hagain : c.field ∈ d.fieldsBefore i) :
    Offends d i (.repeated c.field.name)
  | target {c : Column} {fault : DefinitionFault} (hc : d.columns[i]? = some c)
      (hnew : c.field ∉ d.fieldsBefore i) (hfault : d.Mistargets c fault) : Offends d i fault

/-- The reason for which a definition is refused: it has no columns, or it is what is wrong with the
first column with which something is wrong. -/
def RefusedFor (d : TableDef) (fault : DefinitionFault) : Prop :=
  (d.columns = [] ∧ fault = .noColumns) ∨
    ∃ i, d.Offends i fault ∧ ∀ j < i, ∀ other, ¬d.Offends j other

theorem mistargets_iff : d.Mistargets c fault ↔ d.targetFault? c = some fault := by
  constructor
  · rintro (⟨ha, ht⟩ | ⟨ha, ht⟩ | @⟨f, ha, ht, hnone⟩ | ⟨ha, ht, hfirst, halias⟩)
    · simp only [targetFault?, ha, ht]
    · simp only [targetFault?, ha, ht]
    · have hfind : d.columns.find? (·.field = f) = none :=
        List.find?_eq_none.2 fun t hmem ↦ by simpa using hnone t hmem
      simp only [targetFault?, ha, ht, bind_column?_position?, hfind]
    · simp only [targetFault?, ha, ht, bind_column?_position?, hfirst, halias, if_true]
  · intro h
    unfold targetFault? at h
    split at h
    · rename_i ha ht
      cases h
      exact .noTarget ha ht
    · rename_i ha ht
      cases h
      exact .strayTarget ha ht
    · exact absurd h (by simp)
    · rename_i f ha ht
      rw [bind_column?_position?] at h
      split at h
      · rename_i hfind
        cases h
        exact .unknownTarget ha ht fun t hmem ↦ by simpa using List.find?_eq_none.1 hfind t hmem
      · rename_i t hfind
        split at h
        · rename_i halias
          cases h
          exact .aliasTarget ha ht hfind halias
        · exact absurd h (by simp)

/-- What is found at a position. -/
def faultAt? (d : TableDef) (i : Nat) : Option DefinitionFault :=
  (d.columns[i]?).bind fun c ↦
    if c.field ∈ d.fieldsBefore i then some (.repeated c.field.name) else d.targetFault? c

theorem offends_iff {i : Nat} : d.Offends i fault ↔ d.faultAt? i = some fault := by
  constructor
  · rintro (⟨hc, hagain⟩ | ⟨hc, hnew, hfault⟩)
    · rw [faultAt?, hc, Option.bind_some, if_pos hagain]
    · rw [faultAt?, hc, Option.bind_some, if_neg hnew, mistargets_iff.1 hfault]
  · intro h
    obtain ⟨c, hc, hfault⟩ := Option.bind_eq_some_iff.1 h
    split at hfault
    · rename_i hagain
      cases hfault
      exact .repeated hc hagain
    · rename_i hnew
      exact .target hc hnew (mistargets_iff.2 hfault)

theorem forall_not_offends_iff {i : Nat} :
    (∀ fault, ¬d.Offends i fault) ↔ d.faultAt? i = none := by
  simp only [offends_iff, Option.eq_none_iff_forall_ne_some, ne_eq]

/-! ## The first fault -/

/-- The first thing that is found from a place on is found there or behind it. -/
theorem exists_first_iff {α : Type} {f : Nat → Option α} {k : Nat} {a : α} :
    (∃ i, k ≤ i ∧ f i = some a ∧ ∀ j, k ≤ j → j < i → f j = none) ↔
      f k = some a ∨
        f k = none ∧ ∃ i, k + 1 ≤ i ∧ f i = some a ∧ ∀ j, k + 1 ≤ j → j < i → f j = none := by
  constructor
  · rintro ⟨i, hki, hi, hbefore⟩
    rcases Nat.eq_or_lt_of_le hki with rfl | hlt
    · exact .inl hi
    · exact .inr ⟨hbefore k (Nat.le_refl k) hlt, i, hlt, hi, fun j hj ↦ hbefore j (by omega)⟩
  · rintro (hk | ⟨hk, i, hki, hi, hbefore⟩)
    · exact ⟨k, Nat.le_refl k, hk, fun j hkj hjk ↦ absurd hjk (by omega)⟩
    · refine ⟨i, by omega, hi, fun j hkj hji ↦ ?_⟩
      rcases Nat.eq_or_lt_of_le hkj with rfl | hlt
      · exact hk
      · exact hbefore j hlt hji

/-- The invariant of the walk: what is left are the columns from some position on, and what was
seen are the fields before it. -/
theorem firstFault?_eq_some_iff {k : Nat} {seen : List Field} {columns : List Column}
    (hleft : d.columns.drop k = columns) (hseen : ∀ f, f ∈ seen ↔ f ∈ d.fieldsBefore k) :
    d.firstFault? seen columns = some fault ↔
      ∃ i, k ≤ i ∧ d.faultAt? i = some fault ∧ ∀ j, k ≤ j → j < i → d.faultAt? j = none := by
  induction columns generalizing k seen with
  | nil =>
    have hend : d.columns.length ≤ k := List.drop_eq_nil_iff.1 hleft
    constructor
    · intro h
      exact absurd h (by simp [firstFault?])
    · rintro ⟨i, hi, hfault, -⟩
      rw [faultAt?, List.getElem?_eq_none (Nat.le_trans hend hi)] at hfault
      exact absurd hfault (by simp)
  | cons c rest ih =>
    have hc : d.columns[k]? = some c := by
      rw [← List.head?_drop, hleft, List.head?_cons]
    have hrest : d.columns.drop (k + 1) = rest := by
      rw [← List.tail_drop, hleft, List.tail_cons]
    have hbefore : d.fieldsBefore (k + 1) = d.fieldsBefore k ++ [c.field] := by
      rw [fieldsBefore, List.take_add_one, hc, List.map_append]
      rfl
    have hseen' : ∀ f, f ∈ c.field :: seen ↔ f ∈ d.fieldsBefore (k + 1) := by
      intro f
      rw [hbefore, List.mem_cons, List.mem_append, List.mem_singleton, hseen, or_comm]
    -- what was seen counts only by its fields, so the step is a statement about the position
    have hstep : d.firstFault? seen (c :: rest) =
        (d.faultAt? k).or (d.firstFault? (c.field :: seen) rest) := by
      simp only [firstFault?, faultAt?, hc, hseen, Option.bind_some]
      split <;> rfl
    rw [hstep, Option.or_eq_some_iff, ih hrest hseen', ← exists_first_iff]

theorem fault?_eq_some_iff : d.fault? = some fault ↔ d.RefusedFor fault := by
  rw [fault?, RefusedFor]
  -- first where nothing is wrong, or the negations are taken apart one by one
  simp only [forall_not_offends_iff]
  simp only [offends_iff]
  split
  · rename_i hnil
    have hempty : d.columns = [] := List.isEmpty_iff.1 hnil
    simp [hempty, faultAt?, eq_comm]
  · rename_i hne
    have hne' : d.columns ≠ [] := by simpa using hne
    have hseen : ∀ f, f ∈ ([] : List Field) ↔ f ∈ d.fieldsBefore 0 := by simp [fieldsBefore]
    rw [firstFault?_eq_some_iff List.drop_zero hseen]
    simp only [hne', false_and, false_or, Nat.zero_le, true_and, true_implies]

theorem validate_eq_error_iff {e : TableError} :
    d.validate = .error e ↔
      ∃ fault, e = .invalidDefinition d.name fault.reason ∧ d.RefusedFor fault := by
  simp only [← fault?_eq_some_iff, validate]
  cases d.fault? with
  | none => simp
  | some fault => simp [eq_comm]

/-! ## Definitions that are accepted -/

/-- The conditions of a well-formed definition, column by column. -/
theorem wellFormed_iff :
    d.WellFormed ↔
      d.columns ≠ [] ∧ (d.columns.map (·.field)).Nodup ∧
        (∀ c ∈ d.columns, c.isAlias = true ↔ ∃ f, c.target = some f) ∧
          ∀ c ∈ d.columns, ∀ f, c.target = some f →
            ∃ t ∈ d.columns, t.field = f ∧ t.isAlias = false := by
  constructor
  · intro hd
    have halias : ∀ c ∈ d.columns, ∀ f, c.target = some f → c.isAlias = true := by
      intro c hc f hf
      by_contra hplain
      rw [hd.target_of_plain c hc (by simpa using hplain)] at hf
      exact absurd hf (by simp)
    refine ⟨hd.columns_ne_nil, hd.nodup_fields, fun c hc ↦ ⟨fun ha ↦ ?_, ?_⟩, fun c hc f hf ↦ ?_⟩
    · obtain ⟨t, -, ht, -⟩ := hd.target_of_alias c hc ha
      exact ⟨t.field, ht⟩
    · rintro ⟨f, hf⟩
      exact halias c hc f hf
    · obtain ⟨t, hmem, ht, hplain⟩ := hd.target_of_alias c hc (halias c hc f hf)
      exact ⟨t, hmem, Option.some_inj.1 (ht.symm.trans hf), hplain⟩
  · rintro ⟨hne, hnodup, hflag, htarget⟩
    refine ⟨hne, hnodup, fun c hc ha ↦ ?_, fun c hc hplain ↦ ?_⟩
    · obtain ⟨f, hf⟩ := (hflag c hc).1 ha
      obtain ⟨t, hmem, rfl, hplain⟩ := htarget c hc f hf
      exact ⟨t, hmem, hf, hplain⟩
    · rw [Option.eq_none_iff_forall_ne_some]
      intro f hf
      rw [(hflag c hc).2 ⟨f, hf⟩] at hplain
      exact absurd hplain (by simp)

/-- Every column of a table, and no other, resolves to a column with data of its own: an alias to
the column that it names, and any other column to itself. -/
structure Resolves (d : TableDef) : Prop where
  defined : ∀ i, (∃ x, d.resolve? i = some x) ↔ i < d.columns.length
  lands : ∀ i p c, d.resolve? i = some (p, c) → d.columns[p]? = some c ∧ c.isAlias = false
  plain : ∀ i c, d.columns[i]? = some c → c.isAlias = false → d.resolve? i = some (i, c)
  target : ∀ i c, d.columns[i]? = some c → c.isAlias = true →
    ∃ p t, d.resolve? i = some (p, t) ∧ c.target = some t.field
  again : ∀ i p c, d.resolve? i = some (p, c) → d.resolve? p = some (p, c)

theorem WellFormed.resolves (hd : d.WellFormed) : d.Resolves where
  defined i := by
    constructor
    · rintro ⟨⟨p, c⟩, h⟩
      exact lt_length_of_resolve? h
    · intro hi
      obtain ⟨p, c, h⟩ := hd.exists_resolve? hi
      exact ⟨(p, c), h⟩
  lands i p c h := ⟨getElem?_of_resolve? h, hd.isAlias_of_resolve? h⟩
  plain i c hc hplain := hd.resolve?_of_plain hc hplain
  target i c hc halias := by
    obtain ⟨p, t, htarget, -, hresolve⟩ := hd.exists_target hc halias
    exact ⟨p, t, hresolve, htarget⟩
  again i p c h := hd.resolve?_of_resolve? h

/-- **Which definitions are accepted, what the others are refused for, and what an accepted one is
good for.**  Accepted are the definitions with a column whose fields are all different, in which the
aliases and only they have a target, and every target is a column of the table that is no alias.
Any other definition is refused for its first column at fault.  In an accepted one every column
resolves to a column with data. -/
theorem verdict_of_columns (d : TableDef) :
    (d.validate = .ok () ↔
        d.columns ≠ [] ∧ (d.columns.map (·.field)).Nodup ∧
          (∀ c ∈ d.columns, c.isAlias = true ↔ ∃ f, c.target = some f) ∧
            ∀ c ∈ d.columns, ∀ f, c.target = some f →
              ∃ t ∈ d.columns, t.field = f ∧ t.isAlias = false) ∧
      (∀ e, d.validate = .error e ↔
        ∃ fault, e = .invalidDefinition d.name fault.reason ∧ d.RefusedFor fault) ∧
      (d.validate = .ok () → d.Resolves) := by
  refine ⟨?_, fun e ↦ validate_eq_error_iff, fun hvalid ↦ ?_⟩
  · rw [validate_eq_ok_iff, wellFormed_iff]
  · exact (wellFormed_of_validate hvalid).resolves

end TableDef

namespace Sample.Users

/-- The definition of the users is accepted.  Its last column is an alias, and where that resolves
to, a column resolves to itself. -/
theorem verdict_of_users :
    definition.validate = .ok () ∧
      ∃ p c, definition.resolve? 3 = some (p, c) ∧ c.field = userid ∧
        definition.resolve? p = some (p, c) := by
  have hvalid : definition.validate = .ok () := rfl
  have hresolves := (TableDef.verdict_of_columns definition).2.2 hvalid
  obtain ⟨p, c, hresolve, htarget⟩ := hresolves.target 3 (.aliasOf uid userid) rfl rfl
  exact ⟨hvalid, p, c, hresolve, (Option.some_inj.1 htarget).symm, hresolves.again 3 p c hresolve⟩

/-- The alias in front is at fault, and it is reported before the field that stands twice. -/
example :
    ({ definition with columns :=
        [.aliasOf uid home, .aliasOf home userid, .plain userid, .plain userid] }).validate =
      .error (.invalidDefinition "users" "alias column uid points at alias column home") :=
  rfl

end Sample.Users

end VirtualTables
