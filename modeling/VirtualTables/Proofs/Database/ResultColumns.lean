import VirtualTables.Proofs.Database.Delivery

/-!
# When a result keeps all its columns

The fields of a result have the names of its columns, and a name that came before gets the position
of its column.  This keeps the columns with generated names apart from each other
(`positioned_injective`), but a generated name may also be the name that another column has in the
statement.  If the two have values of the same type, then they have the same field (`Clash`), and
the value of the later column replaces that of the earlier one.

`result_keeps_columns_iff` says that this is the only way to lose a column.
-/

namespace VirtualTables

/-! ## Names with a position -/

/-- A name with the position of its column. -/
def positioned (name : String) (index : Nat) : String :=
  s!"{name}:{index}"

theorem toList_positioned (name : String) (index : Nat) :
    (positioned name index).toList = name.toList ++ ':' :: Nat.toDigits 10 index := by
  rw [List.append_cons]
  exact (String.toList_append.trans (congrArg _ Nat.toList_repr)).trans
    (congrArg (· ++ _) String.toList_append)

/-- What stands behind the last mark can be told from what stands before it. -/
theorem append_cons_inj_of_not_mem {α : Type} {mark : α} {xs ys vs ws : List α} (hvs : mark ∉ vs)
    (hws : mark ∉ ws) (h : xs ++ mark :: vs = ys ++ mark :: ws) : xs = ys ∧ vs = ws := by
  obtain ⟨between, rfl, hrest⟩ | ⟨between, rfl, hrest⟩ := List.append_eq_append_iff.1 h
  · cases between with
    | nil => exact ⟨(List.append_nil xs).symm, (List.cons.inj hrest).2⟩
    | cons c between =>
      rw [(List.cons.inj hrest).2] at hvs
      exact absurd (List.mem_append_right between List.mem_cons_self) hvs
  · cases between with
    | nil => exact ⟨List.append_nil ys, (List.cons.inj hrest).2.symm⟩
    | cons c between =>
      rw [(List.cons.inj hrest).2] at hws
      exact absurd (List.mem_append_right between List.mem_cons_self) hws

/-- A name with a position can be taken apart. -/
theorem positioned_injective {name name' : String} {i j : Nat}
    (h : positioned name i = positioned name' j) : name = name' ∧ i = j := by
  have hmark (n : Nat) : ':' ∉ Nat.toDigits 10 n := fun hmem ↦
    absurd (Nat.isDigit_of_mem_toDigits (by decide) (by decide) hmem) (by decide)
  rw [← String.toList_inj, toList_positioned, toList_positioned] at h
  obtain ⟨hname, hdigits⟩ := append_cons_inj_of_not_mem (hmark i) (hmark j) h
  refine ⟨String.toList_inj.1 hname, ?_⟩
  rw [← Nat.ofDigitChars_ten_toDigits (n := i), hdigits, Nat.ofDigitChars_ten_toDigits]

/-! ## The fields of a result -/

variable {names : List String} {values : List Value}

/-- The name of the field for the column number `i`. -/
def shownName (names : List String) (i : Nat) (name : String) : String :=
  if name ∈ names.take i then positioned name i else name

theorem getElem?_resultFieldsFrom (index : Nat) (seen : List String) {i : Nat} {name : String}
    {value : Value} (hname : names[i]? = some name) (hvalue : values[i]? = some value) :
    (resultFieldsFrom index seen names values)[i]? = some (.unscoped .shared value.type
      (if name ∈ seen ∨ name ∈ names.take i then positioned name (index + i) else name)) := by
  induction names generalizing index seen values i with
  | nil => cases hname
  | cons first names ih =>
    cases values with
    | nil => cases hvalue
    | cons v values =>
      rw [resultFieldsFrom]
      cases i with
      | zero =>
        obtain rfl : first = name := Option.some_inj.1 hname
        obtain rfl : v = value := Option.some_inj.1 hvalue
        simp [positioned]
      | succ i =>
        have hseen : name ∈ first :: seen ∨ name ∈ names.take i ↔
            name ∈ seen ∨ name ∈ (first :: names).take (i + 1) := by
          rw [List.take_succ_cons, List.mem_cons, List.mem_cons, or_assoc, or_left_comm]
        rw [List.getElem?_cons_succ, ih (index + 1) (first :: seen) hname hvalue]
        simp only [hseen, Nat.add_assoc, Nat.add_comm 1 i]

theorem getElem?_resultFields {i : Nat} {name : String} {value : Value}
    (hname : names[i]? = some name) (hvalue : values[i]? = some value) :
    (resultFields names values)[i]? =
      some (.unscoped .shared value.type (shownName names i name)) := by
  rw [resultFields, getElem?_resultFieldsFrom 0 [] hname hvalue]
  simp only [List.not_mem_nil, false_or, Nat.zero_add, shownName]

theorem length_resultFields (h : values.length = names.length) :
    (resultFields names values).length = names.length := by
  rw [← List.length_map Field.type, types_resultFields h, List.length_map, h]

/-! ## Columns with the same field -/

/-- The name that the column number `i` gets, because its own came before, is the name of the column
number `j`, which keeps it; and both have values of the same type. -/
structure Clash (names : List String) (values : List Value) (i j : Nat) : Prop where
  repeated : ∃ name ∈ names.take i, names[i]? = some name ∧ names[j]? = some (positioned name i) ∧
    positioned name i ∉ names.take j
  types : ∃ v w, values[i]? = some v ∧ values[j]? = some w ∧ v.type = w.type

theorem Clash.ne {i j : Nat} (h : Clash names values i j) : i ≠ j := by
  rintro rfl
  obtain ⟨name, hmem, hname, hnamed, hnew⟩ := h.repeated
  rw [hname, Option.some_inj] at hnamed
  exact hnew (hnamed ▸ hmem)

/-- Columns that clash have the same field. -/
theorem Clash.exists_field {i j : Nat} (h : Clash names values i j) :
    ∃ f, (resultFields names values)[i]? = some f ∧ (resultFields names values)[j]? = some f := by
  obtain ⟨name, hmem, hname, hnamed, hnew⟩ := h.repeated
  obtain ⟨v, w, hv, hw, htype⟩ := h.types
  refine ⟨_, getElem?_resultFields hname hv, ?_⟩
  rw [getElem?_resultFields hnamed hw, shownName, shownName, if_pos hmem, if_neg hnew, htype]

/-- Only columns that clash have the same field. -/
theorem clash_of_field {i j : Nat} {f : Field} (h : values.length = names.length) (hij : i < j)
    (hi : (resultFields names values)[i]? = some f)
    (hj : (resultFields names values)[j]? = some f) :
    Clash names values i j ∨ Clash names values j i := by
  have hcolumn {k : Nat} (hk : (resultFields names values)[k]? = some f) :
      ∃ name value, names[k]? = some name ∧ values[k]? = some value ∧
        f = .unscoped .shared value.type (shownName names k name) := by
    have hlt : k < names.length :=
      length_resultFields h ▸ (List.getElem?_eq_some_iff.1 hk).1
    have hname := List.getElem?_eq_getElem hlt
    have hvalue := List.getElem?_eq_getElem (h ▸ hlt : k < values.length)
    exact ⟨_, _, hname, hvalue,
      Option.some_inj.1 (hk.symm.trans (getElem?_resultFields hname hvalue))⟩
  obtain ⟨name, v, hname, hv, rfl⟩ := hcolumn hi
  obtain ⟨name', w, hname', hw, hfield⟩ := hcolumn hj
  have htype : v.type = w.type := congrArg Field.type hfield
  have hshown : shownName names i name = shownName names j name' := congrArg Field.name hfield
  simp only [shownName] at hshown
  split at hshown <;> rename_i hmem <;> split at hshown <;> rename_i hmem'
  · exact absurd (positioned_injective hshown).2 hij.ne
  · subst hshown
    exact .inl ⟨⟨name, hmem, hname, hname', hmem'⟩, v, w, hv, hw, htype⟩
  · subst hshown
    exact .inr ⟨⟨name', hmem', hname', hname, hmem⟩, w, v, hw, hv, htype.symm⟩
  · -- a name that is repeated later is not kept there
    have hbefore : name ∈ names.take j :=
      List.mem_iff_getElem?.2 ⟨i, by rw [List.getElem?_take_of_lt hij, hname]⟩
    exact absurd (hshown ▸ hbefore) hmem'

/-- **The fields of a result are distinct exactly when no columns clash.** -/
theorem nodup_resultFields_iff (h : values.length = names.length) :
    (resultFields names values).Nodup ↔ ∀ i j, ¬Clash names values i j := by
  constructor
  · intro hnodup i j hclash
    obtain ⟨f, hi, hj⟩ := hclash.exists_field
    have hlt := (List.getElem?_eq_some_iff.1 hi).1
    exact hclash.ne ((List.getElem?_inj hlt hnodup).1 (hi.trans hj.symm))
  · intro hnone
    rw [List.nodup_iff_getElem?_ne_getElem?]
    intro i j hij hlt hsame
    have hj := List.getElem?_eq_getElem hlt
    obtain hclash | hclash := clash_of_field h hij (hsame.trans hj) hj
    · exact hnone _ _ hclash
    · exact hnone _ _ hclash

/-- **A result keeps its columns exactly when none of them clash.**  Then its row has an entry for
each column, with the value of the column.  Otherwise the row is shorter, as columns that clash have
the same field. -/
theorem result_keeps_columns_iff (h : values.length = names.length) :
    let fields := resultFields names values
    let row := resultRow fields values
    (fields.Nodup ↔ ∀ i j, ¬Clash names values i j) ∧
      (row.size = names.length ↔ fields.Nodup) ∧
      (fields.Nodup → row.entries = fields.zip values ∧
        ∀ (i : Nat) (f : Field) (v : Value), fields[i]? = some f → values[i]? = some v →
          row.get? f = some v) ∧
      ∀ i j, Clash names values i j → ∃ f, fields[i]? = some f ∧ fields[j]? = some f := by
  intro fields row
  have hlength : fields.length = names.length := length_resultFields h
  have hfields : row.fields = fields.eraseDups := fields_resultRow (hlength.trans h.symm).le
  refine ⟨nodup_resultFields_iff h, ?_, fun hnodup ↦ ?_, fun i j ↦ Clash.exists_field⟩
  · rw [Row.size, ← List.length_map Prod.fst, ← Row.fields, hfields, ← hlength,
      length_eraseDups_eq_iff]
  · have hentries : row.entries = fields.zip values :=
      entries_resultRow (types_resultFields h) hnodup
    refine ⟨hentries, fun i f v hf hv ↦ Row.get?_of_mem ?_⟩
    rw [hentries, List.mem_iff_getElem?]
    exact ⟨i, List.getElem?_zip_eq_some.2 ⟨hf, hv⟩⟩

/-- The names of three columns, of which the second one is repeated and shown as the third one. -/
def clashingNames : List String :=
  ["a", "a", "a:1"]

/-- With a text in the second column the types keep it apart from the third one. -/
theorem result_keeps_columns_of_mixed :
    let values := [Value.integer .int8 (.wrap .int8 1), .utf8 "x", .integer .int8 (.wrap .int8 3)]
    let fields := resultFields clashingNames values
    values.length = clashingNames.length ∧ (∀ i j, ¬Clash clashingNames values i j) ∧
      (resultRow fields values).size = 3 ∧
      (resultRow fields values).get? (.unscoped .shared .utf8 "a:1") = some (.utf8 "x") := by
  intro values fields
  have hlength : values.length = clashingNames.length := rfl
  obtain ⟨hclash, hsize, hkept, -⟩ := result_keeps_columns_iff hlength
  have hnodup : fields.Nodup := by decide +kernel
  exact ⟨hlength, hclash.1 hnodup, hsize.2 hnodup, (hkept hnodup).2 1 _ _ rfl rfl⟩

/-- With integers in all columns the value of the third column replaces that of the second one. -/
theorem result_loses_column :
    let value := fun n ↦ Value.integer .int8 (.wrap .int8 n)
    let values := [value 1, value 2, value 3]
    let fields := resultFields clashingNames values
    let row := resultRow fields values
    ¬fields.Nodup ∧ row.size = 2 ∧
      ∃ f, fields[1]? = some f ∧ values[1]? = some (value 2) ∧ row.get? f = some (value 3) := by
  decide +kernel

end VirtualTables
