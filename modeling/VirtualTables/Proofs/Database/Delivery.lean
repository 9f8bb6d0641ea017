import VirtualTables.Proofs.Database.Notices
import VirtualTables.Proofs.Row
import VirtualTables.Proofs.Value.Coercion
import VirtualTables.Sample.Databases

/-!
# The rows of a query

A query does not know the types of its columns; it takes them from the first row.  Nothing is lost
in that row then, as every value has the type of its own field, while the values of later rows are
coerced and may become missing.  So all rows have the same fields, and each value has the type of
its field or is missing: `fields_resultRow`, `entries_resultRow` and
`type_of_mem_entries_resultRow` say this of a single row, for any fields.

`Database.delivery_of_rows` puts it together with what a listener is told.
-/

namespace VirtualTables

variable {τ σ ω : Type}

/-! ## A row of a result -/

theorem types_resultFieldsFrom (index : Nat) (seen : List String) {names : List String}
    {values : List Value} (h : values.length = names.length) :
    (resultFieldsFrom index seen names values).map Field.type = values.map Value.type := by
  induction names generalizing index seen values with
  | nil =>
    rw [List.length_nil, List.length_eq_zero_iff] at h
    subst h
    rfl
  | cons name names ih =>
    obtain ⟨value, values, rfl⟩ := List.exists_cons_of_length_eq_add_one h
    rw [resultFieldsFrom, List.map_cons, List.map_cons, ih (index + 1) _ (Nat.succ.inj h)]
    rfl

/-- The fields of a result have the types of the first row. -/
theorem types_resultFields {names : List String} {first : List Value}
    (h : first.length = names.length) :
    (resultFields names first).map Field.type = first.map Value.type :=
  types_resultFieldsFrom 0 [] h

section

variable {fields : List Field} {values : List Value}

theorem resultRow_eq (fields : List Field) (values : List Value) :
    resultRow fields values =
      .ofList ((fields.zip values).map fun p ↦ (p.1, p.2.coerce p.1.type)) := by
  rw [List.map_zip_eq_zipWith]
  rfl

/-- A row that has a value for each field has these fields. -/
theorem fields_resultRow (h : fields.length ≤ values.length) :
    (resultRow fields values).fields = fields.eraseDups := by
  rw [resultRow_eq, Row.fields_ofList, List.map_map]
  exact congrArg List.eraseDups (List.map_fst_zip h)

/-- In a row, every value has the type of its field or is missing. -/
theorem type_of_mem_entries_resultRow (hfields : ∀ f ∈ fields, f.type ≠ .any)
    {cell : Field × Value} (h : cell ∈ (resultRow fields values).entries) :
    cell.2.type = cell.1.type ∨ cell.2 = .undefined := by
  rw [resultRow_eq] at h
  obtain ⟨⟨f, v⟩, hmem, rfl⟩ := List.mem_map.1 (Row.mem_of_mem_entries_ofList h)
  exact Value.type_coerce v (hfields f (List.of_mem_zip hmem).1)

/-- A row whose values have the types of the fields keeps them all. -/
theorem entries_resultRow (htypes : fields.map Field.type = values.map Value.type)
    (hnodup : fields.Nodup) : (resultRow fields values).entries = fields.zip values := by
  have hlength : fields.length ≤ values.length := by
    rw [← List.length_map Field.type, htypes, List.length_map]
  have hsame : ∀ p ∈ fields.zip values, (p.1, p.2.coerce p.1.type) = p := by
    rintro ⟨f, v⟩ hmem
    have htype : f.type = v.type := by
      have hpairs : List.Forall₂ (fun f v ↦ Field.type f = Value.type v) fields values := by
        rw [← List.forall₂_map_right_iff, ← List.forall₂_map_left_iff, htypes]
        exact List.forall₂_refl _
      exact List.forall₂_zip hpairs hmem
    rw [htype, Value.coerce_type]
  rw [resultRow_eq, List.map_congr_left hsame, List.map_id', Row.entries_ofList_of_nodup]
  rwa [List.map_fst_zip hlength]

end

/-! ## All rows -/

/-- What the rows of a result are, if each row of the statement has a value for each column: all of
them have the fields that the first row fixes, and no value has another type than its field. -/
theorem resultRows_typed {columns : List String} {first : List EngineValue}
    {rest : List (List EngineValue)}
    (hwidth : ∀ values ∈ first :: rest, values.length = columns.length) :
    let values := first.map (·.toValue)
    let fields := resultFields columns values
    let results := Database.resultRows columns (first :: rest)
    fields.map Field.type = values.map Value.type ∧
      (fields.Nodup → results.head?.map (·.entries) = some (fields.zip values)) ∧
      ∀ row ∈ results, row.fields = fields.eraseDups ∧
        ∀ cell ∈ row.entries, cell.2.type = cell.1.type ∨ cell.2 = .undefined := by
  intro values fields results
  have hfirst : values.length = columns.length := by
    rw [List.length_map, hwidth first List.mem_cons_self]
  have htypes : fields.map Field.type = values.map Value.type := types_resultFields hfirst
  have hlength : fields.length = columns.length := by
    rw [← List.length_map Field.type, htypes, List.length_map, hfirst]
  have hconcrete : ∀ f ∈ fields, f.type ≠ .any := by
    intro f hf
    obtain ⟨v, -, hv⟩ := List.mem_map.1 (htypes ▸ List.mem_map_of_mem hf)
    rw [← hv]
    exact v.type_ne_any
  refine ⟨htypes, fun hnodup ↦ congrArg some (entries_resultRow htypes hnodup), ?_⟩
  intro row hrow
  obtain ⟨given, hgiven, rfl⟩ := List.mem_map.1 hrow
  refine ⟨fields_resultRow ?_, fun cell ↦ type_of_mem_entries_resultRow hconcrete⟩
  rw [List.length_map, hwidth given hgiven]
  exact hlength.le

namespace Database

/-- How a listener is told of rows: it is handed them in their order up to and including the first
one that it answers with `abort`, or else all of them and then the message of a failure, if there is
one. -/
theorem notices_of_rows (sql : String) (l : Listener (Database τ σ × ω))
    {prepare : Database τ σ → Except String (Prepared (Database τ σ)) × Database τ σ}
    {statement : Prepared (Database τ σ)} {db : Database τ σ} {w : Database τ σ × ω}
    (hprepare : prepare w.1.clearLog = (.ok statement, db)) :
    ∃ rows ending, (started statement db).1.MayGive rows ending ∧
      let results := resultRows statement.columns rows
      let told := notices sql prepare l w
      let result := (query sql prepare l w).1
      ((∃ before last rest, results = before ++ last :: rest ∧
          told = before.map .accepted ++ [.row last .abort] ∧ result = .ok ()) ∨
        (ending = none ∧ told = results.map .accepted ∧ result = .ok ()) ∨
        ∃ message d, ending = some message ∧
          told = results.map .accepted ++ [.failure message] ∧
          result = .error d ∧ d.code = "QUERY_001") := by
  obtain ⟨rows, ending, failure, seen, hrows, hseen, hresult, hsame⟩ :=
    query_of_ok sql l hprepare
  have htold : notices sql prepare l w = seen ++ failure.toList.map .failure := by
    rw [notices, hsame [], List.nil_append]
  refine ⟨rows, ending, hrows, ?_⟩
  rw [htold, hresult]
  cases hseen with
  | aborted before last rest hresults =>
    exact .inl ⟨before, last, rest, hresults, List.append_nil _, rfl⟩
  | all =>
    cases ending with
    | none => exact .inr (.inl ⟨rfl, List.append_nil _, rfl⟩)
    | some message => exact .inr (.inr ⟨message, _, rfl, rfl, rfl, rfl⟩)

/-- **What a query delivers.**  The listener is handed the rows of the statement in their order, up
to and including the first one that it answers with `abort`; the query succeeds if there is one or
if the statement ends without a failure, and otherwise the listener is told the message of the
failure after all rows.  The first row fixes the fields of all rows, and it is delivered unchanged
if they are distinct; in all rows each value has the type of its field or is missing.

For a statement that has its rows in advance they are these rows (`delivery_of_given_rows`). -/
theorem delivery_of_rows (sql : String) (l : Listener (Database τ σ × ω))
    {prepare : Database τ σ → Except String (Prepared (Database τ σ)) × Database τ σ}
    {statement : Prepared (Database τ σ)} {db : Database τ σ} {w : Database τ σ × ω}
    (hprepare : prepare w.1.clearLog = (.ok statement, db))
    (hwidth : ∀ rows ending, (started statement db).1.MayGive rows ending →
      ∀ values ∈ rows, values.length = statement.columns.length) :
    ∃ rows ending, (started statement db).1.MayGive rows ending ∧
      let results := resultRows statement.columns rows
      let told := notices sql prepare l w
      let result := (query sql prepare l w).1
      ((∃ before last rest, results = before ++ last :: rest ∧
            told = before.map .accepted ++ [.row last .abort] ∧ result = .ok ()) ∨
          (ending = none ∧ told = results.map .accepted ∧ result = .ok ()) ∨
          ∃ message d, ending = some message ∧
            told = results.map .accepted ++ [.failure message] ∧
            result = .error d ∧ d.code = "QUERY_001") ∧
        ∀ first ∈ rows.head?,
          let values := first.map (·.toValue)
          let fields := resultFields statement.columns values
          fields.map Field.type = values.map Value.type ∧
            (fields.Nodup → results.head?.map (·.entries) = some (fields.zip values)) ∧
            ∀ row ∈ results, row.fields = fields.eraseDups ∧
              ∀ cell ∈ row.entries, cell.2.type = cell.1.type ∨ cell.2 = .undefined := by
  obtain ⟨rows, ending, hrows, htold⟩ := notices_of_rows sql l hprepare
  refine ⟨rows, ending, hrows, htold, fun first hfirst ↦ ?_⟩
  obtain ⟨rest, rfl⟩ : ∃ rest, rows = first :: rest := ⟨_, List.eq_cons_of_mem_head? hfirst⟩
  exact resultRows_typed (hwidth _ _ hrows)

/-- **What a query delivers of given rows**, with a failure after them or none: the listener is
handed these rows. -/
theorem delivery_of_given_rows (sql : String) (l : Listener (Database τ σ × ω))
    {prepare : Database τ σ → Except String (Prepared (Database τ σ)) × Database τ σ}
    {columns : List String} {rows : List (List EngineValue)} {ending : Ending}
    {db : Database τ σ} {w : Database τ σ × ω}
    (hprepare : prepare w.1.clearLog = (.ok (.ofRows columns rows ending), db))
    (hwidth : ∀ values ∈ rows, values.length = columns.length) :
    let results := resultRows columns rows
    let told := notices sql prepare l w
    let result := (query sql prepare l w).1
    ((∃ before last rest, results = before ++ last :: rest ∧
          told = before.map .accepted ++ [.row last .abort] ∧ result = .ok ()) ∨
        (ending = none ∧ told = results.map .accepted ∧ result = .ok ()) ∨
        ∃ message d, ending = some message ∧
          told = results.map .accepted ++ [.failure message] ∧
          result = .error d ∧ d.code = "QUERY_001") ∧
      ∀ first ∈ rows.head?,
        let values := first.map (·.toValue)
        let fields := resultFields columns values
        fields.map Field.type = values.map Value.type ∧
          (fields.Nodup → results.head?.map (·.entries) = some (fields.zip values)) ∧
          ∀ row ∈ results, row.fields = fields.eraseDups ∧
            ∀ cell ∈ row.entries, cell.2.type = cell.1.type ∨ cell.2 = .undefined := by
  obtain ⟨given, last, hgiven, htold⟩ := notices_of_rows sql l hprepare
  obtain ⟨rfl, rfl⟩ := (mayGive_ofRows db).1 hgiven
  refine ⟨htold, fun first hfirst ↦ ?_⟩
  obtain ⟨rest, rfl⟩ : ∃ rest, given = first :: rest := ⟨_, List.eq_cons_of_mem_head? hfirst⟩
  exact resultRows_typed hwidth

/-- Rows with an integer and nothing, a text that is an integer and an integer, and a text that is
none and nothing. -/
def mixedRows : List (List EngineValue) :=
  [[.integer (.wrap .int8 1), .null], [.text (Utf8.encode ['2']), .integer (.wrap .int8 7)],
    [.text (Utf8.encode ['x']), .null]]

/-- A statement with these rows that fails in the end. -/
def mixed : Prepared (Database Sample.Usage Sample.Place) :=
  .ofRows ["a", "b"] mixedRows (some "interrupted")

/-- A listener that counts rows, and aborts at the second one. -/
def secondRow : Listener (Database Sample.Usage Sample.Place × Nat) where
  onRow _ w := (if w.2 = 0 then .proceed else .abort, w.1, w.2 + 1)
  onError _ w := w

theorem delivery_of_mixed :
    let prepare := fun db ↦ (Except.ok mixed, db)
    let w := (Sample.database [], 0)
    let fields := [Field.unscoped .shared (.integer .int8) "a", .unscoped .shared .undefined "b"]
    let results := resultRows ["a", "b"] mixedRows
    prepare w.1.clearLog = (.ok mixed, w.1.clearLog) ∧
      (∀ values ∈ mixedRows, values.length = 2) ∧
      (∃ before last rest, results = before ++ last :: rest ∧
        notices "SELECT a, b FROM t" prepare secondRow w =
          before.map .accepted ++ [.row last .abort]) ∧
      results.head?.map (·.entries) =
        some (fields.zip [.integer .int8 (.wrap .int8 1), .undefined]) ∧
      ∀ row ∈ results, row.fields = fields ∧
        ∀ cell ∈ row.entries, cell.2.type = cell.1.type ∨ cell.2 = .undefined := by
  intro prepare w fields results
  have hprepare : prepare w.1.clearLog = (.ok mixed, w.1.clearLog) := rfl
  have hwidth : ∀ values ∈ mixedRows, values.length = 2 := by decide
  have hok : (query "SELECT a, b FROM t" prepare secondRow w).1 = .ok () := rfl
  obtain ⟨rows, ending, hrows, hdelivered, htyped⟩ :=
    delivery_of_rows "SELECT a, b FROM t" secondRow hprepare fun rows ending h ↦ by
      rw [((mayGive_ofRows w.1).1 h).1]
      exact hwidth
  obtain ⟨rfl, rfl⟩ := (mayGive_ofRows w.1).1 hrows
  obtain ⟨-, hfirst, hcells⟩ := htyped _ rfl
  refine ⟨hprepare, hwidth, ?_, hfirst (by decide), hcells⟩
  obtain ⟨before, last, rest, hresults, htold, -⟩ | ⟨hnone, -⟩ | ⟨message, d, -, -, herror, -⟩ :=
    hdelivered
  · exact ⟨before, last, rest, hresults, htold⟩
  · cases hnone
  · rw [hok] at herror
    cases herror

end Database

end VirtualTables
