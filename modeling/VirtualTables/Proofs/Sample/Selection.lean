import VirtualTables.Proofs.Sample.Scan
import VirtualTables.Proofs.Value.Coercion

/-!
# Scans that select by a column

A listing that is asked for some of its rows may leave out what the engine would have left out
anyway, but nothing else: the engine tests every row again, and cannot bring one back.  The sample
listings select by the value of one column (`Listing.SelectsBy`), so what a scan produces can be
read off the values of this column (`SelectsBy.values_scan`).

Three of them select by a number, the *key* of a row, and observe the equalities on it.
`scan_by_key` says what this means for any list of constraints, repeated, contradictory or of no
interest to the table: a scan produces exactly those rows of the whole listing whose key is the
number of every such equality, in the same order, and each with the cells that were requested.
-/

namespace VirtualTables

/-- The key of a row is the number that a value holds; a missing value is no number. -/
def Row.KeyIs (row : Row) (key : Field) (v : Value) : Prop :=
  ∃ (kind : IntKind) (k : Ranged kind) (n : Ranged .int8),
    row.get? key = some (.integer kind k) ∧ v = .integer .int8 n ∧ k.val = n.val

namespace Sample
namespace Listing

variable {l : Listing}

/-! ## Cells of a row -/

/-- A cell is left out of a row if its column is optional and was not requested. -/
theorem get?_row (l : Listing) (ctx : QueryContext Place) (number : Nat) (field : Field) :
    (l.row ctx number).get? field =
      if field ∉ l.optional ∨ field ∈ ctx.requested then
        lastSet (l.rows[number]?.getD []) field
      else none := by
  rw [row, Row.get?_ofList,
    lastSet_filter _ fun field ↦ field ∉ l.optional || ctx.isRequested field]
  simp [QueryContext.isRequested]

/-- A column that every row has, but only on demand. -/
def OnDemand (l : Listing) (field : Field) : Prop :=
  field ∈ l.optional ∧ ∀ cells ∈ l.rows, (lastSet cells field).isSome

/-- An optional cell is there exactly if it was requested. -/
theorem OnDemand.contains_row {field : Field} (h : l.OnDemand field) (ctx : QueryContext Place)
    {number : Nat} (hnumber : number < l.rows.length) :
    (l.row ctx number).contains field = true ↔ field ∈ ctx.requested := by
  obtain ⟨hoptional, hset⟩ := h
  have hcells := hset _ (List.getElem_mem hnumber)
  rw [Row.contains, get?_row, List.getElem?_eq_getElem hnumber, Option.getD_some]
  by_cases hrequested : field ∈ ctx.requested
  · simp [hrequested, hcells]
  · simp [hrequested, hoptional]

/-! ## Selection by a column -/

theorem mem_scan_iff {m : Usage} {ctx : QueryContext Place} {r : Row} :
    r ∈ l.table.scan m ctx ↔
      ∃ number < l.rows.length, l.selects ctx.constraints number = true ∧
        l.row ctx number = r := by
  simp [scan_eq, selected, and_assoc]

/-- A listing selects its rows by the values of one column, which every row has: `keys` are what
stands in this column, from the first row to the last. -/
structure SelectsBy {κ : Type} (l : Listing) (field : Field) (value : κ → Value) (keys : List κ)
    (meets : κ → List Constraint → Bool) : Prop where
  cells : l.rows.map (lastSet · field) = keys.map (some ∘ value)
  always : field ∉ l.optional
  selects : ∀ constraints number,
    l.selects constraints number = (keys[number]?).any (meets · constraints)

/-- Selecting from a list by number is selecting by what stands at the number. -/
theorem map_filter_range {κ β : Type} (keys : List κ) (p : κ → Bool) (f : κ → β) :
    ((List.range keys.length).filter fun n ↦ keys[n]?.any p).map (fun n ↦ keys[n]?.map f) =
      (keys.filter p).map (some ∘ f) := by
  induction keys with
  | nil => rfl
  | cons k keys ih =>
    rw [List.length_cons, List.range_succ_eq_map, List.filter_cons, List.filter_map,
      List.filter_cons]
    cases hp : p k <;> simpa [hp, Function.comp_def] using ih

namespace SelectsBy

variable {κ : Type} {field : Field} {value : κ → Value} {keys : List κ}
  {meets : κ → List Constraint → Bool}

theorem length_rows (h : l.SelectsBy field value keys meets) : l.rows.length = keys.length := by
  simpa using congrArg List.length h.cells

/-- What stands in the column is in every row, whatever was requested. -/
theorem get?_row (h : l.SelectsBy field value keys meets) (ctx : QueryContext Place)
    (number : Nat) : (l.row ctx number).get? field = (keys[number]?).map value := by
  have hcell := congrArg (·[number]?) h.cells
  simp only [List.getElem?_map] at hcell
  rw [Listing.get?_row, if_pos (.inl h.always)]
  cases hrow : l.rows[number]? with
  | none =>
    rw [hrow] at hcell
    cases hkey : keys[number]? with
    | none => rfl
    | some k => simp [hkey] at hcell
  | some cells =>
    rw [hrow] at hcell
    cases hkey : keys[number]? with
    | none => simp [hkey] at hcell
    | some k => simpa [hkey] using hcell

/-- **The values of the column in a scan** are those that meet the constraints, in their order. -/
theorem values_scan (h : l.SelectsBy field value keys meets) (m : Usage)
    (ctx : QueryContext Place) :
    (l.table.scan m ctx).map (·.get? field) =
      (keys.filter (meets · ctx.constraints)).map (some ∘ value) := by
  have hselects : l.selects ctx.constraints =
      fun number ↦ (keys[number]?).any (meets · ctx.constraints) := funext (h.selects _)
  rw [← map_filter_range, scan_eq, selected, List.map_map, h.length_rows, hselects]
  simp only [Function.comp_def, h.get?_row]

end SelectsBy

/-! ## Selection by a key -/

/-- A listing selects its rows by a number, and no two rows have the same one. -/
structure KeyedBy (l : Listing) (key : Field) (kind : IntKind) (keys : List Int) : Prop extends
    l.SelectsBy key (fun k ↦ .integer kind (.wrap kind k)) keys (keyMatches key) where
  holds : ∀ k ∈ keys, kind.Holds k
  nodup : keys.Nodup

end Listing

/-- Equalities on the key are met by the number that all of them name, if their values are numbers
or missing. -/
theorem keyMatches_iff {key : Field} {k : Int} {constraints : List Constraint}
    (hvalues : ∀ c ∈ constraints, c.field = key →
      c.value = .undefined ∨ ∃ n, c.value = .integer .int8 n) :
    keyMatches key k constraints = true ↔ ∀ c ∈ constraints, c.isOn key .eq = true →
      ∃ n : Ranged .int8, c.value = .integer .int8 n ∧ k = n.val := by
  rw [keyMatches, List.all_eq_true]
  simp only [List.mem_filter, and_imp, decide_eq_true_eq]
  refine forall₃_congr fun c hc hon ↦ ?_
  have hfield : c.field = key := by
    simp only [Constraint.isOn, Bool.and_eq_true, decide_eq_true_eq] at hon
    exact hon.1
  rcases hvalues c hc hfield with hvalue | ⟨n, hvalue⟩
  · simp [hvalue, Value.asSigned?]
  · simp [hvalue, Value.asSigned?, Ranged.wrap_val_of_holds n.holds, eq_comm]

/-- It does not matter in which order constraints come, and how often. -/
theorem keyMatches_congr {key : Field} {constraints constraints' : List Constraint}
    (h : ∀ c, c ∈ constraints' ↔ c ∈ constraints) (k : Int) :
    keyMatches key k constraints' = keyMatches key k constraints := by
  rw [Bool.eq_iff_iff, keyMatches, keyMatches, List.all_eq_true, List.all_eq_true]
  simp only [List.mem_filter, h]

namespace Listing.KeyedBy

variable {l : Listing} {key : Field} {kind : IntKind} {keys : List Int}

/-- The key of a row is the number that stands in its place. -/
theorem keyIs_row_iff (h : l.KeyedBy key kind keys) {ctx : QueryContext Place} {number : Nat}
    {k : Int} (hkey : keys[number]? = some k) (v : Value) :
    (l.row ctx number).KeyIs key v ↔ ∃ n : Ranged .int8, v = .integer .int8 n ∧ k = n.val := by
  have hrow : (l.row ctx number).get? key = some (.integer kind (.wrap kind k)) := by
    rw [h.get?_row, hkey, Option.map_some]
  have hwrap : (Ranged.wrap kind k).val = k :=
    Ranged.wrap_val_of_holds (h.holds k (List.mem_of_getElem? hkey))
  constructor
  · rintro ⟨kind', k', n, hget, rfl, hval⟩
    rw [hrow, Option.some_inj] at hget
    cases hget
    exact ⟨n, rfl, hwrap.symm.trans hval⟩
  · rintro ⟨n, rfl, rfl⟩
    exact ⟨kind, .wrap kind n.val, n, hrow, rfl, hwrap⟩

theorem exists_key (h : l.KeyedBy key kind keys) {number : Nat} (hnumber : number < l.rows.length) :
    ∃ k, keys[number]? = some k := by
  rw [h.length_rows] at hnumber
  exact ⟨keys[number], List.getElem?_eq_getElem hnumber⟩

/-- Whether a row is selected can be read off the row. -/
theorem selects_iff (h : l.KeyedBy key kind keys) {constraints : List Constraint}
    (hvalues : ∀ c ∈ constraints, c.field = key →
      c.value = .undefined ∨ ∃ n, c.value = .integer .int8 n)
    (ctx : QueryContext Place) {number : Nat} (hnumber : number < l.rows.length) :
    l.selects constraints number = true ↔
      ∀ c ∈ constraints, c.isOn key .eq = true → (l.row ctx number).KeyIs key c.value := by
  obtain ⟨k, hkey⟩ := h.exists_key hnumber
  rw [h.selects, hkey, Option.any_some, keyMatches_iff hvalues]
  exact forall₃_congr fun c _ _ ↦ (h.keyIs_row_iff hkey c.value).symm

/-- Without constraints, every row is selected. -/
theorem selects_nil (h : l.KeyedBy key kind keys) {number : Nat}
    (hnumber : number < l.rows.length) : l.selects [] number = true := by
  obtain ⟨k, hkey⟩ := h.exists_key hnumber
  rw [h.selects, hkey]
  rfl

/-- Without constraints, the whole listing is produced. -/
theorem keys_scan_nil (h : l.KeyedBy key kind keys) (m : Usage) (requested : FieldSet) :
    (l.table.scan m (.new [] requested)).map (·.get? key) = l.rows.map (lastSet · key) := by
  rw [h.cells, h.values_scan]
  congr 1
  exact List.filter_eq_self.2 fun k _ ↦ rfl

/-- What a row looks like depends on what was requested, but not on the constraints. -/
theorem scan_sublist (h : l.KeyedBy key kind keys) (constraints : List Constraint)
    (requested : FieldSet) (m m' : Usage) :
    (l.table.scan m (.new constraints requested)).Sublist
      (l.table.scan m' (.new [] requested)) := by
  have hrow : l.row (.new constraints requested) = l.row (.new [] requested) := rfl
  have hall : l.selected [] = List.range l.rows.length :=
    List.filter_eq_self.2 fun number hnumber ↦ h.selects_nil (List.mem_range.1 hnumber)
  have hselected : (l.selected constraints).Sublist (l.selected []) := by
    rw [hall]
    exact List.filter_sublist
  rw [scan_eq, scan_eq, hrow]
  exact hselected.map _

/-- The rows of a scan are the rows of the whole listing that have the key of every equality. -/
theorem mem_scan_iff_keyIs (h : l.KeyedBy key kind keys) {constraints : List Constraint}
    (hvalues : ∀ c ∈ constraints, c.field = key →
      c.value = .undefined ∨ ∃ n, c.value = .integer .int8 n)
    (requested : FieldSet) (m m' : Usage) (r : Row) :
    r ∈ l.table.scan m (.new constraints requested) ↔
      r ∈ l.table.scan m' (.new [] requested) ∧
        ∀ c ∈ constraints, c.isOn key .eq = true → r.KeyIs key c.value := by
  rw [mem_scan_iff, mem_scan_iff]
  constructor
  · rintro ⟨number, hnumber, hselects, rfl⟩
    exact ⟨⟨number, hnumber, h.selects_nil hnumber, rfl⟩,
      (h.selects_iff hvalues _ hnumber).1 hselects⟩
  · rintro ⟨⟨number, hnumber, -, rfl⟩, hmeets⟩
    exact ⟨number, hnumber, (h.selects_iff hvalues _ hnumber).2 hmeets, rfl⟩

/-- Constraints in another order, or some of them again, start the same scan. -/
theorem scan_congr (h : l.KeyedBy key kind keys) {constraints constraints' : List Constraint}
    (hsame : ∀ c, c ∈ constraints' ↔ c ∈ constraints) (requested : FieldSet) (m m' : Usage) :
    l.table.scan m' (.new constraints' requested) =
      l.table.scan m (.new constraints requested) := by
  have hselects : l.selects constraints' = l.selects constraints := by
    funext number
    rw [h.selects, h.selects]
    simp only [keyMatches_congr hsame]
  rw [scan_eq, scan_eq]
  show (l.selected constraints').map _ = (l.selected constraints).map _
  rw [selected, selected, hselects]
  rfl

/-- A row occurs in a scan at most once, since its key does. -/
theorem nodup_scan (h : l.KeyedBy key kind keys) (m : Usage) (ctx : QueryContext Place) :
    (l.table.scan m ctx).Nodup := by
  refine List.Nodup.of_map (·.get? key) ?_
  rw [h.values_scan]
  refine (h.nodup.filter _).map_on fun k hk k' hk' heq ↦ ?_
  -- the number can be read off the value
  simp only [Function.comp_apply, Option.some.injEq, Value.integer.injEq, heq_eq_eq, true_and]
    at heq
  rw [← Ranged.wrap_val_of_holds (h.holds k (List.mem_of_mem_filter hk)), heq,
    Ranged.wrap_val_of_holds (h.holds k' (List.mem_of_mem_filter hk'))]

end Listing.KeyedBy

/-! ## The sample listings with a key -/

theorem Mixed.keyedBy :
    Mixed.listing.KeyedBy Mixed.u32val .uint4 (Mixed.records.map fun (_, key, _) ↦ key) where
  cells := rfl
  always := by decide
  selects constraints number := by
    rw [List.getElem?_map, Option.any_map]
    rfl
  holds := by decide
  nodup := by decide

theorem Users.keyedBy :
    Users.listing.KeyedBy Users.userid .uint4 (Users.records.map fun (key, _) ↦ key) where
  cells := rfl
  always := by decide
  selects constraints number := by
    rw [List.getElem?_map, Option.any_map]
    rfl
  holds := by decide
  nodup := by decide

theorem Processes.keyedBy :
    Processes.listing.KeyedBy Processes.pid .int4 (Processes.records.map fun (key, _) ↦ key) where
  cells := rfl
  always := by decide
  selects constraints number := by
    rw [List.getElem?_map, Option.any_map]
    rfl
  holds := by decide
  nodup := by decide

/-- The listings with a key, each with the column of the key and the columns on demand. -/
def keyedListings : List (Listing × Field × List Field) :=
  [(Mixed.listing, Mixed.u32val, [Mixed.longo]), (Users.listing, Users.userid, [Users.home]),
    (Processes.listing, Processes.pid, [])]

theorem keyedBy_of_mem {l : Listing} {key : Field} {onDemand : List Field}
    (h : (l, key, onDemand) ∈ keyedListings) : ∃ kind keys, l.KeyedBy key kind keys := by
  simp only [keyedListings, List.mem_cons, Prod.mk.injEq, List.not_mem_nil, or_false] at h
  rcases h with ⟨rfl, rfl, -⟩ | ⟨rfl, rfl, -⟩ | ⟨rfl, rfl, -⟩
  · exact ⟨_, _, Mixed.keyedBy⟩
  · exact ⟨_, _, Users.keyedBy⟩
  · exact ⟨_, _, Processes.keyedBy⟩

theorem onDemand_of_mem {l : Listing} {key : Field} {onDemand : List Field}
    (h : (l, key, onDemand) ∈ keyedListings) : ∀ field ∈ onDemand, l.OnDemand field := by
  simp only [keyedListings, List.mem_cons, Prod.mk.injEq, List.not_mem_nil, or_false] at h
  rcases h with ⟨rfl, -, rfl⟩ | ⟨rfl, -, rfl⟩ | ⟨rfl, -, rfl⟩
  · intro field hfield
    obtain rfl := List.mem_singleton.1 hfield
    exact ⟨by decide, by decide⟩
  · intro field hfield
    obtain rfl := List.mem_singleton.1 hfield
    exact ⟨by decide, by decide⟩
  · intro field hfield
    cases hfield

/-- **A scan by key loses nothing.**  Take any list of constraints, on whatever columns and with
whatever operators, in which the values for the key are numbers or missing.  The whole listing
without constraints is produced row by row, and of these rows a scan produces, in the same order and
each once, exactly those whose key is the number of every equality on the key.  It does not matter
in which order the constraints come and how often; a column on demand is in the rows exactly if it
was requested; and a scan that has come to its end stays there. -/
theorem scan_by_key {l : Listing} {key : Field} {onDemand : List Field}
    (hkeyed : (l, key, onDemand) ∈ keyedListings) {constraints : List Constraint}
    (hvalues : ∀ c ∈ constraints, c.field = key →
      c.value = .undefined ∨ ∃ n, c.value = .integer .int8 n)
    (requested : FieldSet) (m m' : Usage) :
    let rows := l.table.scan m (.new constraints requested)
    let whole := l.table.scan m' (.new [] requested)
    whole.map (·.get? key) = l.rows.map (lastSet · key) ∧ rows.Sublist whole ∧ rows.Nodup ∧
      (∀ row, row ∈ rows ↔
        row ∈ whole ∧ ∀ c ∈ constraints, c.isOn key .eq = true → row.KeyIs key c.value) ∧
      (∀ constraints' m'', (∀ c, c ∈ constraints' ↔ c ∈ constraints) →
        l.table.scan m'' (.new constraints' requested) = rows) ∧
      (∀ row ∈ rows, ∀ field ∈ onDemand, row.contains field = true ↔ field ∈ requested) ∧
      ∀ m ctx i j, i ≤ j → (l.virtualTable.nextAfter m ctx i).produced = false →
        (l.virtualTable.nextAfter m ctx j).produced = false := by
  intro rows whole
  obtain ⟨kind, keys, hkeyedBy⟩ := keyedBy_of_mem hkeyed
  refine ⟨hkeyedBy.keys_scan_nil m' requested, hkeyedBy.scan_sublist constraints requested m m',
    hkeyedBy.nodup_scan _ _, hkeyedBy.mem_scan_iff_keyIs hvalues requested m m',
    fun constraints' m'' hsame ↦ hkeyedBy.scan_congr hsame requested m m'',
    fun row hmem field hfield ↦ ?_, fun m ctx i j hij hend ↦ ?_⟩
  · obtain ⟨number, hnumber, -, rfl⟩ := Listing.mem_scan_iff.1 hmem
    exact (onDemand_of_mem hkeyed field hfield).contains_row _ hnumber
  · exact l.unrolls.exhausted l.forgetful_virtualTable hij hend

namespace Users

/-- An equality on the key, one on a column without an index, and a pattern that is missing. -/
def bobConstraints : List Constraint :=
  [⟨userid, .eq, .integer .int8 (.wrap .int8 501)⟩, ⟨username, .eq, .utf8 "nobody"⟩,
    ⟨userid, .like, .undefined⟩]

/-- The user of the key is not lost, although nobody has the name, and has a home if it was
requested.  Nothing changes if all constraints come twice. -/
theorem scan_by_key_of_bob :
    (listing, userid, [home]) ∈ keyedListings ∧
      (∀ c ∈ bobConstraints, c.field = userid →
        c.value = .undefined ∨ ∃ n, c.value = .integer .int8 n) ∧
      ∀ requested,
        (∃ row ∈ listing.table.scan .counting (.new bobConstraints requested),
          row.get? userid = some (.integer .uint4 (.wrap .uint4 501)) ∧
            (row.contains home = true ↔ home ∈ requested)) ∧
        listing.table.scan .counting (.new (bobConstraints.reverse ++ bobConstraints) requested) =
          listing.table.scan .counting (.new bobConstraints requested) := by
  have hkeyed : (listing, userid, [home]) ∈ keyedListings := .tail _ (.head _)
  have hvalues : ∀ c ∈ bobConstraints, c.field = userid →
      c.value = .undefined ∨ ∃ n, c.value = .integer .int8 n := by
    intro c hc hfield
    simp only [bobConstraints, List.mem_cons, List.not_mem_nil, or_false] at hc
    rcases hc with rfl | rfl | rfl
    · exact .inr ⟨_, rfl⟩
    · exact absurd hfield (by decide)
    · exact .inl rfl
  refine ⟨hkeyed, hvalues, fun requested ↦ ?_⟩
  obtain ⟨-, -, -, hmem, hsame, honDemand, -⟩ :=
    scan_by_key hkeyed hvalues requested .counting .counting
  have hkey : (listing.row (.new [] requested) 1).get? userid =
      some (.integer .uint4 (.wrap .uint4 501)) := keyedBy.get?_row _ 1
  have hbob := (hmem (listing.row (.new [] requested) 1)).2 ⟨?_, ?_⟩
  · exact ⟨⟨_, hbob, hkey, honDemand _ hbob home (.head _)⟩, hsame _ _ fun c ↦ by simp⟩
  · exact Listing.mem_scan_iff.2 ⟨1, by decide, rfl, rfl⟩
  · intro c hc hon
    simp only [bobConstraints, List.mem_cons, List.not_mem_nil, or_false] at hc
    rcases hc with rfl | rfl | rfl
    · exact ⟨.uint4, .wrap .uint4 501, .wrap .int8 501, hkey, rfl, rfl⟩
    · exact absurd hon (by decide)
    · exact absurd hon (by decide)

end Users
end Sample
end VirtualTables
