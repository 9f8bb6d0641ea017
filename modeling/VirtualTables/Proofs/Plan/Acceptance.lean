import VirtualTables.Proofs.Plan.Pushdown
import VirtualTables.Proofs.Plan.Requested
import VirtualTables.Sample.Signatures

/-!
# Which candidates a plan accepts

Whether a candidate is accepted depends on the candidate and the definition alone, and
`TableDef.Accepts` says when.  What a plan adds is bookkeeping: a place for every accepted candidate
(`Pushdown.Answers`), and the required columns that no accepted candidate constrains
(`TableDef.Unmet`).  `plan_of_candidates` describes a plan by these three, and it does not ask for a
valid definition.
-/

namespace VirtualTables

/-- Whether a column takes constraints with an operator: it carries one of the flags that let it
take any, and the operator is one of its own, which is equality alone where it names none. -/
structure Column.Takes (column : Column) (op : ConstraintOp) : Prop where
  flagged : column.options.contains .indexed = true ∨ column.options.contains .required = true ∨
    column.options.contains .additional = true
  operator : op ∈ column.ops ∨ column.ops.toList = [] ∧ op = .eq

theorem Column.takes_iff {column : Column} {op : ConstraintOp} :
    column.Takes op ↔ column.takesConstraints = true ∧ column.accepts op = true := by
  rw [takesConstraints_iff, accepts_iff]
  exact ⟨fun h ↦ ⟨h.flagged, h.operator⟩, fun h ↦ ⟨h.1, h.2⟩⟩

namespace TableDef

variable {d : TableDef} {candidates : List Candidate}

/-! ## A single candidate -/

/-- A candidate is accepted as the constraint `planned` on the column at `position`. -/
structure Accepts (d : TableDef) (c : Candidate) (position : Nat) (planned : PlannedConstraint) :
    Prop where
  usable : c.usable = true
  operator : c.op = some planned.op
  /-- The candidate names a column of the table. -/
  declared : 0 ≤ c.column ∧ c.column < d.columns.length
  /-- That column stands for the one at `position`, which takes the constraint. -/
  column : ∃ column, d.resolve? c.column.toNat = some (position, column) ∧
    planned.field = column.field ∧ column.Takes planned.op

theorem accepts_iff {c : Candidate} {p : Nat} {planned : PlannedConstraint} :
    d.Accepts c p planned ↔ d.accept? c = some (p, planned) := by
  rw [accept?_eq_some_iff]
  constructor
  · rintro ⟨husable, hop, ⟨hnonneg, -⟩, column, hresolve, hfield, htakes⟩
    obtain ⟨hflagged, hoperator⟩ := Column.takes_iff.1 htakes
    exact ⟨husable, hnonneg, hop, column, hresolve, hflagged, hoperator, hfield⟩
  · rintro ⟨husable, hnonneg, hop, column, hresolve, hflagged, hoperator, hfield⟩
    have hlt := lt_length_of_resolve? hresolve
    exact ⟨husable, hop, ⟨hnonneg, by omega⟩, column, hresolve, hfield,
      Column.takes_iff.2 ⟨hflagged, hoperator⟩⟩

theorem accept?_eq_none_iff {c : Candidate} :
    d.accept? c = none ↔ ∀ p planned, ¬d.Accepts c p planned := by
  simp only [Option.eq_none_iff_forall_ne_some, Prod.forall, accepts_iff, ne_eq]

/-- The candidates with a place are those that are accepted. -/
theorem map_isSome_slotsAfter (taken : Nat) (candidates : List Candidate) :
    (d.slotsAfter taken candidates).map Option.isSome =
      candidates.map fun c ↦ (d.accept? c).isSome := by
  induction candidates generalizing taken with
  | nil => rfl
  | cons c rest ih =>
    rw [slotsAfter]
    split
    · rename_i hc
      rw [List.map_cons, List.map_cons, ih, hc, Option.isSome_some, Option.isSome_some]
    · rename_i hc
      rw [List.map_cons, List.map_cons, ih, hc, Option.isSome_none, Option.isSome_none]

/-! ## Required columns -/

/-- The required column at a position that no candidate is accepted for. -/
def Unmet (d : TableDef) (candidates : List Candidate) (position : Nat) : Prop :=
  ∃ column, d.columns[position]? = some column ∧ column.isAlias = false ∧
    column.isRequired = true ∧ ∀ c ∈ candidates, ∀ planned, ¬d.Accepts c position planned

/-- The names of the columns at the positions with a property, in the order of the definition. -/
def NamesWhere (d : TableDef) (property : Nat → Prop) (names : List String) : Prop :=
  ∃ positions : List Nat, positions.Pairwise (· < ·) ∧ (∀ p, p ∈ positions ↔ property p) ∧
    names.map some = positions.map fun p ↦ (d.columns[p]?).map (·.field.name)

/-- A candidate is accepted for the column at a position exactly when that is among the positions
that planning collects. -/
theorem mem_positions_iff {p : Nat} :
    p ∈ (candidates.filterMap d.accept?).map Prod.fst ↔
      ∃ c ∈ candidates, ∃ planned, d.Accepts c p planned := by
  simp only [List.mem_map, List.mem_filterMap, accepts_iff, Prod.exists, exists_and_right,
    exists_eq_right]
  exact ⟨fun ⟨planned, c, hc, h⟩ ↦ ⟨c, hc, planned, h⟩,
    fun ⟨c, hc, planned, h⟩ ↦ ⟨planned, c, hc, h⟩⟩

theorem unmet_iff {p : Nat} :
    d.Unmet candidates p ↔ ∃ column, d.columns[p]? = some column ∧ column.isAlias = false ∧
      column.isRequired = true ∧ p ∉ (candidates.filterMap d.accept?).map Prod.fst := by
  simp only [Unmet, mem_positions_iff, not_exists, not_and]

/-- What planning reports as missing are the required columns that are unmet. -/
theorem namesWhere_missingColumns :
    d.NamesWhere (d.Unmet candidates)
      (d.missingColumns ((candidates.filterMap d.accept?).map Prod.fst)) := by
  let unmet (x : Column × Nat) : Bool :=
    !x.1.isAlias && x.1.isRequired && x.2 ∉ (candidates.filterMap d.accept?).map Prod.fst
  refine ⟨(d.columns.zipIdx.filter unmet).map Prod.snd, ?_, fun p ↦ ?_, ?_⟩
  · -- the positions of all columns ascend, and some of them are left out
    have hall : (d.columns.zipIdx.map Prod.snd).Pairwise (· < ·) := by
      rw [List.zipIdx_map_snd]
      exact List.pairwise_lt_range'
    exact hall.sublist (List.filter_sublist.map _)
  · rw [unmet_iff]
    constructor
    · intro hp
      obtain ⟨⟨column, _⟩, hmem, rfl⟩ := List.mem_map.1 hp
      obtain ⟨hat, hunmet⟩ := List.mem_filter.1 hmem
      simp only [unmet, Bool.and_eq_true, Bool.not_eq_true', decide_eq_true_eq] at hunmet
      exact ⟨column, List.mem_zipIdx_iff_getElem?.1 hat, hunmet.1.1, hunmet.1.2, hunmet.2⟩
    · rintro ⟨column, hat, halias, hrequired, hp⟩
      refine List.mem_map.2 ⟨(column, p), List.mem_filter.2 ⟨?_, ?_⟩, rfl⟩
      · exact List.mem_zipIdx_iff_getElem?.2 hat
      · simp only [unmet, halias, hrequired, hp, not_false_eq_true, decide_true, Bool.not_false,
          Bool.and_self]
  · rw [missingColumns, List.map_map, List.map_map]
    refine List.map_congr_left ?_
    rintro ⟨column, p⟩ hmem
    have hat : d.columns[p]? = some column :=
      List.mem_zipIdx_iff_getElem?.1 (List.mem_of_mem_filter hmem)
    simp only [Function.comp_apply, hat, Option.map_some]

theorem missingColumns_eq_nil_iff_unmet :
    d.missingColumns ((candidates.filterMap d.accept?).map Prod.fst) = [] ↔
      ∀ p, ¬d.Unmet candidates p := by
  simp only [missingColumns_eq_nil_iff, unmet_iff, not_exists, not_and, not_not]

/-! ## Plans -/

/-- A refused plan says which columns are missing. -/
theorem pushdown_eq_error {used : BitVec 64} {e : TableError} :
    d.pushdown candidates used = .error e ↔
      d.missingColumns ((candidates.filterMap d.accept?).map Prod.fst) ≠ [] ∧
        e = .missingConstraint d.name
          (d.missingColumns ((candidates.filterMap d.accept?).map Prod.fst)) := by
  rw [pushdown]
  split
  · rename_i hnil
    simp [hnil]
  · rename_i hne
    rw [Except.error.injEq, eq_comm]
    exact ⟨fun h ↦ ⟨hne, h⟩, And.right⟩

/-- How a plan answers the candidates. -/
structure Answers (d : TableDef) (candidates : List Candidate) (p : Pushdown) : Prop where
  length_slots : p.slots.length = candidates.length
  /-- The candidates that are accepted have the places from one on, in their order. -/
  places : p.slots.reduceOption = List.range' 1 p.constraints.length
  unplaced : ∀ (j : Nat) (c : Candidate), candidates[j]? = some c →
    (p.slots[j]? = some none ↔ ∀ position planned, ¬d.Accepts c position planned)
  /-- The constraint of a candidate is at its place. -/
  placed : ∀ (j s : Nat) (c : Candidate), candidates[j]? = some c →
    p.slots[j]? = some (some s) →
    ∃ position planned, d.Accepts c position planned ∧ p.constraints[s - 1]? = some planned

theorem answers_of_pushdown {used : BitVec 64} {p : Pushdown}
    (h : d.pushdown candidates used = .ok p) : d.Answers candidates p := by
  obtain ⟨-, hconstraints, hslots, -⟩ := pushdown_eq_ok h
  constructor
  · rw [hslots, length_slotsAfter]
  · rw [hslots, hconstraints, reduceOption_slotsAfter, List.length_map, Nat.zero_add]
  · intro j c hc
    have hstatus : (p.slots[j]?).map Option.isSome = some (d.accept? c).isSome := by
      rw [hslots, ← List.getElem?_map, map_isSome_slotsAfter, List.getElem?_map, hc,
        Option.map_some]
    obtain ⟨slot, hslot, hsame⟩ := Option.map_eq_some_iff.1 hstatus
    rw [← accept?_eq_none_iff, hslot, Option.some_inj, ← Option.not_isSome_iff_eq_none,
      ← Option.not_isSome_iff_eq_none, hsame]
  · intro j s c hc hslot
    rw [hslots] at hslot
    obtain ⟨-, c', ⟨position, planned⟩, hc', hx, hat⟩ := getElem?_of_slotsAfter hslot
    obtain rfl : c' = c := Option.some_inj.1 (hc'.symm.trans hc)
    refine ⟨position, planned, accepts_iff.2 hx, ?_⟩
    rw [hconstraints, List.getElem?_map, ← Nat.sub_zero s, hat, Option.map_some]

/-- **What a plan does with the candidates.**  It is refused exactly when a required column is
unmet, and then it names the unmet columns in the order of the definition.  Otherwise every
candidate that is accepted has a place, the next free one, where its constraint stands, and no other
candidate has. -/
theorem plan_of_candidates (d : TableDef) (candidates : List Candidate) (used : BitVec 64) :
    ((∃ e, d.pushdown candidates used = .error e) ↔ ∃ p, d.Unmet candidates p) ∧
      (∀ e, d.pushdown candidates used = .error e →
        ∃ missing, e = .missingConstraint d.name missing ∧
          d.NamesWhere (d.Unmet candidates) missing) ∧
      ∀ p, d.pushdown candidates used = .ok p → d.Answers candidates p := by
  refine ⟨?_, fun e he ↦ ?_, fun p ↦ answers_of_pushdown⟩
  · simp only [pushdown_eq_error, exists_and_left, exists_eq, and_true, ne_eq,
      missingColumns_eq_nil_iff_unmet, not_forall, not_not]
  · exact ⟨_, (pushdown_eq_error.1 he).2, namesWhere_missingColumns⟩

end TableDef

namespace Sample.Signatures

/-- A predicate on a column without flags, one on the path that cannot be used, and two on the path
of which the table handles both. -/
def offered : List Candidate :=
  [⟨1, some .eq, true⟩, ⟨0, some .eq, false⟩, ⟨0, some .like, true⟩, ⟨0, some .eq, true⟩]

/-- The path is required: without the last two candidates the plan is refused. -/
theorem plan_of_signatures :
    (∃ e, definition.pushdown (offered.take 2) 3 = .error e ∧
        definition.Unmet (offered.take 2) 0 ∧ e = .missingConstraint "tsig" ["path"]) ∧
      ∃ p, definition.pushdown offered 3 = .ok p ∧
        p.slots = [none, none, some 1, some 2] ∧
        ∃ position planned, definition.Accepts ⟨0, some .like, true⟩ position planned ∧
          p.constraints[0]? = some planned := by
  obtain ⟨hrefused, -, -⟩ := TableDef.plan_of_candidates definition (offered.take 2) 3
  obtain ⟨-, -, hanswers⟩ := TableDef.plan_of_candidates definition offered 3
  obtain ⟨q, hq⟩ := hrefused.1 ⟨_, rfl⟩
  -- the path is the only required column
  have hpath : q = 0 := by
    obtain ⟨column, hat, -, hrequired, -⟩ := hq
    have honly : ∀ q < 4, ((definition.columns[q]?).map Column.isRequired) = some true → q = 0 := by
      decide
    refine honly q (List.getElem?_eq_some_iff.1 hat).1 ?_
    rw [hat, Option.map_some, hrequired]
  exact ⟨⟨_, rfl, hpath ▸ hq, rfl⟩, _, rfl, rfl, (hanswers _ rfl).placed 2 1 _ rfl rfl⟩

end Sample.Signatures

end VirtualTables
