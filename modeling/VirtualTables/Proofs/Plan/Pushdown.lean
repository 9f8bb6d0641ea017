import Mathlib.Data.List.ReduceOption
import VirtualTables.Plan.Pushdown
import VirtualTables.Proofs.Table.WellFormed

/-!
# What a plan promises

Planning walks over the candidates with two results that have to line up: the list of accepted
constraints, and for every candidate the place of its value in that list, counted from one.
`slotsAfter` is the recursion that hands the places out, and the lemmas about it carry the number of
places that were taken before, which is the invariant of the walk: the candidate with place `s` is
the accepted candidate number `s - taken - 1` of what is left.

* `accept?_eq_some_iff` — what it takes for a candidate to be accepted.
* `getElem?_of_slotsAfter`, `exists_slotsAfter` — places and accepted candidates correspond.
* `honours_of_pushdown` — the constraints of a plan are such as the table handles, and a plan that
  is not refused has one of them on every required column.
-/

namespace VirtualTables

/-! ## Flags and operators of a column -/

namespace ColumnOptions

/-- A flag is a single bit, and for a single bit it makes no difference whether all bits are asked
for or any. -/
theorem contains_eq_intersects (a : ColumnOptions) {i : Nat} (hi : i < 32) :
    a.contains ⟨.twoPow 32 i⟩ = a.intersects ⟨.twoPow 32 i⟩ := by
  have hne : BitVec.twoPow 32 i ≠ 0#32 := by
    intro h
    have hbit := congrArg (fun x ↦ BitVec.getLsbD x i) h
    simp [hi] at hbit
  simp only [contains, intersects, BitVec.and_twoPow]
  by_cases hbit : a.bits.getLsbD i = true
  · simpa [hbit] using hne
  · simpa [hbit] using hne.symm

theorem intersects_union (a b c : ColumnOptions) :
    a.intersects (b.union c) = (a.intersects b || a.intersects c) := by
  have hor : ∀ x y : BitVec 32, x ||| y = 0#32 ↔ x = 0#32 ∧ y = 0#32 := fun x y ↦
    BitVec.or_eq_zero_iff
  simp only [intersects, union, BitVec.and_or_distrib_left]
  rw [← Bool.decide_or, decide_eq_decide]
  simp only [BitVec.ofNat_eq_ofNat, ne_eq, hor, not_and_or]

/-- The flags with a name are single bits. -/
theorem intersects_of_named (a flag : ColumnOptions)
    (h : flag ∈ named.map Prod.fst) : a.intersects flag = a.contains flag := by
  have hbits : ∀ flag ∈ named.map Prod.fst, ∃ i < 32, flag = ⟨.twoPow 32 i⟩ := by
    simp only [named, List.map_cons, List.map_nil, List.forall_mem_cons]
    exact ⟨⟨1, by decide⟩, ⟨2, by decide⟩, ⟨3, by decide⟩, ⟨4, by decide⟩, ⟨8, by decide⟩,
      List.forall_mem_nil _⟩
  obtain ⟨i, hi, rfl⟩ := hbits flag h
  exact (a.contains_eq_intersects hi).symm

end ColumnOptions

namespace Column

/-- Whether a table handles an operator on a column: the column has data of its own, carries one of
the flags that let it take constraints, and the operator is one of its own, which is equality alone
where it names none. -/
structure Handles (column : Column) (op : ConstraintOp) : Prop where
  isAlias : column.isAlias = false
  flagged : column.options.contains .indexed = true ∨ column.options.contains .required = true ∨
    column.options.contains .additional = true
  operator : op ∈ column.ops ∨ column.ops.toList = [] ∧ op = .eq

theorem takesConstraints_iff {column : Column} :
    column.takesConstraints = true ↔
      column.options.contains .indexed = true ∨ column.options.contains .required = true ∨
        column.options.contains .additional = true := by
  rw [takesConstraints, ColumnOptions.intersects_union, ColumnOptions.intersects_union,
    column.options.intersects_of_named .indexed (by decide),
    column.options.intersects_of_named .required (by decide),
    column.options.intersects_of_named .additional (by decide),
    Bool.or_eq_true, Bool.or_eq_true, or_assoc]

theorem accepts_iff {column : Column} {op : ConstraintOp} :
    column.accepts op = true ↔ op ∈ column.ops ∨ column.ops.toList = [] ∧ op = .eq := by
  unfold accepts
  split
  · rename_i h
    have hmem : op ∉ column.ops := by
      change op ∉ column.ops.toList
      rw [h]
      exact List.not_mem_nil
    simp [h, hmem]
  · rename_i h
    simp [h]

end Column

namespace TableDef

variable {d : TableDef}

/-! ## Accepting candidates -/

/-- **What it takes for a candidate to be accepted.** -/
theorem accept?_eq_some_iff {c : Candidate} {p : Nat} {planned : PlannedConstraint} :
    d.accept? c = some (p, planned) ↔
      c.usable = true ∧ 0 ≤ c.column ∧ c.op = some planned.op ∧
        ∃ column, d.resolve? c.column.toNat = some (p, column) ∧
          column.takesConstraints = true ∧ column.accepts planned.op = true ∧
            planned.field = column.field := by
  unfold accept?
  obtain ⟨field, op⟩ := planned
  cases hop : c.op <;> cases hres : d.resolve? c.column.toNat <;> simp
  grind

@[simp]
theorem length_slotsAfter (taken : Nat) (candidates : List Candidate) :
    (d.slotsAfter taken candidates).length = candidates.length := by
  induction candidates generalizing taken with
  | nil => rfl
  | cons c rest ih =>
    rw [slotsAfter]
    split <;> simp [ih]

/-- The candidate with a place is the accepted candidate at that place. -/
theorem getElem?_of_slotsAfter {taken j s : Nat} {candidates : List Candidate}
    (h : (d.slotsAfter taken candidates)[j]? = some (some s)) :
    taken < s ∧ ∃ c x, candidates[j]? = some c ∧ d.accept? c = some x ∧
      (candidates.filterMap d.accept?)[s - taken - 1]? = some x := by
  induction candidates generalizing taken j with
  | nil => simp [slotsAfter] at h
  | cons c rest ih =>
    rw [slotsAfter] at h
    cases hc : d.accept? c with
    | none =>
      simp only [hc] at h
      cases j with
      | zero => simp at h
      | succ j =>
        obtain ⟨hs, c', x, hj, hx, hat⟩ := ih (by simpa using h)
        exact ⟨hs, c', x, by simpa using hj, hx, by rwa [List.filterMap_cons_none hc]⟩
    | some x₀ =>
      simp only [hc] at h
      rw [List.filterMap_cons_some hc]
      cases j with
      | zero =>
        obtain rfl : taken + 1 = s := by simpa using h
        exact ⟨by omega, c, x₀, rfl, hc, by simp⟩
      | succ j =>
        obtain ⟨hs, c', x, hj, hx, hat⟩ := ih (by simpa using h)
        refine ⟨by omega, c', x, by simpa using hj, hx, ?_⟩
        have hidx : s - taken - 1 = (s - (taken + 1) - 1) + 1 := by omega
        rw [hidx, List.getElem?_cons_succ]
        exact hat

/-- The places that are handed out follow on those that were taken, one for each accepted
candidate. -/
theorem reduceOption_slotsAfter (taken : Nat) (candidates : List Candidate) :
    (d.slotsAfter taken candidates).reduceOption =
      List.range' (taken + 1) (candidates.filterMap d.accept?).length := by
  induction candidates generalizing taken with
  | nil => rfl
  | cons c rest ih =>
    rw [slotsAfter]
    cases hc : d.accept? c with
    | none => simp only [List.reduceOption_cons_of_none, ih, List.filterMap_cons_none hc]
    | some x =>
      simp only [List.reduceOption_cons_of_some, ih, List.filterMap_cons_some hc, List.length_cons,
        List.range'_succ]

/-- Every place that is handed out is that of a candidate. -/
theorem exists_slot_of_places {slots : List (Option Nat)} {taken n q : Nat}
    (h : slots.reduceOption = List.range' (taken + 1) n) (hq : q < n) :
    ∃ j : Nat, slots[j]? = some (some (taken + q + 1)) := by
  have hmem : taken + q + 1 ∈ slots.reduceOption := by
    rw [h, List.mem_range'_1]
    omega
  exact List.mem_iff_getElem?.1 (List.reduceOption_mem_iff.1 hmem)

/-- Every accepted candidate has a place. -/
theorem exists_slotsAfter (taken : Nat) {q : Nat} {candidates : List Candidate}
    (hq : q < (candidates.filterMap d.accept?).length) :
    ∃ j : Nat, (d.slotsAfter taken candidates)[j]? = some (some (taken + q + 1)) :=
  exists_slot_of_places (reduceOption_slotsAfter taken candidates) hq

/-! ## Required columns -/

/-- Nothing is missing when the required columns are all at the given positions. -/
theorem missingColumns_eq_nil_iff {positions : List Nat} :
    d.missingColumns positions = [] ↔
      ∀ p c, d.columns[p]? = some c → c.isAlias = false → c.isRequired = true → p ∈ positions := by
  simp only [missingColumns, List.map_eq_nil_iff, List.filter_eq_nil_iff]
  constructor
  · intro h p c hc ha hr
    have hmem : (c, p) ∈ d.columns.zipIdx := List.mem_zipIdx_iff_getElem?.2 hc
    simpa [ha, hr] using h (c, p) hmem
  · rintro h ⟨c, p⟩ hmem
    have hc : d.columns[p]? = some c := List.mem_zipIdx_iff_getElem?.1 hmem
    simp only [Bool.and_eq_true, Bool.not_eq_true', decide_eq_true_eq, not_and, and_imp, not_not]
    exact h p c hc

/-- What is known of a plan that was not refused. -/
theorem pushdown_eq_ok {candidates : List Candidate} {used : BitVec 64} {p : Pushdown}
    (h : d.pushdown candidates used = .ok p) :
    d.missingColumns ((candidates.filterMap d.accept?).map Prod.fst) = [] ∧
      p.constraints = (candidates.filterMap d.accept?).map Prod.snd ∧
        p.slots = d.slotsAfter 0 candidates ∧ p.requested = d.requestedColumns used := by
  simp only [pushdown] at h
  split at h
  · rename_i hmissing
    rw [Except.ok.injEq] at h
    subst h
    exact ⟨hmissing, rfl, rfl, rfl⟩
  · exact absurd h (by simp)

/-- A place is counted from one, and there are no more places than candidates.  So it is the same
number in 32 bits with a sign, as long as there are fewer than `2 ^ 31` candidates. -/
theorem toInt_slot_of_pushdown {candidates : List Candidate} {used : BitVec 64} {p : Pushdown}
    (h : d.pushdown candidates used = .ok p) {slot : Nat} (hslot : some slot ∈ p.slots) :
    0 < slot ∧ slot ≤ candidates.length ∧
      (candidates.length < 2 ^ 31 → (BitVec.ofNat 32 slot).toInt = slot) := by
  obtain ⟨-, -, hslots, -⟩ := pushdown_eq_ok h
  have hplace : slot ∈ (d.slotsAfter 0 candidates).reduceOption := by
    rwa [List.reduceOption_mem_iff, ← hslots]
  have hfew : (candidates.filterMap d.accept?).length ≤ candidates.length :=
    List.length_filterMap_le d.accept? candidates
  rw [reduceOption_slotsAfter, List.mem_range'_1] at hplace
  refine ⟨by omega, by omega, fun hlen ↦ ?_⟩
  rw [BitVec.toInt_ofNat', Int.bmod_eq_of_le] <;> omega

/-- Constraints that a table can be scanned with: it handles each of them, and there is one on every
required column. -/
structure Honours (d : TableDef) (constraints : List PlannedConstraint) : Prop where
  handled : ∀ c ∈ constraints, ∃ column ∈ d.columns, column.field = c.field ∧ column.Handles c.op
  required : ∀ column ∈ d.columns, column.isAlias = false → column.isRequired = true →
    ∃ c ∈ constraints, c.field = column.field

/-- **A plan that is not refused can be scanned with.** -/
theorem honours_of_pushdown (hd : d.WellFormed) {candidates : List Candidate} {used : BitVec 64}
    {p : Pushdown} (h : d.pushdown candidates used = .ok p) : d.Honours p.constraints := by
  obtain ⟨hmissing, hconstraints, -, -⟩ := pushdown_eq_ok h
  rw [hconstraints]
  constructor
  · intro planned hplanned
    obtain ⟨⟨q, _⟩, hx, rfl⟩ := List.mem_map.1 hplanned
    obtain ⟨c, -, hc⟩ := List.mem_filterMap.1 hx
    obtain ⟨-, -, -, column, hres, htakes, haccepts, hfield⟩ := accept?_eq_some_iff.1 hc
    exact ⟨column, mem_columns_of_resolve? hres, hfield.symm,
      hd.isAlias_of_resolve? hres, Column.takesConstraints_iff.1 htakes,
      Column.accepts_iff.1 haccepts⟩
  · intro column hcolumn ha hr
    obtain ⟨q, hq⟩ := List.mem_iff_getElem?.1 hcolumn
    have hconstrained := missingColumns_eq_nil_iff.1 hmissing q column hq ha hr
    obtain ⟨⟨_, planned⟩, hx, rfl⟩ := List.mem_map.1 hconstrained
    obtain ⟨c, -, hc⟩ := List.mem_filterMap.1 hx
    obtain ⟨-, -, -, column', hres, -, -, hfield⟩ := accept?_eq_some_iff.1 hc
    -- the accepted candidate was resolved to the same position, so to the same column
    have hsame : column' = column := Option.some_inj.1 ((getElem?_of_resolve? hres).symm.trans hq)
    exact ⟨planned, List.mem_map.2 ⟨_, hx, rfl⟩, by rw [hfield, hsame]⟩

end TableDef

end VirtualTables
