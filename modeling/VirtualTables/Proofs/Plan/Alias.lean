import VirtualTables.Proofs.Adapter.Planning
import VirtualTables.Proofs.Plan.Requested
import VirtualTables.Sample.Users

/-!
# Aliases are transparent

An alias is another name for a column, and an engine may use either.  There are three places where a
column comes in: the predicates that are offered, the mask of the columns that are read, and the
reading of a cell.  In each of them a column counts only through the position that it resolves to
(`TableDef.locate?`), so that the two names are interchangeable; flags and operators that an alias
carries itself play no part.  `alias_transparent` puts the three together.

Of the three only the mask needs a valid definition.  There the bit of the alias is exchanged for
that of its target, and the target has to be no alias in its turn.
-/

namespace VirtualTables

namespace TableDef

variable {d : TableDef}

/-! ## Where a column is resolved to -/

/-- The position of the column that holds the data of a column as an engine names it. -/
def locate? (d : TableDef) (column : Int) : Option Nat :=
  if 0 ≤ column then (d.resolve? column.toNat).map Prod.fst else none

/-- A position has one column. -/
theorem resolve?_congr {i j : Nat} (h : (d.resolve? i).map Prod.fst = (d.resolve? j).map Prod.fst) :
    d.resolve? i = d.resolve? j := by
  cases hi : d.resolve? i with
  | none =>
    rw [hi, Option.map_none, eq_comm, Option.map_eq_none_iff] at h
    exact h.symm
  | some x =>
    obtain ⟨p, column⟩ := x
    rw [hi, Option.map_some, eq_comm, Option.map_eq_some_iff] at h
    obtain ⟨⟨q, column'⟩, hj, rfl⟩ := h
    have hcolumn : column' = column :=
      Option.some_inj.1 ((getElem?_of_resolve? hj).symm.trans (getElem?_of_resolve? hi))
    rw [hj, hcolumn]

theorem locate?_eq_some_iff {column : Int} {p : Nat} :
    d.locate? column = some p ↔ 0 ≤ column ∧ (d.resolve? column.toNat).map Prod.fst = some p := by
  rw [locate?]
  by_cases h : 0 ≤ column
  · rw [if_pos h, and_iff_right h]
  · rw [if_neg h]
    exact ⟨fun hnone ↦ absurd hnone (by simp), fun hsome ↦ absurd hsome.1 h⟩

/-! ## Predicates -/

/-- Two candidates that differ at most in the name of the column. -/
structure SameDemand (d : TableDef) (x y : Candidate) : Prop where
  op : x.op = y.op
  usable : x.usable = y.usable
  located : d.locate? x.column = d.locate? y.column

theorem accept?_eq_none_of_locate? {c : Candidate} (h : d.locate? c.column = none) :
    d.accept? c = none := by
  cases hc : d.accept? c with
  | none => rfl
  | some x =>
    obtain ⟨-, hnonneg, -, column, hresolve, -⟩ := accept?_eq_some_iff.1 hc
    rw [locate?, if_pos hnonneg, hresolve] at h
    exact absurd h (by simp)

theorem SameDemand.accept? {x y : Candidate} (h : d.SameDemand x y) :
    d.accept? x = d.accept? y := by
  obtain ⟨hop, husable, hlocated⟩ := h
  cases hx : d.locate? x.column with
  | none => rw [accept?_eq_none_of_locate? hx, accept?_eq_none_of_locate? (hlocated ▸ hx)]
  | some p =>
    have hy : d.locate? y.column = some p := hlocated.symm.trans hx
    obtain ⟨hx0, hx⟩ := locate?_eq_some_iff.1 hx
    obtain ⟨hy0, hy⟩ := locate?_eq_some_iff.1 hy
    simp only [TableDef.accept?, hx0, hy0, hop, husable, resolve?_congr (hx.trans hy.symm)]

theorem filterMap_accept?_congr {xs ys : List Candidate} (h : List.Forall₂ d.SameDemand xs ys) :
    xs.filterMap d.accept? = ys.filterMap d.accept? := by
  induction h with
  | nil => rfl
  | cons hxy _ ih => rw [List.filterMap_cons, List.filterMap_cons, hxy.accept?, ih]

theorem slotsAfter_congr {xs ys : List Candidate} (h : List.Forall₂ d.SameDemand xs ys)
    (taken : Nat) : d.slotsAfter taken xs = d.slotsAfter taken ys := by
  induction h generalizing taken with
  | nil => rfl
  | cons hxy _ ih =>
    rw [slotsAfter, slotsAfter, hxy.accept?]
    split
    · rw [ih]
    · rw [ih]

/-- The names by which the columns are called make no difference to a plan. -/
theorem pushdown_congr {xs ys : List Candidate} (h : List.Forall₂ d.SameDemand xs ys)
    (used : BitVec 64) : d.pushdown xs used = d.pushdown ys used := by
  simp only [pushdown, filterMap_accept?_congr h, slotsAfter_congr h]

/-! ## Columns that are read -/

/-- The mask in which the bit of one column is exchanged for that of another. -/
def exchange (used : BitVec 64) (i p : Nat) : BitVec 64 :=
  used &&& ~~~BitVec.twoPow 64 i ||| BitVec.twoPow 64 p

theorem reads_exchange_iff {used : BitVec 64} {i p j : Nat} (hi : i < 63) (hp : p < 63) :
    reads (exchange used i p) j = true ↔ j = p ∨ j ≠ i ∧ reads used j = true := by
  rcases Nat.lt_or_ge j 63 with hj | hj
  · have hmin : min j 63 = j := by omega
    simp only [reads, exchange, hmin, BitVec.getLsbD_or, BitVec.getLsbD_and, BitVec.getLsbD_not,
      BitVec.getLsbD_twoPow]
    grind
  · have hmin : min j 63 = 63 := by omega
    simp only [reads, exchange, hmin, BitVec.getLsbD_or, BitVec.getLsbD_and, BitVec.getLsbD_not,
      BitVec.getLsbD_twoPow]
    grind

/-- **Reading an alias is reading its target**, as far as the table is asked for fields. -/
theorem WellFormed.mem_requestedColumns_exchange (hd : d.WellFormed) {i p : Nat} {target : Column}
    (hresolve : d.resolve? i = some (p, target)) (hi : i < 63) (hp : p < 63) {used : BitVec 64}
    (hread : reads used i = true) (f : Field) :
    f ∈ d.requestedColumns used ↔ f ∈ d.requestedColumns (exchange used i p) := by
  have htarget := hd.resolve?_of_resolve? hresolve
  rw [mem_requestedColumns_iff, mem_requestedColumns_iff]
  constructor
  · rintro ⟨j, q, column, hj, hq, hf⟩
    by_cases hji : j = i
    · -- the alias itself: its field is found at the target now
      subst hji
      obtain ⟨rfl, rfl⟩ := Prod.mk.inj (Option.some_inj.1 (hq.symm.trans hresolve))
      exact ⟨q, q, column, (reads_exchange_iff hi hp).2 (.inl rfl), htarget, hf⟩
    · exact ⟨j, q, column, (reads_exchange_iff hi hp).2 (.inr ⟨hji, hj⟩), hq, hf⟩
  · rintro ⟨j, q, column, hj, hq, hf⟩
    rcases (reads_exchange_iff hi hp).1 hj with rfl | ⟨-, hj⟩
    · obtain ⟨rfl, rfl⟩ := Prod.mk.inj (Option.some_inj.1 (hq.symm.trans htarget))
      exact ⟨i, q, column, hread, hresolve, hf⟩
    · exact ⟨j, q, column, hj, hq, hf⟩

end TableDef

namespace Adapter

variable {τ σ : Type} {a : Adapter τ σ}

theorem bestIndex_congr {xs ys : List Candidate} (h : List.Forall₂ a.definition.SameDemand xs ys)
    (used : BitVec 64) : a.bestIndex xs used = a.bestIndex ys used := by
  rw [bestIndex, bestIndex, TableDef.pushdown_congr h]

/-- Two names of a column read the same cell. -/
theorem column_congr {i j : Int} {p : Nat} (hi : a.definition.locate? i = some p)
    (hj : a.definition.locate? j = some p) (c : Cursor σ) : a.column c i = a.column c j := by
  obtain ⟨hi0, hi⟩ := TableDef.locate?_eq_some_iff.1 hi
  obtain ⟨hj0, hj⟩ := TableDef.locate?_eq_some_iff.1 hj
  have hresolve := TableDef.resolve?_congr (hi.trans hj.symm)
  cases hat : a.definition.resolve? j.toNat with
  | none => rw [hat] at hj; exact absurd hj (by simp)
  | some x =>
    rw [hat] at hresolve
    simp only [column, hi0, hj0, if_true, hresolve, hat]

end Adapter

/-- **An alias can be used wherever its target can.**  Offering predicates on the one or on the
other gives the same plan, reading the one or the other asks for the same fields, and at every row,
as in every other state of a cursor, both have the same value. -/
theorem alias_transparent {d : TableDef} (hvalid : d.validate = .ok ()) :
    (∀ xs ys : List Candidate, List.Forall₂ d.SameDemand xs ys → ∀ used : BitVec 64,
        d.pushdown xs used = d.pushdown ys used ∧
          ∀ (τ σ : Type) (a : Adapter τ σ), a.definition = d →
            a.bestIndex xs used = a.bestIndex ys used) ∧
      (∀ (i : Nat) (column : Column), d.columns[i]? = some column → column.isAlias = true →
        i < 63 → ∃ p target, column.target = some target.field ∧ d.columns[p]? = some target ∧
          (p < 63 → ∀ used : BitVec 64, used.getLsbD i = true → ∀ f,
            f ∈ d.requestedColumns used ↔ f ∈ d.requestedColumns (TableDef.exchange used i p))) ∧
      ∀ (τ σ : Type) (a : Adapter τ σ) (c : Cursor σ) (i j : Int) (p : Nat), a.definition = d →
        d.locate? i = some p → d.locate? j = some p → a.column c i = a.column c j := by
  have hd := TableDef.wellFormed_of_validate hvalid
  refine ⟨fun xs ys hsame used ↦ ⟨TableDef.pushdown_congr hsame used, ?_⟩,
    fun i column hcolumn halias hi ↦ ?_, ?_⟩
  · rintro τ σ a rfl
    exact a.bestIndex_congr hsame used
  · obtain ⟨p, target, htarget, hat, hresolve⟩ := hd.exists_target hcolumn halias
    refine ⟨p, target, htarget, hat, fun hp used hbit f ↦ ?_⟩
    have hread : TableDef.reads used i = true := by
      rwa [TableDef.reads, Nat.min_eq_left (Nat.le_of_lt hi)]
    exact hd.mem_requestedColumns_exchange hresolve hi hp hread f
  · rintro τ σ a c i j p rfl hi hj
    exact a.column_congr hi hj c

/-! ### The alias in the table of users -/

namespace Sample.Users

/-- A connection to the table of users. -/
def connection : Adapter Usage Place :=
  { table := listing.virtualTable, memory := .counting, backlog := .new 20 }

/-- A cursor at the user who is asked for. -/
def cursorAt (key : Int) : Cursor Place :=
  (connection.start ⟨1, [⟨userid, .eq⟩], .ofList [userid]⟩
    [⟨userid, .eq, .integer .int8 (.wrap .int8 key)⟩]).2.1

/-- `uid`, the last column, stands for `userid`, the first one. -/
theorem alias_transparent_of_uid :
    definition.pushdown [⟨3, some .eq, true⟩] 8 = definition.pushdown [⟨0, some .eq, true⟩] 8 ∧
      (userid ∈ definition.requestedColumns 8 ↔ userid ∈ definition.requestedColumns 1) ∧
      connection.column (cursorAt 501) 3 = connection.column (cursorAt 501) 0 ∧
      connection.column (cursorAt 501) 0 = .ok (.integer (.wrap .int8 501)) := by
  obtain ⟨hdemands, hreads, hcells⟩ := alias_transparent (d := definition) rfl
  have hsame : definition.SameDemand ⟨3, some .eq, true⟩ ⟨0, some .eq, true⟩ := ⟨rfl, rfl, rfl⟩
  obtain ⟨p, target, htarget, hat, hexchange⟩ := hreads 3 (.aliasOf uid userid) rfl rfl (by decide)
  -- `userid` is the field of one column only, so that the target is the first column
  have honly : ∀ q < 4, (definition.columns[q]?).map Column.field = some userid → q = 0 := by decide
  have hp : p = 0 := by
    refine honly p (List.getElem?_eq_some_iff.1 hat).1 ?_
    rw [hat, Option.map_some, ← htarget]
    rfl
  subst hp
  exact ⟨(hdemands [_] [_] (.cons hsame .nil) 8).1, hexchange (by decide) 8 (by decide) userid,
    hcells _ _ connection (cursorAt 501) 3 0 0 rfl rfl rfl, rfl⟩

end Sample.Users

end VirtualTables
