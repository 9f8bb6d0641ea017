import VirtualTables.Adapter.Basic
import VirtualTables.Proofs.Plan.Requested
import VirtualTables.Proofs.Row
import VirtualTables.Sample.Scripted

/-!
# What is read was asked for

A query says twice which columns it reads.  The mask that comes with a request for a plan says it
once and for all, and from it the table learns which fields it has to produce.  Later the columns
are read one at a time, at every row.  The mask is taken by position, up to its last bit, which is
that of all columns from 63 on; the reading of a cell knows nothing of masks.  Both go through
`TableDef.resolve?`, and that is why they meet: a field that is looked up was asked for
(`reading_of_mask`).  If they did not, a table that leaves out what it is not asked for would lose
cells, and nobody would notice, since a cell that is not set reads as null.
-/

namespace VirtualTables

namespace Adapter

variable {τ σ : Type} {a : Adapter τ σ}

/-- The value of a column is that of the cell with this field, at the row of every cursor; it is
null where the row has no such cell. -/
def LooksUp (a : Adapter τ σ) (index : Int) (f : Field) : Prop :=
  ∀ c : Cursor σ, a.column c index = .ok (((c.row.get? f).map EngineValue.ofValue).getD .null)

theorem looksUp_of_resolve? {i p : Nat} {column : Column}
    (h : a.definition.resolve? i = some (p, column)) : a.LooksUp i column.field := by
  intro c
  simp only [Adapter.column, Int.natCast_nonneg, if_true, Int.toNat_natCast, h]

/-- Two fields are told apart by a row that has a cell for one of them only. -/
theorem LooksUp.unique {index : Int} {f g : Field} (hf : a.LooksUp index f)
    (hg : a.LooksUp index g) : f = g := by
  by_contra hne
  set c : Cursor σ :=
    { context := none, row := Row.empty.set f (.boolean true), rowid := 0 } with hc
  have hrow : c.row.get? f = some (.boolean true) := by
    rw [hc, Row.get?_set, if_pos rfl]
  have hnone : c.row.get? g = none := by
    rw [hc, Row.get?_set, if_neg hne]
    rfl
  have hsame := (hf c).symm.trans (hg c)
  rw [hrow, hnone] at hsame
  exact absurd hsame (by simp [EngineValue.ofValue])

end Adapter

/-- **Which fields a mask asks for, and that they are the ones that are read.**  A field is asked
for exactly when it holds the data of a column whose bit is set, so that two masks together ask for
what either does.  If the definition is valid, every column whose bit is set is read from a cell
with one field, which is asked for, and no alias has a field that is asked for. -/
theorem reading_of_mask (d : TableDef) :
    (∀ (used : BitVec 64) (f : Field),
        f ∈ d.requestedColumns used ↔
          ∃ i < d.columns.length, used.getLsbD (min i 63) = true ∧
            ∃ p column, d.resolve? i = some (p, column) ∧ column.field = f) ∧
      (∀ (m n : BitVec 64) (f : Field),
        f ∈ d.requestedColumns (m ||| n) ↔ f ∈ d.requestedColumns m ∨ f ∈ d.requestedColumns n) ∧
      (d.validate = .ok () → ∀ used : BitVec 64,
        (∀ i < d.columns.length, used.getLsbD (min i 63) = true →
            ∀ (τ σ : Type) (a : Adapter τ σ), a.definition = d →
              ∃ f, a.LooksUp i f ∧ (∀ g, a.LooksUp i g → g = f) ∧ f ∈ d.requestedColumns used) ∧
          ∀ f ∈ d.requestedColumns used, (∃ column ∈ d.columns, column.field = f) ∧
            ∀ column ∈ d.columns, column.field = f → column.isAlias = false) := by
  refine ⟨fun used f ↦ ?_, fun m n f ↦ TableDef.mem_requestedColumns_or, fun hvalid used ↦ ?_⟩
  · rw [TableDef.mem_requestedColumns_iff]
    constructor
    · rintro ⟨i, p, column, hread, hresolve, hfield⟩
      exact ⟨i, TableDef.lt_length_of_resolve? hresolve, hread, p, column, hresolve, hfield⟩
    · rintro ⟨i, -, hread, p, column, hresolve, hfield⟩
      exact ⟨i, p, column, hread, hresolve, hfield⟩
  · have hd := TableDef.wellFormed_of_validate hvalid
    refine ⟨?_, fun f hf ↦ hd.isAlias_of_mem_requestedColumns hf⟩
    rintro i hi hread τ σ a rfl
    obtain ⟨p, column, hresolve⟩ := hd.exists_resolve? hi
    have hlooks := Adapter.looksUp_of_resolve? hresolve
    exact ⟨column.field, hlooks, fun g hg ↦ hg.unique hlooks,
      TableDef.mem_requestedColumns_iff.2 ⟨i, p, column, hread, hresolve, rfl⟩⟩

/-! ### A table with more columns than a mask has bits -/

namespace Wide

/-- The schema of the table. -/
def schema : Schema :=
  ⟨.shared, "wide"⟩

def cell (i : Nat) : Field :=
  .inSchema schema (.integer .int8) s!"cell{i}"

def front : Field :=
  .inSchema schema .undefined "front"

def back : Field :=
  .inSchema schema .undefined "back"

/-- Between two aliases there are 65 columns with data, of which the first alias stands for the last
and the last one for the first. -/
def script : Sample.Script where
  definition :=
    { schema := schema
      columns :=
        .aliasOf front (cell 64) :: (List.range 65).map (fun i ↦ .plain (cell i)) ++
          [.aliasOf back (cell 0)]
      attributes := [] }
  rows := []
  failPrepare := none
  failAt := none
  dirtyEnd := false

/-- A connection to the table. -/
def connection : Adapter Sample.Usage Sample.Place :=
  { table := script.virtualTable, memory := .counting, backlog := .new 20 }

end Wide

open Wide in
/-- The alias in front has the first bit, and the one at the back shares the last bit with three
columns.  Each is read from the far end of the table, and the field there is asked for. -/
theorem reading_of_wide :
    script.definition.validate = .ok () ∧
      (∃ f ∈ script.definition.requestedColumns 1, connection.LooksUp (0 : Nat) f ∧ f = cell 64) ∧
      ∃ f ∈ script.definition.requestedColumns (.twoPow 64 63),
        connection.LooksUp (66 : Nat) f ∧ f = cell 0 := by
  have hvalid : script.definition.validate = .ok () := by decide +kernel
  have hfront : script.definition.resolve? 0 = some (65, .plain (cell 64)) := by decide +kernel
  have hback : script.definition.resolve? 66 = some (1, .plain (cell 0)) := by decide +kernel
  obtain ⟨-, -, hreading⟩ := reading_of_mask script.definition
  obtain ⟨f, hf, -, hasked⟩ :=
    (hreading hvalid 1).1 0 (by decide) (by decide) _ _ connection rfl
  obtain ⟨g, hg, -, hasked'⟩ :=
    (hreading hvalid (.twoPow 64 63)).1 66 (by decide) (by decide) _ _ connection rfl
  exact ⟨hvalid, ⟨f, hasked, hf, hf.unique (Adapter.looksUp_of_resolve? (a := connection) hfront)⟩,
    g, hasked', hg, hg.unique (Adapter.looksUp_of_resolve? (a := connection) hback)⟩

end VirtualTables
