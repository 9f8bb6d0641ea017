import Mathlib.Data.List.TakeWhile
import VirtualTables.Proofs.Adapter.Preparation
import VirtualTables.Proofs.Row
import VirtualTables.Proofs.Table.FixedRows

/-!
# The loop of an engine

To read a table, an engine filters a cursor and then, as long as the cursor is not at the end of its
scan, reads the columns of a row and moves on.  `Adapter.Loop` is this loop, with the rows that were
visited.  It starts from the answer to a move, so that the loop of a whole scan is the one that
starts from the answer to `filter`.

`loop_of_fixed_rows` is what comes of it for a table with a fixed list of rows: the loop of a filter
that is accepted ends, and it visits the rows of the table and no others.  The invariant that
carries it is about a cursor that is about to move: its context is one from which the table yields
the rest of the rows.  What is in the row of the cursor at this time plays no part, and so neither
does what the table leaves behind at the end.
-/

namespace VirtualTables

variable {τ σ : Type}

/-- A row as an engine finds it: its number, and the values of all columns. -/
structure Visit where
  rowid : Nat
  values : List EngineValue

/-- What an engine reads in a column at a row with the given cells. -/
def TableDef.valueAt (d : TableDef) (cells : List (Field × Value)) (index : Nat) : EngineValue :=
  match d.resolve? index with
  | none => .null
  | some (_, column) => ((lastSet cells column.field).map EngineValue.ofValue).getD .null

theorem TableDef.valueAt_nil (d : TableDef) (index : Nat) : d.valueAt [] index = .null := by
  rw [valueAt]
  split <;> rfl

/-- The visits to the rows of some cells, which are numbered from `first`. -/
def TableDef.visits (d : TableDef) (first : Nat) (rows : List (List (Field × Value))) :
    List Visit :=
  (rows.zipIdx first).map fun (cells, number) ↦
    { rowid := number, values := (List.range d.columns.length).map (d.valueAt cells) }

theorem TableDef.length_visits (d : TableDef) (first : Nat)
    (rows : List (List (Field × Value))) : (d.visits first rows).length = rows.length := by
  rw [visits, List.length_map, List.length_zipIdx]

theorem takeWhile_isEmpty_eq_self {α : Type} {rows : List (List α)} (h : [] ∉ rows) :
    rows.takeWhile (!·.isEmpty) = rows := by
  rw [List.takeWhile_eq_self_iff]
  intro cells hcells
  cases cells with
  | nil => exact absurd hcells h
  | cons cell rest => rfl

/-- A cursor without a failure is left as it is. -/
theorem Cursor.settle_eq_ok {c : Cursor σ} {ctx : QueryContext σ} (hctx : c.context = some ctx)
    (hfailure : ctx.failure = none) (tableName : String) : c.settle tableName = (.ok (), c) := by
  obtain ⟨context, row, rowid⟩ := c
  obtain rfl : context = some ctx := hctx
  obtain ⟨constraints, requested, state, failure⟩ := ctx
  obtain rfl : failure = none := hfailure
  rfl

theorem mapM_eq_ok {ε α β : Type} {f : α → Except ε β} {g : α → β} {l : List α}
    (h : ∀ x ∈ l, f x = .ok (g x)) : l.mapM f = .ok (l.map g) := by
  induction l with
  | nil => rfl
  | cons x rest ih =>
    rw [List.forall_mem_cons] at h
    rw [List.mapM_cons, h.1, ih h.2]
    rfl

namespace Adapter

/-- **The loop of an engine** from the answer to a move.  At a row, the number and the columns are
read and the cursor moves on; the loop ends with the scan.  There is no loop from a failure. -/
inductive Loop : Except AdapterError Unit × Cursor σ × Adapter τ σ →
    List Visit → Adapter τ σ → Cursor σ → Prop
  | atEnd {a : Adapter τ σ} {c : Cursor σ} (eof : c.eof = true) : Loop (.ok (), c, a) [] a c
  | atRow {a a' : Adapter τ σ} {c c' : Cursor σ} {values : List EngineValue} {rest : List Visit}
      (eof : c.eof = false) (read : Session.readRow a c = .ok values)
      (later : Loop (a.next c) rest a' c') :
      Loop (.ok (), c, a) ({ rowid := c.rowid, values } :: rest) a' c'

variable {a a' : Adapter τ σ} {c c' : Cursor σ}

/-- An engine has no choice in its loop. -/
theorem Loop.deterministic {move : Except AdapterError Unit × Cursor σ × Adapter τ σ}
    {visits visits' : List Visit} {b : Adapter τ σ} {d : Cursor σ}
    (h : Loop move visits a c) (h' : Loop move visits' b d) :
    visits = visits' ∧ a = b ∧ c = d := by
  induction h generalizing visits' with
  | atEnd eof =>
    cases h' with
    | atEnd => exact ⟨rfl, rfl, rfl⟩
    | atRow eof' => exact absurd (eof.symm.trans eof') (by decide)
  | atRow eof read later ih =>
    cases h' with
    | atEnd eof' => exact absurd (eof.symm.trans eof') (by decide)
    | atRow _ read' later' =>
      obtain ⟨rfl, rfl, rfl⟩ := ih later'
      obtain rfl := Except.ok.inj (read.symm.trans read')
      exact ⟨rfl, rfl, rfl⟩

/-! ## Calls of a loop -/

/-- A loop goes on only if its move did not fail, and a move that does not fail asks the table for
one row. -/
theorem nextCalls_of_loop {visits : List Visit} (h : Loop (a.next c) visits a' c') :
    ∃ given left produced, a.nextCalls c = [.next given left produced] := by
  cases hctx : c.context with
  | none =>
    rw [Adapter.next, hctx] at h
    cases h
  | some ctx => exact ⟨ctx, _, _, by rw [nextCalls, hctx]⟩

/-- **A loop asks for one row for each that it visits**, and it prepares nothing. -/
theorem Loop.observed {move : Except AdapterError Unit × Cursor σ × Adapter τ σ}
    {visits : List Visit} (h : Loop move visits a c) :
    ∃ more : List (TableCall σ), more.countP TableCall.isPrepare = 0 ∧
      more.countP TableCall.isNext = visits.length ∧
      ∀ calls, Loop (move.1, move.2.1, move.2.2.observed calls) visits
        (a.observed (calls ++ more)) c := by
  induction h with
  | atEnd eof =>
    refine ⟨[], rfl, rfl, fun calls ↦ ?_⟩
    rw [List.append_nil]
    exact .atEnd eof
  | atRow eof read later ih =>
    rename_i a a' c c' values rest
    obtain ⟨given, left, produced, hcall⟩ := nextCalls_of_loop later
    obtain ⟨more, hprepare, hnext, hloop⟩ := ih
    refine ⟨a.nextCalls c ++ more, ?_, ?_, fun calls ↦ .atRow eof read ?_⟩
    · rw [hcall, List.singleton_append, List.countP_cons_of_neg (by simp [TableCall.isPrepare]),
        hprepare]
    · rw [hcall, List.singleton_append, List.countP_cons_of_pos rfl, hnext, List.length_cons]
    · rw [next_observed, ← List.append_assoc]
      exact hloop _

/-- A loop from the start of a scan costs one call to prepare it, and one call for each row that is
visited and for the end. -/
theorem calls_of_loop_start {p : Plan} {constraints : List Constraint} {visits : List Visit}
    (h : Loop (a.start p constraints) visits a' c') :
    ∃ calls : List (TableCall σ), calls.countP TableCall.isPrepare = 1 ∧
      calls.countP TableCall.isNext = visits.length + 1 ∧
      Loop ((a.observed []).start p constraints) visits (a'.observed calls) c' := by
  obtain ⟨more, hprepare, hnext, hloop⟩ := h.observed
  have hfirst : (a.startCalls p constraints).countP TableCall.isPrepare = 1 ∧
      (a.startCalls p constraints).countP TableCall.isNext = 1 := by
    rw [start] at h
    split at h
    · cases h
    · rename_i c₀ a₀ hstart
      obtain ⟨given, left, produced, hcall⟩ := nextCalls_of_loop h
      have hcalls : a.startCalls p constraints =
          a.prepareCalls p constraints ++ [.next given left produced] := by
        rw [startCalls, hstart, ← hcall]
      rw [hcalls]
      exact ⟨rfl, rfl⟩
  refine ⟨a.startCalls p constraints ++ more, ?_, ?_, ?_⟩
  · rw [List.countP_append, hfirst.1, hprepare]
  · rw [List.countP_append, hfirst.2, hnext, Nat.add_comm]
  · rw [start_observed]
    exact hloop _

/-! ## Moves that do not fail -/

/-- A move to a row: what was in the row of the cursor is forgotten. -/
theorem next_of_produced {ctx : QueryContext σ} (hctx : c.context = some ctx)
    (hproduced : (a.table.next a.memory ctx).produced = true)
    (hfailure : (a.table.next a.memory ctx).context.failure = none) :
    a.next c =
      (.ok (),
        { context := some (a.table.next a.memory ctx).context
          row := (a.table.next a.memory ctx).row
          rowid := c.rowid + 1 },
        { a with memory := (a.table.next a.memory ctx).memory }) := by
  simp only [Adapter.next, hctx, hproduced, if_true]
  rw [Cursor.settle_eq_ok rfl hfailure]

/-- A move to the end: what the table left behind is forgotten as well. -/
theorem next_of_not_produced {ctx : QueryContext σ} (hctx : c.context = some ctx)
    (hproduced : (a.table.next a.memory ctx).produced = false)
    (hfailure : (a.table.next a.memory ctx).context.failure = none) :
    a.next c =
      (.ok (),
        { context := some (a.table.next a.memory ctx).context, row := .empty, rowid := c.rowid },
        { a with memory := (a.table.next a.memory ctx).memory }) := by
  simp only [Adapter.next, hctx, hproduced, Bool.false_eq_true, if_false]
  rw [Cursor.settle_eq_ok rfl hfailure]

theorem prepare_eq_ok {p : Plan} {constraints : List Constraint}
    (hfailure : (a.table.prepare a.memory (scanContext p constraints)).2.failure = none) :
    a.prepare p constraints =
      (.ok (),
        { context := some (a.table.prepare a.memory (scanContext p constraints)).2
          row := .empty
          rowid := 0 },
        { a with memory := (a.table.prepare a.memory (scanContext p constraints)).1 }) := by
  have hsettle (c : Cursor σ) (hc : c.context = _) : c.settle a.name = (.ok (), c) :=
    Cursor.settle_eq_ok hc hfailure a.name
  exact congrArg (fun settled ↦ (settled.1, settled.2, _)) (hsettle ⟨_, .empty, 0⟩ rfl)

/-! ## Reading a row -/

/-- In a valid table, every column can be read at the row of some cells. -/
theorem column_of_cells (hvalid : a.definition.WellFormed) {cells : List (Field × Value)}
    (hrow : c.row = .ofList cells) {index : Nat}
    (hindex : index < a.definition.columns.length) :
    a.column c index = .ok (a.definition.valueAt cells index) := by
  obtain ⟨position, column, hresolve⟩ := hvalid.exists_resolve? hindex
  have hnonneg : (0 : Int) ≤ index := Int.natCast_nonneg index
  rw [Adapter.column, if_pos hnonneg, Int.toNat_natCast, hresolve, TableDef.valueAt, hresolve]
  dsimp only
  rw [hrow, Row.get?_ofList]

theorem readRow_of_cells (hvalid : a.definition.WellFormed) {cells : List (Field × Value)}
    (hrow : c.row = .ofList cells) :
    Session.readRow a c =
      .ok ((List.range a.definition.columns.length).map (a.definition.valueAt cells)) :=
  mapM_eq_ok fun _ hindex ↦ column_of_cells hvalid hrow (List.mem_range.1 hindex)

/-! ## Tables with a fixed list of rows -/

/-- The loop from a move in the middle of a scan visits the rows that are left, up to the first one
without cells, by induction on these. -/
theorem exists_loop_next {t : VirtualTable τ σ} (hvalid : t.definition.WellFormed) {m : τ}
    {ctx : QueryContext σ} {rows : List (List (Field × Value))} (h : t.Yields m ctx rows)
    {a : Adapter τ σ} {c : Cursor σ} (htable : a.table = t) (hmemory : a.memory = m)
    (hctx : c.context = some ctx) :
    ∃ a' c', Loop (a.next c)
      (t.definition.visits (c.rowid + 1) (rows.takeWhile (!·.isEmpty))) a' c' := by
  induction h generalizing a c with
  | done hproduced hfailure =>
    subst htable hmemory
    rw [next_of_not_produced hctx hproduced hfailure]
    exact ⟨_, _, .atEnd rfl⟩
  | row hproduced hfailure hrow later ih =>
    rename_i m ctx cells rest
    subst htable hmemory
    rw [next_of_produced hctx hproduced hfailure]
    cases hempty : cells.isEmpty with
    | true =>
      -- a row without cells looks like the end, and nothing is asked for after it
      rw [List.takeWhile_cons_of_neg (by rw [hempty]; decide)]
      exact ⟨_, _, .atEnd (by rw [Cursor.eof, hrow, Row.isEmpty_ofList, hempty])⟩
    | false =>
      obtain ⟨a', c', hloop⟩ := ih
        (a := { a with memory := (a.table.next a.memory ctx).memory })
        (c := { context := some (a.table.next a.memory ctx).context
                row := (a.table.next a.memory ctx).row
                rowid := c.rowid + 1 }) rfl rfl rfl
      rw [List.takeWhile_cons_of_pos (by rw [hempty]; decide)]
      refine ⟨a', c', .atRow ?_ (readRow_of_cells hvalid hrow) hloop⟩
      rw [Cursor.eof, hrow, Row.isEmpty_ofList, hempty]

/-- The loop of a whole scan visits the rows up to the first one without cells. -/
theorem exists_loop_start_takeWhile (hvalid : a.definition.WellFormed)
    {rows : List (List (Field × Value))} (hrows : a.table.Lists rows) (p : Plan)
    (constraints : List Constraint) :
    ∃ a' c', Loop (a.start p constraints)
      (a.definition.visits 1 (rows.takeWhile (!·.isEmpty))) a' c' := by
  rw [start, prepare_eq_ok (hrows.prepare _ _ rfl)]
  exact exists_loop_next hvalid (hrows.yields _ _ rfl) rfl rfl rfl

/-- If every row has a cell, then these are all rows. -/
theorem exists_loop_start (hvalid : a.definition.WellFormed) {rows : List (List (Field × Value))}
    (hrows : a.table.Lists rows) (hne : ∀ cells ∈ rows, cells ≠ []) (p : Plan)
    (constraints : List Constraint) :
    ∃ a' c', Loop (a.start p constraints) (a.definition.visits 1 rows) a' c' := by
  have hall : rows.takeWhile (!·.isEmpty) = rows :=
    takeWhile_isEmpty_eq_self fun hmem ↦ hne [] hmem rfl
  obtain ⟨a', c', hloop⟩ := exists_loop_start_takeWhile hvalid hrows p constraints
  rw [hall] at hloop
  exact ⟨a', c', hloop⟩

/-- **The loop of an engine visits exactly the rows of the table.**  Whatever a cursor was doing, a
filter of it passes all checks or stops at one of them.  If it passes them, the loop that begins
with it visits the rows in their order, numbered from one and each with the values that were set
last.  It ends, it can go no other way, and it costs one call to prepare the scan and one call for
each row and for the end.  A filter that stops does not reach the table and changes nothing. -/
theorem loop_of_fixed_rows (hvalid : a.definition.validate = .ok ())
    {rows : List (List (Field × Value))} (hrows : a.table.Lists rows)
    (hne : ∀ cells ∈ rows, cells ≠ []) (id : Int) (values : List EngineValue) (c : Cursor σ) :
    (∀ p, a.Accepts id values p →
      ∃ a' c' calls,
        Loop (a.filter c id values) (a.definition.visits 1 rows) a' c' ∧
          (∀ visits b d, Loop (a.filter c id values) visits b d →
            visits = a.definition.visits 1 rows ∧ b = a' ∧ d = c') ∧
          Loop ((a.observed []).filter c id values) (a.definition.visits 1 rows)
            (a'.observed calls) c' ∧
          calls.countP TableCall.isPrepare = 1 ∧
          calls.countP TableCall.isNext = rows.length + 1) ∧
      (∀ e, a.Stops id values e →
        (a.observed []).filter c id values = (.error e, c, a.observed [])) ∧
      ((∃ e, a.Stops id values e) ∨ ∃ p, a.Accepts id values p) := by
  refine ⟨fun p haccepts ↦ ?_, fun e hstops ↦ ?_, a.stops_or_accepts id values⟩
  · obtain ⟨a', c', hloop⟩ :=
      exists_loop_start (TableDef.wellFormed_of_validate hvalid) hrows hne p
        (bound p.constraints values)
    obtain ⟨calls, hprepare, hnext, hwatched⟩ := calls_of_loop_start hloop
    have hacceptsWatched : (a.observed []).Accepts id values p := haccepts.congr rfl
    rw [filter_of_accepts haccepts, filter_of_accepts hacceptsWatched]
    refine ⟨a', c', calls, hloop, fun visits b d hother ↦ hother.deterministic hloop, hwatched,
      hprepare, ?_⟩
    rw [hnext, TableDef.length_visits]
  · exact filter_of_stops (hstops.congr rfl rfl)

open Session.Measurements in
/-- The second row of the measurements has its last value in `degrees`, the alias shows the column
that it stands for, and the cells that are left behind are no third row. -/
theorem loop_of_measurements :
    ∃ a' c' calls,
      Loop ((((Session.new connection).run requests).2.adapter.observed []).filter .new 1 [.null])
          [{ rowid := 1, values := [1, 12, 1].map fun n ↦ .ofValue (number n) },
            { rowid := 2, values := [2, 7, 2].map fun n ↦ .ofValue (number n) }]
          a' c' ∧
        a'.memory.calls = calls ∧ calls.countP TableCall.isPrepare = 1 ∧
        calls.countP TableCall.isNext = 3 := by
  have hne : ∀ cells ∈ script.rows.map script.fieldCells, cells ≠ [] := by decide
  have hrows : script.virtualTable.Lists (script.rows.map script.fieldCells) :=
    Sample.Script.lists_virtualTable rfl rfl
  have haccepts : ((Session.new connection).run requests).2.adapter.Accepts 1 [.null]
      ⟨1, [⟨station, .eq⟩], .ofList [station]⟩ :=
    ⟨rfl, rfl, List.forall_mem_singleton.2 EngineValue.isReadable_null⟩
  obtain ⟨a', c', calls, -, -, hloop, hprepare, hnext⟩ :=
    (loop_of_fixed_rows rfl hrows hne 1 [.null] .new).1 _ haccepts
  exact ⟨a'.observed calls, c', calls, hloop, rfl, hprepare, hnext⟩

end Adapter

end VirtualTables
