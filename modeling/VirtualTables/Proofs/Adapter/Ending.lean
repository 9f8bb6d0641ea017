import VirtualTables.Proofs.Adapter.Loop

/-!
# Where a scan ends

A table answers whether it has produced a row, but a cursor does not keep the answer.  It counts the
rows that were produced, and it is at its end whenever its row holds no cell.  So there are two ways
to come to an end: the rows are used up, or one of them has no cells.

`ending_of_script` says what this means for the tables that follow a script without failures.  Every
move asks for the next row, and the cursor is at its end if there is none *or* if the row has no
cells; a loop visits the rows up to the first one without cells, and these are all rows exactly if
every row sets a cell.  With `sparse_row_ends_loop` there is a table that produces three rows of
which a loop sees one.

The invariant is about a move and the calls that the script has noted when it was made (`Asked`):
the place in the context is one ahead of the row that was asked for, whatever the cursor made of
it.
-/

namespace VirtualTables

variable {τ σ : Type}

/-- The visits to the rows up to the first one without cells are visits to all rows only if every
row has a cell. -/
theorem TableDef.visits_takeWhile_iff {d : TableDef} {first : Nat}
    {rows : List (List (Field × Value))} :
    d.visits first (rows.takeWhile (!·.isEmpty)) = d.visits first rows ↔ [] ∉ rows := by
  constructor
  · intro h hmem
    have hlength := congrArg List.length h
    rw [length_visits, length_visits] at hlength
    have hall := (List.takeWhile_prefix _).eq_of_length hlength
    have hcells := List.takeWhile_eq_self_iff.1 hall [] hmem
    exact absurd hcells (by decide)
  · intro hmem
    rw [takeWhile_isEmpty_eq_self hmem]

namespace Adapter

/-- A move, followed by some calls of `next`. -/
def movesAfter (move : Except AdapterError Unit × Cursor σ × Adapter τ σ) :
    Nat → Except AdapterError Unit × Cursor σ × Adapter τ σ
  | 0 => move
  | n + 1 => movesAfter (move.2.2.next move.2.1) n

/-- In a scan, a call of `next` is one call of the table. -/
theorem nextCalls_of_context {a : Adapter τ σ} {c : Cursor σ} {ctx : QueryContext σ}
    (hctx : c.context = some ctx) :
    a.nextCalls c =
      [.next ctx (a.table.next a.memory ctx).context (a.table.next a.memory ctx).produced] := by
  rw [nextCalls, hctx]

end Adapter

open Adapter

namespace Sample.Script

variable {s : Script} {number : Nat}

/-! ## Moves that ask a script for a row -/

/-- The next row that the cursor asks for is the one of a number. -/
def AsksFor (c : Cursor Place) (number : Nat) : Prop :=
  ∃ ctx, c.context = some ctx ∧ ctx.state = some (.position number) ∧ ctx.failure = none

/-- A move has asked a script for the row of a number, and `calls` are the calls that the script has
noted until then. -/
structure Asked (s : Script) (number : Nat) (calls : List (TableCall Place))
    (move : Except AdapterError Unit × Cursor Place × Adapter Usage Place) : Prop where
  answer : move.1 = .ok ()
  table : move.2.2.table = s.virtualTable
  place : AsksFor move.2.1 (number + 1)
  noted : ∃ before given left,
    calls = before ++ [.next given left (decide (number < s.rows.length))] ∧
      before.countP TableCall.isNext = number
  eof : move.2.1.eof = true ↔
    s.rows.length ≤ number ∨ (s.rows.map s.fieldCells)[number]? = some []

/-- A call of `next` asks for one row. -/
theorem asked_next (hfail : s.failAt = none) {a : Adapter Usage Place}
    (htable : a.table = s.virtualTable) {c : Cursor Place} (hplace : AsksFor c number)
    {calls : List (TableCall Place)} (hcalls : calls.countP TableCall.isNext = number) :
    s.Asked number (calls ++ a.nextCalls c) (a.next c) := by
  obtain ⟨ctx, hctx, hstate, hfailure⟩ := hplace
  cases hcells : s.rows[number]? with
  | none =>
    have hlen : s.rows.length ≤ number := List.getElem?_eq_none_iff.1 hcells
    have hstep := next_of_end hfail a.memory hstate hcells
    rw [← htable] at hstep
    have hnext := next_of_not_produced hctx (by rw [hstep, atEnd])
      (by rw [hstep]; exact hfailure)
    refine ⟨by rw [hnext], by rw [hnext]; exact htable, ?_, ?_, ?_⟩
    · rw [hnext, hstep]
      exact ⟨_, rfl, rfl, hfailure⟩
    · refine ⟨calls, ctx, ctx.setState (.position (number + 1)), ?_, hcalls⟩
      rw [nextCalls_of_context hctx, hstep, decide_eq_false (Nat.not_lt.2 hlen), atEnd]
    · rw [hnext]
      exact iff_of_true rfl (.inl hlen)
  | some cells =>
    have hlen : number < s.rows.length := (List.getElem?_eq_some_iff.1 hcells).1
    have hstep := next_of_row hfail a.memory hstate hcells
    rw [← htable] at hstep
    have hnext := next_of_produced hctx (by rw [hstep]) (by rw [hstep]; exact hfailure)
    refine ⟨by rw [hnext], by rw [hnext]; exact htable, ?_, ?_, ?_⟩
    · rw [hnext, hstep]
      exact ⟨_, rfl, rfl, hfailure⟩
    · refine ⟨calls, ctx, ctx.setState (.position (number + 1)), ?_, hcalls⟩
      rw [nextCalls_of_context hctx, hstep, decide_eq_true hlen]
    · rw [hnext, hstep, Cursor.eof, Row.isEmpty_ofList, List.isEmpty_iff, List.getElem?_map, hcells,
        Option.map_some, Option.some_inj, or_iff_right (Nat.not_le.2 hlen)]

/-- A scan begins with the first row. -/
theorem asked_start (hprepare : s.failPrepare = none) (hfail : s.failAt = none)
    {a : Adapter Usage Place} (htable : a.table = s.virtualTable) (p : Plan)
    (constraints : List Constraint) :
    s.Asked 0 (a.startCalls p constraints) (a.start p constraints) := by
  have hfailure : (a.table.prepare a.memory (scanContext p constraints)).2.failure = none := by
    rw [htable]
    exact (lists_virtualTable hprepare hfail).prepare _ _ rfl
  rw [startCalls, start, prepare_eq_ok hfailure]
  have hstate :
      (a.table.prepare a.memory (scanContext p constraints)).2.state = some (.position 0) := by
    rw [htable]
    rfl
  have hplace : AsksFor { context := some (a.table.prepare a.memory (scanContext p constraints)).2
                          row := .empty
                          rowid := 0 } 0 :=
    ⟨_, rfl, hstate, hfailure⟩
  have hcount : (a.prepareCalls p constraints).countP TableCall.isNext = 0 := rfl
  exact asked_next
    (a := { a with memory := (a.table.prepare a.memory (scanContext p constraints)).1 })
    hfail htable hplace hcount

/-- Every further call asks for one further row, by induction on their number. -/
theorem Asked.movesAfter (hfail : s.failAt = none) {calls : List (TableCall Place)}
    {move : Except AdapterError Unit × Cursor Place × Adapter Usage Place}
    (h : s.Asked number calls move) (n : Nat) :
    s.Asked (number + n)
      (movesAfter (move.1, move.2.1, move.2.2.observed calls) n).2.2.memory.calls
      (movesAfter move n) := by
  induction n generalizing number calls move with
  | zero => exact h
  | succ n ih =>
    obtain ⟨before, given, left, rfl, hbefore⟩ := h.noted
    have hcount : (before ++ [TableCall.next given left (decide (number < s.rows.length))]).countP
        TableCall.isNext = number + 1 := by
      rw [List.countP_append, hbefore]
      rfl
    have hnext := ih (asked_next hfail h.table h.place hcount)
    rw [Nat.add_right_comm] at hnext
    rwa [Adapter.movesAfter, Adapter.movesAfter, next_observed]

end Sample.Script

namespace Adapter

open Sample

/-- **A scan of a script ends where a row has no cells.**  After a filter that is accepted and any
number of calls of `next`, each of which has asked for one row, the cursor is at its end if no row
was produced in this call, and also if the row that was produced has no cells.  So the loop of an
engine visits the rows up to the first one without cells, and it visits all of them only if there is
none. -/
theorem ending_of_script {s : Script} (hvalid : s.definition.validate = .ok ())
    (hprepare : s.failPrepare = none) (hfail : s.failAt = none) {a : Adapter Usage Place}
    (htable : a.table = s.virtualTable) {id : Int} {values : List EngineValue} {p : Plan}
    (haccepts : a.Accepts id values p) (c : Cursor Place) :
    (∀ n, ∃ before given left produced,
        (movesAfter ((a.observed []).filter c id values) n).2.2.memory.calls =
            before ++ [.next given left produced] ∧
          before.countP TableCall.isNext = n ∧
          (movesAfter (a.filter c id values) n).1 = .ok () ∧
          ((movesAfter (a.filter c id values) n).2.1.eof = true ↔
            produced = false ∨ (s.rows.map s.fieldCells)[n]? = some [])) ∧
      (∃ a' c', Loop (a.filter c id values)
        (s.definition.visits 1 ((s.rows.map s.fieldCells).takeWhile (!·.isEmpty))) a' c') ∧
      ∀ visits a' c', Loop (a.filter c id values) visits a' c' →
        (visits = s.definition.visits 1 (s.rows.map s.fieldCells) ↔
          [] ∉ s.rows.map s.fieldCells) := by
  have hdef : a.definition = s.definition := congrArg VirtualTable.definition htable
  have hwell : a.definition.WellFormed := by
    rw [hdef]
    exact TableDef.wellFormed_of_validate hvalid
  have hlists : a.table.Lists (s.rows.map s.fieldCells) := by
    rw [htable]
    exact Script.lists_virtualTable hprepare hfail
  have hloop := exists_loop_start_takeWhile hwell hlists p (bound p.constraints values)
  rw [hdef] at hloop
  rw [filter_observed, filterCalls_of_accepts haccepts, filter_of_accepts haccepts,
    List.nil_append]
  refine ⟨fun n ↦ ?_, hloop, fun visits a' c' hvisits ↦ ?_⟩
  · have hasked := (Script.asked_start hprepare hfail htable p
      (bound p.constraints values)).movesAfter hfail n
    rw [Nat.zero_add] at hasked
    obtain ⟨before, given, left, hcalls, hcount⟩ := hasked.noted
    refine ⟨before, given, left, _, hcalls, hcount, hasked.answer, ?_⟩
    rw [hasked.eof, decide_eq_false_iff_not, Nat.not_lt]
  · obtain ⟨b, d, hloop⟩ := hloop
    obtain ⟨rfl, -, -⟩ := hvisits.deterministic hloop
    exact TableDef.visits_takeWhile_iff

/-! ### A table with a row in between that sets nothing -/

namespace Sparse

/-- The schema of the table. -/
def schema : Schema :=
  ⟨.shared, "s"⟩

def number (n : Int) : Value :=
  .integer .int8 (.wrap .int8 n)

/-- The second of the three rows sets no cell. -/
def script : Script where
  definition :=
    { schema := schema
      columns := [.plain (.inSchema schema (.integer .int8) "a")]
      attributes := [] }
  rows := [[(0, number 1)], [], [(0, number 3)]]
  failPrepare := none
  failAt := none
  dirtyEnd := false

/-- A connection to the table, after a query that reads no column. -/
def connection : Adapter Usage Place :=
  (bestIndex { table := script.virtualTable, memory := .counting, backlog := .new 20 } [] 0).2

end Sparse

open Sparse

/-- **A row without cells ends the loop.**  Nothing is wrong with the definition, nothing fails, and
in the second move of the scan the table answers that it has produced a row.  The cursor is at its
end all the same, and the loop visits one row of three. -/
theorem sparse_row_ends_loop :
    script.definition.validate = .ok () ∧ script.failPrepare = none ∧ script.failAt = none ∧
      (∃ before given left,
        (movesAfter ((connection.observed []).filter .new 1 []) 1).2.2.memory.calls =
          before ++ [.next given left true]) ∧
      (movesAfter (connection.filter .new 1 []) 1).2.1.eof = true ∧
      script.rows.length = 3 ∧
      ∃ visits a' c', Loop (connection.filter .new 1 []) visits a' c' ∧ visits.length = 1 := by
  exact ⟨rfl, rfl, rfl, ⟨_, _, _, rfl⟩, rfl, rfl, _, _, _, .atRow rfl rfl (.atEnd rfl), rfl⟩

/-- The general statement at these rows. -/
theorem ending_of_sparse_rows :
    (movesAfter (connection.filter .new 1 []) 1).2.1.eof = true ∧
      (∃ a' c', Loop (connection.filter .new 1 [])
        [{ rowid := 1, values := [.ofValue (number 1)] }] a' c') ∧
      ∀ visits a' c', Loop (connection.filter .new 1 []) visits a' c' →
        visits ≠ script.definition.visits 1 (script.rows.map script.fieldCells) := by
  have haccepts : connection.Accepts 1 [] ⟨1, [], .empty⟩ := ⟨rfl, rfl, List.forall_mem_nil _⟩
  have hsecond : (script.rows.map script.fieldCells)[1]? = some [] := rfl
  obtain ⟨hmoves, hvisited, hall⟩ :=
    ending_of_script (s := script) rfl rfl rfl (a := connection) rfl haccepts .new
  obtain ⟨_, _, _, _, -, -, -, heof⟩ := hmoves 1
  refine ⟨heof.2 (.inr hsecond), hvisited, fun visits a' c' hloop hvisits ↦ ?_⟩
  exact (hall visits a' c' hloop).1 hvisits (List.mem_of_getElem? hsecond)

end Adapter

end VirtualTables
