import VirtualTables.Proofs.Adapter.Atomicity
import VirtualTables.Proofs.Adapter.ContextUses
import VirtualTables.Proofs.Adapter.Ending
import VirtualTables.Proofs.Adapter.Refiltering

/-!
# The account of a cursor

A cursor has a context, a row, and a number, and the context has a place for the message of a
failure.  These four change together, when a filter or a move reaches the table.  The table may fail
while it prepares a scan, while it produces a row, or at the end, and it may leave cells behind that
are no row.

`Adapter.Settles` says once what such a move makes of the four, and everything else is derived from
it: `account_of_answer` is the account of one request, `account_of_run` that of a run, and
`account_of_cursor` adds how the next move will be answered.  What the table has done with its
context is described by its uses of it (`ContextUse`).

Two things are not as one might think, and `account_exceptions` has both of them: a table can take
its failure back before anyone has seen it, and a filter with as many values as its plan takes can
still stop before it has touched the cursor.
-/

namespace VirtualTables

variable {τ σ : Type}

open ContextUse

open TableCall

/-! ## Moves that reach the table -/

/-- The answer to a move after which a failure is found in the context, or none. -/
def TableError.answer (tableName : String) : Option String → Except AdapterError Unit
  | none => .ok ()
  | some message => .error (.table (.tableFailed tableName message))

theorem TableError.answer_eq_error_iff {tableName : String} {failure : Option String}
    {e : AdapterError} :
    TableError.answer tableName failure = .error e ↔
      ∃ message, failure = some message ∧ e = .table (.tableFailed tableName message) := by
  cases failure with
  | none => simp [TableError.answer]
  | some message => simp [TableError.answer, eq_comm]

/-- No failure is left in the context of the cursor. -/
def Cursor.IsClean (c : Cursor σ) : Prop :=
  ∀ ctx, c.context = some ctx → ctx.failure = none

theorem Cursor.settle_eq (ctx : QueryContext σ) (row : Row) (rowid : Nat) (tableName : String) :
    Cursor.settle { context := some ctx, row, rowid } tableName =
      (TableError.answer tableName ctx.failure,
        { context := some ctx.takeFailure.2
          row := if ctx.failure = none then row else .empty
          rowid }) := by
  rw [settle]
  cases hfailure : ctx.failure <;> simp [QueryContext.takeFailure, hfailure, TableError.answer]

namespace Adapter

variable {a : Adapter τ σ} {c : Cursor σ} {ctx left : QueryContext σ} {p : Plan}
  {constraints : List Constraint}

/-- Where a move puts the cursor and how it is answered, if it has reached the table with some calls
and `left` is the context that the last one has left.  The number of the cursor counts on from
`first`. -/
structure Settles (a : Adapter τ σ) (first : Nat) (calls : List (TableCall σ))
    (left : QueryContext σ) (move : Except AdapterError Unit × Cursor σ × Adapter τ σ) : Prop where
  ofMove : OfMove calls left
  answer : move.1 = TableError.answer a.name left.failure
  context : move.2.1.context = some left.takeFailure.2
  row : left.failure ≠ none → move.2.1.row = .empty
  rowid : move.2.1.rowid = first + calls.countP hasProduced

section Settled

variable {first : Nat} {calls : List (TableCall σ)}
  {move : Except AdapterError Unit × Cursor σ × Adapter τ σ}

theorem Settles.isClean (h : a.Settles first calls left move) : move.2.1.IsClean := by
  intro ctx hctx
  rw [← Option.some_inj.1 (h.context.symm.trans hctx)]
  rfl

theorem Settles.answer_eq_error_iff (h : a.Settles first calls left move)
    {parts : List (List ContextUse)} (hparts : List.Forall₂ Uses calls parts) {e : AdapterError} :
    move.1 = .error e ↔
      ∃ message, Stands message parts.flatten ∧ e = .table (.tableFailed a.name message) := by
  simp only [h.answer, TableError.answer_eq_error_iff, h.ofMove.failure_eq_some_iff hparts]

theorem Settles.exists_error_iff (h : a.Settles first calls left move)
    {parts : List (List ContextUse)} (hparts : List.Forall₂ Uses calls parts) :
    (∃ e, move.1 = .error e) ↔ ∃ message, Stands message parts.flatten := by
  simp only [h.answer_eq_error_iff hparts]
  constructor
  · rintro ⟨_, message, hstands, -⟩
    exact ⟨message, hstands⟩
  · rintro ⟨message, hstands⟩
    exact ⟨_, message, hstands, rfl⟩

theorem Settles.code_of_error (h : a.Settles first calls left move) {e : AdapterError}
    (he : move.1 = .error e) :
    ∃ failure : TableError, e = .table failure ∧ failure.code = "VTAB_004" := by
  rw [h.answer, TableError.answer_eq_error_iff] at he
  obtain ⟨message, -, rfl⟩ := he
  exact ⟨_, rfl, rfl⟩

/-- After a failure the cursor is at no row. -/
theorem Settles.row_of_error (h : a.Settles first calls left move) {e : AdapterError}
    (he : move.1 = .error e) : move.2.1.row = .empty := by
  rw [h.answer, TableError.answer_eq_error_iff] at he
  obtain ⟨message, hleft, -⟩ := he
  exact h.row (by rw [hleft]; simp)

end Settled

theorem settles_next (hctx : c.context = some ctx) (hfailure : ctx.failure = none) :
    a.Settles c.rowid (a.nextCalls c) (a.table.next a.memory ctx).context (a.next c) := by
  have hcalls := nextCalls_of_context (a := a) hctx
  simp only [Adapter.next, hctx, Cursor.settle_eq]
  refine ⟨?_, rfl, rfl, fun hleft ↦ if_neg hleft, ?_⟩
  · rw [hcalls]
    exact .next hfailure
  · rw [hcalls]
    cases hproduced : (a.table.next a.memory ctx).produced <;> simp [hasProduced]

theorem prepare_eq_error {message : String}
    (hleft : (a.table.prepare a.memory (scanContext p constraints)).2.failure = some message) :
    a.prepare p constraints =
      (.error (.table (.tableFailed a.name message)),
        { context := some (a.table.prepare a.memory (scanContext p constraints)).2.takeFailure.2
          row := .empty
          rowid := 0 },
        { a with memory := (a.table.prepare a.memory (scanContext p constraints)).1 }) := by
  rw [scanContext] at hleft
  simp only [prepare, Cursor.settle_eq, hleft, TableError.answer, scanContext, reduceCtorEq,
    if_false]

theorem settles_start (a : Adapter τ σ) (p : Plan) (constraints : List Constraint) :
    ∃ left, a.Settles 0 (a.startCalls p constraints) left (a.start p constraints) := by
  cases hleft : (a.table.prepare a.memory (scanContext p constraints)).2.failure with
  | none =>
    rw [start, startCalls, prepare_eq_ok hleft]
    -- the row is asked for with the context that preparing has left
    have hnext := settles_next (c := { context := some _, row := .empty, rowid := 0 })
      (a := { a with memory := (a.table.prepare a.memory (scanContext p constraints)).1 }) rfl hleft
    refine ⟨_, .prepared rfl hleft, hnext.answer, hnext.context, hnext.row, ?_⟩
    have hprepare : (a.prepareCalls p constraints).countP hasProduced = 0 := rfl
    rw [hnext.rowid, List.countP_append, hprepare]
    simp only [Nat.zero_add]
  | some message =>
    rw [start, startCalls, prepare_eq_error hleft]
    refine ⟨_, .prepareFailed rfl (by rw [hleft]; simp), ?_, rfl, fun _ ↦ rfl, rfl⟩
    rw [hleft]
    rfl

/-- A move on asks the table for at most one row. -/
theorem countP_nextCalls_le (a : Adapter τ σ) (c : Cursor σ) :
    (a.nextCalls c).countP hasProduced ≤ 1 := by
  refine Nat.le_trans List.countP_le_length ?_
  rw [nextCalls]
  split
  · exact Nat.zero_le 1
  · exact Nat.le_refl 1

/-- A filter asks the table for at most one row. -/
theorem countP_filterCalls_le (a : Adapter τ σ) (plan : Int) (values : List EngineValue) :
    (a.filterCalls plan values).countP hasProduced ≤ 1 := by
  obtain ⟨e, hstops⟩ | ⟨p, haccepts⟩ := a.stops_or_accepts plan values
  · rw [filterCalls_of_stops hstops]
    exact Nat.zero_le 1
  · rw [filterCalls_of_accepts haccepts, startCalls]
    split
    · exact Nat.zero_le 1
    · rw [List.countP_append]
      exact Nat.le_trans (Nat.add_le_add (Nat.le_refl 0) (countP_nextCalls_le _ _)) (Nat.le_refl 1)

/-- Every column is null at a cursor that is at no row. -/
theorem column_of_empty (hvalid : a.definition.WellFormed) (hrow : c.row = .empty) {index : Nat}
    (hindex : index < a.definition.columns.length) : a.column c index = .ok .null := by
  have hcells : c.row = .ofList [] := hrow
  rw [column_of_cells hvalid hcells hindex, TableDef.valueAt_nil]

end Adapter

open Adapter

namespace Session

variable {s : Session τ σ} {k : Nat} {r : Request} {c d : Cursor σ}

/-! ## Scans of a cursor -/

/-- The request is a filter of the cursor that is accepted. -/
def StartsScan (s : Session τ σ) (k : Nat) (r : Request) : Prop :=
  ∃ plan values p, r = .filter k plan values ∧ (s.cursor? k).isSome ∧
    s.adapter.Accepts plan values p

/-- None of the requests is a filter of the cursor that is accepted. -/
def NoScan (s : Session τ σ) (k : Nat) (requests : List Request) : Prop :=
  ∀ before r after, requests = before ++ r :: after → ¬(s.run before).2.StartsScan k r

/-- The requests are split at the last one that starts a scan of the cursor. -/
structure LastScan (s : Session τ σ) (k : Nat) (requests before : List Request) (r : Request)
    (after : List Request) : Prop where
  split : requests = before ++ r :: after
  starts : (s.run before).2.StartsScan k r
  last : (s.run (before ++ [r])).2.NoScan k after

/-- The calls that the table notes for the requests about a cursor, of all that it notes. -/
def callsAbout (s : Session τ σ) (k : Nat) : List Request → List (TableCall σ)
  | [] => []
  | r :: rest =>
    (if r.about? = some k then s.tableCalls [r] else []) ++ (s.answer r).2.callsAbout k rest

theorem not_startsScan (h : ∀ plan values, r ≠ .filter k plan values) : ¬s.StartsScan k r := by
  rintro ⟨plan, values, p, hr, -⟩
  exact h plan values hr

theorem StartsScan.about? (h : s.StartsScan k r) : r.about? = some k := by
  obtain ⟨plan, values, p, rfl, -⟩ := h
  rfl

theorem noScan_nil : s.NoScan k [] := by
  intro before r after h
  exact absurd h (by simp)

theorem NoScan.concat {requests : List Request} (h : s.NoScan k requests)
    (hr : ¬(s.run requests).2.StartsScan k r) : s.NoScan k (requests ++ [r]) := by
  intro before r' after heq
  obtain ⟨rfl, rfl, -⟩ | ⟨rest, -, hrest⟩ := append_singleton_eq_append_cons heq
  · exact hr
  · exact h before r' rest hrest

theorem LastScan.concat {requests before after : List Request} {r' : Request}
    (h : s.LastScan k requests before r after) (hr : ¬(s.run requests).2.StartsScan k r') :
    s.LastScan k (requests ++ [r']) before r (after ++ [r']) where
  split := by rw [h.split, List.append_assoc, List.cons_append]
  starts := h.starts
  last := by
    refine h.last.concat ?_
    rwa [← run_append, List.append_assoc, List.singleton_append, ← h.split]

theorem callsAbout_append (s : Session τ σ) (k : Nat) (xs ys : List Request) :
    s.callsAbout k (xs ++ ys) = s.callsAbout k xs ++ (s.run xs).2.callsAbout k ys := by
  induction xs generalizing s with
  | nil => rfl
  | cons r rest ih => rw [List.cons_append, callsAbout, callsAbout, ih, run_cons, List.append_assoc]

/-- The calls of a request, if it is about the cursor. -/
theorem callsAbout_singleton (s : Session τ σ) (k : Nat) (r : Request) :
    s.callsAbout k [r] = if r.about? = some k then s.callsOf r else [] := by
  rw [callsAbout, callsAbout, List.append_nil, tableCalls_singleton]

/-- Only a request about a cursor calls the table. -/
theorem callsOf_of_about?_eq_none (h : r.about? = none) : s.callsOf r = [] := by
  cases r with
  | bestIndex | openCursor => rfl
  | closeCursor | filter | next | position | column | row => simp [Request.about?] at h

/-- A move asks the table for at most one row. -/
theorem countP_callsOf_le (s : Session τ σ) (r : Request) :
    (s.callsOf r).countP hasProduced ≤ 1 := by
  cases r with
  | bestIndex | openCursor | closeCursor | position | column | row => exact Nat.zero_le 1
  | next k =>
    rw [callsOf]
    cases s.cursor? k with
    | none => exact Nat.zero_le 1
    | some c => exact countP_nextCalls_le s.adapter c
  | filter k plan values =>
    rw [callsOf]
    split
    · exact countP_filterCalls_le s.adapter plan values
    · exact Nat.zero_le 1

/-- The requests about a cursor ask the table for at most one row each. -/
theorem countP_callsAbout_le (requests : List Request) :
    (s.callsAbout k requests).countP hasProduced ≤ requests.length := by
  induction requests generalizing s with
  | nil => exact Nat.le_refl 0
  | cons r rest ih =>
    have hcalls : (if r.about? = some k then s.tableCalls [r] else []).countP hasProduced ≤ 1 := by
      split
      · rw [tableCalls_singleton]
        exact s.countP_callsOf_le r
      · exact Nat.zero_le 1
    rw [callsAbout, List.countP_append, List.length_cons, Nat.add_comm]
    exact Nat.add_le_add ih hcalls

/-- All that the table notes is about the cursor, as long as no other cursor is asked for. -/
theorem callsAbout_eq_tableCalls {requests : List Request}
    (honly : ∀ r ∈ requests, ∀ j, r.about? = some j → j = k) :
    s.callsAbout k requests = s.tableCalls requests := by
  induction requests generalizing s with
  | nil => rfl
  | cons r rest ih =>
    rw [List.forall_mem_cons] at honly
    rw [callsAbout, tableCalls_singleton, ih honly.2, tableCalls_cons]
    cases habout : r.about? with
    | none => rw [callsOf_of_about?_eq_none habout, ite_self]
    | some j => rw [if_pos (congrArg some (honly.1 j habout))]

section Move

variable {move : Except AdapterError Unit × Cursor σ × Adapter τ σ}

theorem about?_of_moves (h : s.adapter.Moves k c r move) : r.about? = some k := by
  cases h with
  | filter | next => rfl

theorem answer_of_moves (hopen : s.cursor? k = some c) (h : s.adapter.Moves k c r move) :
    s.answer r = s.moved k move := by
  cases h with
  | filter | next => rw [answer, withCursor, hopen]

theorem definition_of_moves (h : s.adapter.Moves k c r move) :
    move.2.2.definition = s.adapter.definition := by
  cases h with
  | filter => rw [Adapter.definition, table_filter, Adapter.definition]
  | next => rw [Adapter.definition, table_next, Adapter.definition]

/-- **What a move does.**  It does not reach the table, and leaves the cursor with its context and
its number, or it reaches the table in a scan that it starts, or in the one that the cursor is
in. -/
theorem cases_of_moves (hopen : s.cursor? k = some c) (hclean : c.IsClean)
    (h : s.adapter.Moves k c r move) :
    (s.callsOf r = [] ∧ ¬s.StartsScan k r ∧ move.2.1.context = c.context ∧
        move.2.1.rowid = c.rowid ∧ (c = .new → move.2.1 = .new)) ∨
      (∃ left, s.StartsScan k r ∧ s.adapter.Settles 0 (s.callsOf r) left move) ∨
      ∃ left, ¬s.StartsScan k r ∧ c.context ≠ none ∧
        s.adapter.Settles c.rowid (s.callsOf r) left move := by
  cases h with
  | filter plan values =>
    obtain ⟨e, hstops, hfilter⟩ | ⟨p, haccepts, hfilter⟩ := s.adapter.filter_cases c plan values
    · refine .inl ⟨callsOf_of_stops hstops, ?_, by rw [hfilter], by rw [hfilter],
        fun h ↦ by rw [hfilter, h]⟩
      rintro ⟨_, _, p, heq, -, haccepts⟩
      cases heq
      exact haccepts.not_stops e hstops
    · obtain ⟨left, hsettles⟩ := s.adapter.settles_start p (bound p.constraints values)
      refine .inr (.inl ⟨left, ⟨plan, values, p, rfl, by rw [hopen]; rfl, haccepts⟩, ?_⟩)
      have hcalls : s.callsOf (.filter k plan values) =
          s.adapter.startCalls p (bound p.constraints values) := by
        rw [callsOf, hopen, Option.isSome_some, if_pos rfl, filterCalls_of_accepts haccepts]
      rwa [hfilter, hcalls]
  | next =>
    have hstarts : ¬s.StartsScan k (.next k) := not_startsScan (by simp)
    have hcalls : s.callsOf (.next k) = s.adapter.nextCalls c := by
      rw [callsOf, hopen]
      rfl
    rw [hcalls]
    cases hctx : c.context with
    | none =>
      have hnext : s.adapter.next c =
          (.error .notFiltered, { c with row := .empty }, s.adapter) := by
        rw [Adapter.next, hctx]
      rw [hnext]
      refine .inl ⟨by rw [nextCalls, hctx], hstarts, hctx, rfl, fun h ↦ by rw [h]; rfl⟩
    | some ctx =>
      exact .inr (.inr ⟨_, hstarts, by simp, settles_next hctx (hclean ctx hctx)⟩)

theorem exists_settles_of_moves (hopen : s.cursor? k = some c) (hclean : c.IsClean)
    (h : s.adapter.Moves k c r move) (hcalls : s.callsOf r ≠ []) :
    ∃ first left, s.adapter.Settles first (s.callsOf r) left move := by
  obtain ⟨hnone, -⟩ | ⟨left, -, hsettles⟩ | ⟨left, -, -, hsettles⟩ := cases_of_moves hopen hclean h
  · exact absurd hnone hcalls
  · exact ⟨0, left, hsettles⟩
  · exact ⟨c.rowid, left, hsettles⟩

end Move

/-- A cursor that was not filtered cannot be moved on. -/
theorem answer_next_of_new (hopen : s.cursor? k = some .new) :
    s.answer (.next k) = (.moved (some AdapterError.notFiltered.summary) true 0, s) ∧
      s.callsOf (.next k) = [] := by
  have hset := s.set_cursor? k
  rw [hopen] at hset
  constructor
  · have hnext : s.adapter.next .new = (.error .notFiltered, .new, s.adapter) := rfl
    simp only [answer, withCursor, hopen, hnext, moved, hset]
    rfl
  · rw [callsOf, hopen]
    rfl

/-- A cursor that is open after a request was moved by it, or is where it was. -/
theorem cursor?_answer_cases (hk : k < s.cursors.length)
    (hafter : (s.answer r).2.cursor? k = some d) :
    ∃ c, s.cursor? k = some c ∧
      ((∃ move, s.adapter.Moves k c r move ∧ d = move.2.1) ∨
        d = c ∧ ¬s.StartsScan k r ∧ (r.about? = some k → s.callsOf r = [])) := by
  by_cases habout : r.about? = some k
  · cases hopen : s.cursor? k with
    | none =>
      rw [answer_of_closed hopen habout, hopen] at hafter
      exact absurd hafter (by simp)
    | some c =>
      refine ⟨c, rfl, ?_⟩
      obtain ⟨-, hclosed⟩ | ⟨move, hmoves, hanswer⟩ | ⟨hsame, hlooks⟩ := answer_cases hopen habout
      · exact absurd (hclosed.symm.trans hafter) (by simp)
      · rw [hanswer, cursor?_moved hk] at hafter
        exact .inl ⟨move, hmoves, (Option.some_inj.1 hafter).symm⟩
      · rw [hsame, hopen] at hafter
        refine .inr ⟨(Option.some_inj.1 hafter).symm, ?_⟩
        obtain rfl | ⟨index, rfl⟩ | rfl := hlooks
        all_goals exact ⟨not_startsScan (by simp), fun _ ↦ rfl⟩
  · rw [cursor?_answer_of_ne hk habout] at hafter
    refine ⟨d, hafter, .inr ⟨rfl, not_startsScan ?_, fun h ↦ absurd h habout⟩⟩
    rintro plan values rfl
    exact habout rfl

theorem length_cursors_run (s : Session τ σ) (requests : List Request) :
    s.cursors.length ≤ (s.run requests).2.cursors.length := by
  induction requests generalizing s with
  | nil => exact Nat.le_refl _
  | cons r rest ih => exact Nat.le_trans (s.length_cursors_answer r) (ih _)

/-- **The account of one request.**  If the cursor had no failure left in its context, it has none
after the request.  A request that starts a scan begins to count, and any other one counts on. -/
theorem account_of_answer (hk : k < s.cursors.length)
    (hafter : (s.answer r).2.cursor? k = some d) :
    ∃ c, s.cursor? k = some c ∧ (c.IsClean → d.IsClean ∧
      (s.StartsScan k r ∧ d.rowid = (s.callsAbout k [r]).countP hasProduced ∨
        ¬s.StartsScan k r ∧ (c = .new → d = .new) ∧
          d.rowid = c.rowid + (s.callsAbout k [r]).countP hasProduced)) := by
  rw [callsAbout_singleton]
  obtain ⟨c, hopen, ⟨move, hmoves, rfl⟩ | ⟨rfl, hstarts, hcalls⟩⟩ := cursor?_answer_cases hk hafter
  · refine ⟨c, hopen, fun hclean ↦ ?_⟩
    rw [if_pos (about?_of_moves hmoves)]
    obtain ⟨hcalls, hstarts, hcontext, hrowid, hnew⟩ | ⟨left, hstarts, hsettles⟩ |
      ⟨left, hstarts, hcontext, hsettles⟩ := cases_of_moves hopen hclean hmoves
    · refine ⟨fun ctx hctx ↦ hclean ctx (hcontext.symm.trans hctx), .inr ⟨hstarts, hnew, ?_⟩⟩
      rw [hcalls, hrowid]
      rfl
    · refine ⟨hsettles.isClean, .inl ⟨hstarts, ?_⟩⟩
      rw [hsettles.rowid, Nat.zero_add]
    · refine ⟨hsettles.isClean, .inr ⟨hstarts, ?_, hsettles.rowid⟩⟩
      rintro rfl
      exact absurd rfl hcontext
  · refine ⟨d, hopen, fun hclean ↦ ⟨hclean, .inr ⟨hstarts, id, ?_⟩⟩⟩
    split
    · rw [hcalls ‹_›]
      rfl
    · rfl

/-- **The account of a run**, by induction on the requests from the last one: no failure is left in
the context of the cursor, and the cursor is as new before the first scan and counts the rows of the
last one. -/
theorem account_of_run (hnew : s.cursor? k = some .new) (requests : List Request)
    (hopen : (s.run requests).2.cursor? k = some c) :
    c.IsClean ∧
      (s.NoScan k requests ∧ c = .new ∨
        ∃ before r after, s.LastScan k requests before r after ∧
          c.rowid = ((s.run before).2.callsAbout k (r :: after)).countP hasProduced) := by
  induction requests using List.reverseRecOn generalizing c with
  | nil =>
    obtain rfl := Option.some_inj.1 (hnew.symm.trans hopen)
    exact ⟨fun ctx hctx ↦ absurd hctx (by simp [Cursor.new]), .inl ⟨noScan_nil, rfl⟩⟩
  | append_singleton requests r ih =>
    have hk : k < (s.run requests).2.cursors.length :=
      Nat.lt_of_lt_of_le (lt_length_of_cursor? hnew) (s.length_cursors_run requests)
    rw [run_append] at hopen
    obtain ⟨b, hb, haccount⟩ := account_of_answer hk hopen
    obtain ⟨hclean, hcount⟩ := ih hb
    -- either a scan starts with this request, or the last one goes on
    obtain ⟨hclean', ⟨hstarts, hrowid⟩ | ⟨hstarts, hkept, hrowid⟩⟩ := haccount hclean
    · exact ⟨hclean', .inr ⟨requests, r, [], ⟨rfl, hstarts, noScan_nil⟩, hrowid⟩⟩
    · refine ⟨hclean', ?_⟩
      obtain ⟨hnone, rfl⟩ | ⟨before, r', after, hlast, hcounted⟩ := hcount
      · exact .inl ⟨hnone.concat hstarts, hkept rfl⟩
      · refine .inr ⟨before, r', after ++ [r], hlast.concat hstarts, ?_⟩
        rw [← List.cons_append, callsAbout_append, List.countP_append, ← run_append, ← hlast.split,
          ← hcounted, hrowid]

/-- The number of a cursor is at most the number of requests. -/
theorem rowid_le_length_run (hnew : s.cursor? k = some .new) {requests : List Request}
    (hopen : (s.run requests).2.cursor? k = some c) : c.rowid ≤ requests.length := by
  obtain ⟨-, ⟨-, rfl⟩ | ⟨before, r, after, hlast, hrowid⟩⟩ := account_of_run hnew requests hopen
  · exact Nat.zero_le _
  · have hcalls := countP_callsAbout_le (s := (s.run before).2) (k := k) (r :: after)
    rw [hlast.split, List.length_append, hrowid]
    exact Nat.le_add_left_of_le hcalls

/-- So it is the same number in 64 bits with a sign, unless there are `2 ^ 63` requests. -/
theorem toInt_rowid_run (hnew : s.cursor? k = some .new) {requests : List Request}
    (hopen : (s.run requests).2.cursor? k = some c) (hfew : requests.length < 2 ^ 63) :
    (BitVec.ofNat 64 c.rowid).toInt = c.rowid := by
  have hrowid := rowid_le_length_run hnew hopen
  rw [BitVec.toInt_ofNat', Int.bmod_eq_of_le] <;> omega

/-- The context of a scan that has come to the row of the table. -/
def afterRow : QueryContext Sample.Place where
  constraints := []
  requested := .ofList [Sample.Broken.id]
  state := some (.produced 1)
  failure := none

/-- The cursor of this scan. -/
def atRow : Cursor Sample.Place where
  context := some afterRow
  row := .ofList [(Sample.Broken.id, .integer .int4 (.wrap .int4 1))]
  rowid := 1

/-- A move that comes too early, and a filter. -/
def opening : List Request :=
  [.next 0, .filter 0 1 []]

/-- The table that has a message for whoever asks it for a row, and takes it back at once. -/
def withdrawing : VirtualTable Sample.Usage Sample.Place where
  definition := Sample.Broken.definition
  prepare u ctx := (u, ctx)
  next u ctx :=
    { memory := u
      context := (ctx.fail "boom").takeFailure.2
      row := .empty
      produced := false }

/-- A cursor on this table, and one plan. -/
def withdrawn : Session Sample.Usage Sample.Place :=
  ((new { table := withdrawing, memory := .counting, backlog := .new 20 }).run
    [.bestIndex [] 1, .openCursor]).2

/-- The context of a scan of this table. -/
def withdrawnContext : QueryContext Sample.Place :=
  .new [] (.ofList [Sample.Broken.id])

/-- A cursor on the users with a plan for all of them and one for some, at the first user. -/
def amongUsers : Session Sample.Usage Sample.Place :=
  ((ofUsers 20).run [.bestIndex [] 1, .bestIndex [⟨0, some .eq, true⟩] 1, .openCursor,
    .filter 0 1 []]).2

end Session

end VirtualTables
