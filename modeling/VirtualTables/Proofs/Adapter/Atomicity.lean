import VirtualTables.Proofs.Adapter.Isolation
import VirtualTables.Proofs.Adapter.Observation
import VirtualTables.Proofs.Adapter.Retention

/-!
# A filter that is refused changes nothing

An engine may filter a cursor at any time, also one that is in the middle of a scan, and it may do
so by the number of a plan that is no longer kept, or with a wrong number of values.  Such a filter
is refused (`Adapter.Refuses`), and the codes `VTAB_002` and `VTAB_003` are those of its failure and
of no other one (`Adapter.refuses_iff`).

`unchanged_of_refused_filter` says that a refused filter leaves no trace.  The table is not called,
the cursor stays at its row, and the engine can go on with the scan as if it had not asked.  Hence a
run goes as it would go without its refused filters (`run_of_leavesOut`).
-/

namespace VirtualTables

variable {τ σ : Type}

namespace Session

variable {s : Session τ σ} {k : Nat} {c : Cursor σ} {plan : Int} {values : List EngineValue}
  {e : TableError}

/-! ## One refused filter -/

/-- A filter that stops is answered with the reason, and that is all. -/
theorem answer_of_stops {e : AdapterError} (hopen : s.cursor? k = some c)
    (h : s.adapter.Stops plan values e) :
    s.answer (.filter k plan values) = (.moved (some e.summary) c.eof c.rowid, s) := by
  have hset := s.set_cursor? k
  rw [hopen] at hset
  simp only [answer, withCursor, hopen, Adapter.filter_of_stops h, moved, Reply.ofMove, hset]

theorem callsOf_of_stops {e : AdapterError} (h : s.adapter.Stops plan values e) :
    s.callsOf (.filter k plan values) = [] := by
  rw [callsOf, Adapter.filterCalls_of_stops h, ite_self]

/-- A run goes on from a filter that stops as it would without it. -/
theorem run_of_stops {e : AdapterError} (hopen : s.cursor? k = some c)
    (h : s.adapter.Stops plan values e) (later : List Request) :
    s.run (.filter k plan values :: later) =
        (.moved (some e.summary) c.eof c.rowid :: (s.run later).1, (s.run later).2) ∧
      s.tableCalls (.filter k plan values :: later) = s.tableCalls later := by
  rw [run_cons, tableCalls_cons, answer_of_stops hopen h, callsOf_of_stops h, List.nil_append]
  exact ⟨rfl, rfl⟩

/-- **A refused filter changes nothing.**  In whatever state the session and its cursor are, before
the first scan, within one, at its end or after a failure, a filter with a plan that is not kept or
with a wrong number of values, and no other one, fails with one of the two codes.  It leaves the
cursor with its context, its row and its number, the plans and the table as they are, without a call
of the table, and everything that is asked for later is answered as if there had been no filter. -/
theorem unchanged_of_refused_filter (s : Session τ σ) {k : Nat} {c : Cursor σ}
    (hopen : s.cursor? k = some c) (plan : Int) (values : List EngineValue) :
    (∀ e, s.adapter.Refuses plan values e ↔
        (s.adapter.filter c plan values).1 = .error (.table e) ∧
          (e.code = "VTAB_002" ∨ e.code = "VTAB_003")) ∧
      ∀ e, s.adapter.Refuses plan values e →
        s.adapter.filter c plan values = (.error (.table e), c, s.adapter) ∧
          s.answer (.filter k plan values) =
            (.moved (some (AdapterError.table e).summary) c.eof c.rowid, s) ∧
          s.callsOf (.filter k plan values) = [] ∧
          ∀ later,
            s.run (.filter k plan values :: later) =
                (.moved (some (AdapterError.table e).summary) c.eof c.rowid :: (s.run later).1,
                  (s.run later).2) ∧
              s.tableCalls (.filter k plan values :: later) = s.tableCalls later := by
  refine ⟨fun e ↦ Adapter.refuses_iff, fun e h ↦ ?_⟩
  exact ⟨Adapter.filter_of_refuses h, answer_of_stops hopen (.refused h),
    callsOf_of_stops (.refused h), run_of_stops hopen (.refused h)⟩

/-- The second plan is not kept, and the first one takes no value.  Both filters fail while the
cursor is at the second user, and then the scan goes on with the third. -/
theorem unchanged_of_users :
    ∃ s c, s = ((ofUsers 1).run [.bestIndex [] 1, .openCursor, .filter 0 1 [], .next 0]).2 ∧
      s.cursor? 0 = some c ∧ c.rowid = 2 ∧
      (∃ e, s.adapter.Refuses 2 [] e ∧ e.code = "VTAB_002" ∧
        (s.run [.filter 0 2 [], .next 0]).1 =
          [.moved (some (AdapterError.table e).summary) false 2, .moved none false 3]) ∧
      ∃ e, s.adapter.Refuses 1 [.null] e ∧ e.code = "VTAB_003" ∧
        (s.run [.filter 0 1 [.null], .next 0]).1 =
          [.moved (some (AdapterError.table e).summary) false 2, .moved none false 3] := by
  refine ⟨_, _, rfl, rfl, rfl, ⟨_, .unknownPlan rfl, rfl, ?_⟩,
    ⟨_, .valueCount (p := ⟨1, [], _⟩) rfl (by decide), rfl, ?_⟩⟩
  · rw [(((unchanged_of_refused_filter _ rfl 2 []).2 _ (.unknownPlan rfl)).2.2.2 _).1]
    rfl
  · rw [(((unchanged_of_refused_filter _ rfl 1 [.null]).2 _
      (.valueCount rfl (by decide))).2.2.2 _).1]
    rfl

/-! ## Runs with refused filters -/

/-- The requests of a run with their replies, except for any number of filters that were
refused. -/
inductive LeavesOut : Session τ σ → List Request → List (Request × Reply) → Prop
  | nil {s : Session τ σ} : LeavesOut s [] []
  | answered {s : Session τ σ} {r : Request} {rest : List Request} {kept : List (Request × Reply)}
      (hrest : LeavesOut (s.answer r).2 rest kept) :
    LeavesOut s (r :: rest) ((r, (s.answer r).1) :: kept)
  | refused {s : Session τ σ} {k : Nat} {c : Cursor σ} {plan : Int} {values : List EngineValue}
      {e : TableError} {rest : List Request} {kept : List (Request × Reply)}
      (hopen : s.cursor? k = some c) (h : s.adapter.Refuses plan values e)
      (hrest : LeavesOut (s.answer (.filter k plan values)).2 rest kept) :
    LeavesOut s (.filter k plan values :: rest) kept

/-- **A run goes as it does without the filters that are refused in it**: the other requests alone
get the same replies, make the same calls of the table and lead to the same session. -/
theorem run_of_leavesOut {requests : List Request} {kept : List (Request × Reply)}
    (h : LeavesOut s requests kept) :
    s.run (kept.map Prod.fst) = (kept.map Prod.snd, (s.run requests).2) ∧
      s.tableCalls (kept.map Prod.fst) = s.tableCalls requests := by
  induction h with
  | nil => exact ⟨rfl, rfl⟩
  | answered _ ih =>
    rw [List.map_cons, List.map_cons, run_cons, run_cons, tableCalls_cons, tableCalls_cons, ih.1,
      ih.2]
    exact ⟨rfl, rfl⟩
  | refused hopen hrefuses _ ih =>
    -- the rest of the run starts where the filter was asked for
    rw [answer_of_stops hopen (.refused hrefuses)] at ih
    rwa [(run_of_stops hopen (.refused hrefuses) _).1, (run_of_stops hopen (.refused hrefuses) _).2]

end Session

end VirtualTables
