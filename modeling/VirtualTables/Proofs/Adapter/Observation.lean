import VirtualTables.Proofs.Adapter.Planning

/-!
# Watching the calls that reach a table

An engine sees replies, but what an adapter promises to a *table* is about calls: with which context
a scan is prepared, how often a row is asked for.  Nothing in a session records those calls.  They
are made visible from the other side, by a table that notes every call before it answers as the
table it stands for would: `VirtualTable.observed`.

`Session.tableCalls` is what such a table has noted at the end of a run, and `run_observed` says
that noting changes nothing: replies, cursors, plans and the memory of the table are those of the
run without it.  The calls of a single request are spelled out by `Session.callsOf`, and
`tableCalls_cons` takes a run apart into requests.
-/

namespace VirtualTables

/-- A call that reached a table: the context it was given, and the context it left. -/
inductive TableCall (σ : Type) where
  | prepare (given left : QueryContext σ)
  | next (given left : QueryContext σ) (produced : Bool)

namespace TableCall

variable {σ : Type}

/-- Whether the table was asked to prepare a scan. -/
def isPrepare : TableCall σ → Bool
  | prepare .. => true
  | next .. => false

/-- Whether the table was asked for a row. -/
def isNext : TableCall σ → Bool
  | prepare .. => false
  | next .. => true

end TableCall

/-- The memory of a table, with the calls that reached it so far. -/
structure Observed (τ σ : Type) where
  memory : τ
  calls : List (TableCall σ)

variable {τ σ : Type}

namespace VirtualTable

/-- The table that notes every call and otherwise does as `t` does. -/
def observed (t : VirtualTable τ σ) : VirtualTable (Observed τ σ) σ where
  definition := t.definition
  prepare o ctx :=
    let (memory, left) := t.prepare o.memory ctx
    ({ memory, calls := o.calls ++ [.prepare ctx left] }, left)
  next o ctx :=
    let a := t.next o.memory ctx
    { memory := { memory := a.memory, calls := o.calls ++ [.next ctx a.context a.produced] }
      context := a.context
      row := a.row
      produced := a.produced }

end VirtualTable

namespace Adapter

/-- The adapter to a table that has noted `calls` and goes on to note calls. -/
def observed (a : Adapter τ σ) (calls : List (TableCall σ)) : Adapter (Observed τ σ) σ where
  table := a.table.observed
  memory := { memory := a.memory, calls }
  backlog := a.backlog

/-! ## The calls of a single move -/

/-- The calls made by `next`. -/
def nextCalls (a : Adapter τ σ) (c : Cursor σ) : List (TableCall σ) :=
  match c.context with
  | none => []
  | some ctx => [.next ctx (a.table.next a.memory ctx).context (a.table.next a.memory ctx).produced]

/-- The context with which a scan is prepared. -/
def scanContext (p : Plan) (constraints : List Constraint) : QueryContext σ :=
  .new constraints p.requested

/-- The calls made by `prepare`. -/
def prepareCalls (a : Adapter τ σ) (p : Plan) (constraints : List Constraint) :
    List (TableCall σ) :=
  [.prepare (scanContext p constraints) (a.table.prepare a.memory (scanContext p constraints)).2]

/-- The calls made by `start`; a table that fails to prepare is not asked for a row. -/
def startCalls (a : Adapter τ σ) (p : Plan) (constraints : List Constraint) :
    List (TableCall σ) :=
  match a.prepare p constraints with
  | (.error _, _, _) => a.prepareCalls p constraints
  | (.ok (), c, a') => a.prepareCalls p constraints ++ a'.nextCalls c

/-- The calls made by `filter`. -/
def filterCalls (a : Adapter τ σ) (plan : Int) (values : List EngineValue) :
    List (TableCall σ) :=
  match a.backlog.get? plan with
  | none => []
  | some p =>
    if values.length ≠ p.constraints.length then []
    else
      match bindValues p.constraints values with
      | .error _ => []
      | .ok constraints => a.startCalls p constraints

variable {a : Adapter τ σ} {calls : List (TableCall σ)} {c : Cursor σ} {p : Plan}
  {constraints : List Constraint} {plan : Int} {values : List EngineValue}

/-- A filter that stops does not reach the table. -/
theorem filterCalls_of_stops {e : AdapterError} (h : a.Stops plan values e) :
    a.filterCalls plan values = [] := by
  cases h with
  | refused h =>
    cases h with
    | unknownPlan hget => rw [filterCalls, hget]
    | valueCount hget hlen =>
      rw [filterCalls, hget]
      exact if_pos hlen
  | unreadable hget hlen hslot =>
    rw [filterCalls, hget]
    simp only [hlen, ne_eq, not_true_eq_false, if_false, bindValues_of_firstUnreadable hslot hlen]

theorem filterCalls_of_accepts (h : a.Accepts plan values p) :
    a.filterCalls plan values = a.startCalls p (bound p.constraints values) := by
  rw [filterCalls, h.kept]
  simp only [h.length, ne_eq, not_true_eq_false, if_false, bindValues_of_readable h.readable]

theorem next_observed :
    (a.observed calls).next c =
      ((a.next c).1, (a.next c).2.1, (a.next c).2.2.observed (calls ++ a.nextCalls c)) := by
  cases h : c.context with
  | none => simp [Adapter.next, nextCalls, h]
  | some ctx =>
    rw [Adapter.next, Adapter.next, nextCalls, h]
    rfl

theorem prepare_observed :
    (a.observed calls).prepare p constraints =
      ((a.prepare p constraints).1, (a.prepare p constraints).2.1,
        (a.prepare p constraints).2.2.observed (calls ++ a.prepareCalls p constraints)) :=
  rfl

theorem start_observed :
    (a.observed calls).start p constraints =
      ((a.start p constraints).1, (a.start p constraints).2.1,
        (a.start p constraints).2.2.observed (calls ++ a.startCalls p constraints)) := by
  rw [start, start, startCalls, prepare_observed]
  obtain ⟨answer, c', a'⟩ := a.prepare p constraints
  cases answer with
  | error e => rfl
  | ok => simp only [next_observed, List.append_assoc]

theorem filter_observed :
    (a.observed calls).filter c plan values =
      ((a.filter c plan values).1, (a.filter c plan values).2.1,
        (a.filter c plan values).2.2.observed (calls ++ a.filterCalls plan values)) := by
  obtain ⟨e, hstops⟩ | ⟨p, haccepts⟩ := a.stops_or_accepts plan values
  · have hwatched : (a.observed calls).Stops plan values e := hstops.congr rfl rfl
    rw [filter_of_stops hstops, filter_of_stops hwatched, filterCalls_of_stops hstops,
      List.append_nil]
  · have hwatched : (a.observed calls).Accepts plan values p := haccepts.congr rfl
    rw [filter_of_accepts haccepts, filter_of_accepts hwatched, filterCalls_of_accepts haccepts,
      start_observed]

theorem bestIndex_observed {candidates : List Candidate} {used : BitVec 64} :
    (a.observed calls).bestIndex candidates used =
      ((a.bestIndex candidates used).1, (a.bestIndex candidates used).2.observed calls) := by
  have hdef : (a.observed calls).definition = a.definition := rfl
  rw [bestIndex, bestIndex, hdef]
  cases a.definition.pushdown candidates used <;> rfl

end Adapter

namespace Session

/-- The session with a table that has noted `calls` and goes on to note calls. -/
def observed (s : Session τ σ) (calls : List (TableCall σ)) : Session (Observed τ σ) σ where
  adapter := s.adapter.observed calls
  cursors := s.cursors
  log := s.log

/-- The calls that reach the table while requests are answered, as the table notes them. -/
def tableCalls (s : Session τ σ) (requests : List Request) : List (TableCall σ) :=
  ((s.observed []).run requests).2.adapter.memory.calls

/-- The calls made by a request. -/
def callsOf (s : Session τ σ) : Request → List (TableCall σ)
  | .filter cursor plan values =>
    if (s.cursor? cursor).isSome then s.adapter.filterCalls plan values else []
  | .next cursor => ((s.cursor? cursor).map s.adapter.nextCalls).getD []
  | _ => []

/-! ## Watching changes nothing -/

theorem answer_observed (s : Session τ σ) (calls : List (TableCall σ)) (r : Request) :
    (s.observed calls).answer r =
      ((s.answer r).1, (s.answer r).2.observed (calls ++ s.callsOf r)) := by
  have hcursor (k : Nat) : (s.observed calls).cursor? k = s.cursor? k := rfl
  cases r with
  | bestIndex candidates used =>
    simp only [answer, observed, Adapter.bestIndex_observed, callsOf, List.append_nil]
    obtain ⟨result, a'⟩ := s.adapter.bestIndex candidates used
    cases result <;> rfl
  | openCursor => simp [answer, observed, callsOf]
  | closeCursor k =>
    rw [answer, answer, withCursor, withCursor, hcursor]
    cases s.cursor? k <;> simp [observed, callsOf]
  | filter k plan values =>
    rw [answer, answer, withCursor, withCursor, hcursor, callsOf]
    cases s.cursor? k with
    | none => simp
    | some c => simp [moved, observed, Adapter.filter_observed]
  | next k =>
    rw [answer, answer, withCursor, withCursor, hcursor, callsOf]
    cases s.cursor? k with
    | none => simp
    | some c => simp [moved, observed, Adapter.next_observed]
  | position k =>
    rw [answer, answer, withCursor, withCursor, hcursor]
    cases s.cursor? k <;> simp [callsOf]
  | column k index =>
    rw [answer, answer, withCursor, withCursor, hcursor]
    cases s.cursor? k with
    | none => simp [callsOf]
    | some c => simp only [callsOf, List.append_nil]; rfl
  | row k =>
    rw [answer, answer, withCursor, withCursor, hcursor]
    cases s.cursor? k with
    | none => simp [callsOf]
    | some c => simp only [callsOf, List.append_nil]; rfl

/-- What was noted before a run stays, and what is noted during it does not depend on it. -/
theorem calls_run_observed (s : Session τ σ) (calls : List (TableCall σ))
    (requests : List Request) :
    ((s.observed calls).run requests).2.adapter.memory.calls = calls ++ s.tableCalls requests := by
  induction requests generalizing s calls with
  | nil => simp [run, tableCalls, observed, Adapter.observed]
  | cons r rest ih =>
    rw [tableCalls, run, run, answer_observed, answer_observed]
    simp only [ih, List.nil_append, List.append_assoc]

@[simp]
theorem tableCalls_nil (s : Session τ σ) : s.tableCalls [] = [] :=
  rfl

theorem tableCalls_cons (s : Session τ σ) (r : Request) (rest : List Request) :
    s.tableCalls (r :: rest) = s.callsOf r ++ (s.answer r).2.tableCalls rest := by
  rw [tableCalls, run, answer_observed]
  simp only [calls_run_observed, List.nil_append]

theorem tableCalls_singleton (s : Session τ σ) (r : Request) :
    s.tableCalls [r] = s.callsOf r := by
  rw [tableCalls_cons, tableCalls_nil, List.append_nil]

/-- **Watching changes nothing**: a run with a table that notes its calls gives the replies of the
run without, and leaves the same session. -/
theorem run_observed (s : Session τ σ) (calls : List (TableCall σ)) (requests : List Request) :
    (s.observed calls).run requests =
      ((s.run requests).1, (s.run requests).2.observed (calls ++ s.tableCalls requests)) := by
  induction requests generalizing s calls with
  | nil => simp [run]
  | cons r rest ih =>
    rw [run, run, answer_observed, tableCalls_cons]
    simp only [ih, List.append_assoc]

end Session

end VirtualTables
