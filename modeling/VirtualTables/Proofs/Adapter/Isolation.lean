import VirtualTables.Proofs.Adapter.Planning
import VirtualTables.Proofs.Table.Forgetful

/-!
# Cursors do not disturb each other

All cursors of a session share the adapter: its table, what the table remembers, and the plans that
are kept.  A join reads several of them in turns.  This module compares two runs: the one in which
the requests about a cursor are mixed with those about any others, and the one in which they are
made alone, by a session that has no other cursor.  `replies_of_cursor_alone` says that the cursor
gives the same answers in both.

The reason is that a request about a cursor is answered as if there were no other one, which
`answer_eq_alone` says as an equation.  What is left is the adapter, and of the adapter only what
the table remembers ever differs between the two runs (`Adapter.Alike`); a forgetful table does not
answer from that.
-/

namespace VirtualTables

variable {τ σ : Type}

/-! ## Adapters that differ in what the table remembers -/

namespace Adapter

/-- The same table, and the same plans that are kept. -/
structure Alike (a b : Adapter τ σ) : Prop where
  table : a.table = b.table
  backlog : a.backlog = b.backlog

variable {a b : Adapter τ σ} {c : Cursor σ}

theorem Alike.refl (a : Adapter τ σ) : a.Alike a :=
  ⟨rfl, rfl⟩

theorem Alike.trans {a b d : Adapter τ σ} (h : a.Alike b) (h' : b.Alike d) : a.Alike d :=
  ⟨h.table.trans h'.table, h.backlog.trans h'.backlog⟩

theorem Alike.definition (h : a.Alike b) : a.definition = b.definition := by
  rw [Adapter.definition, Adapter.definition, h.table]

theorem Alike.name (h : a.Alike b) : a.name = b.name := by
  rw [Adapter.name, Adapter.name, h.definition]

theorem Alike.next (h : a.Alike b) (c : Cursor σ) : (a.next c).2.2.Alike (b.next c).2.2 :=
  ⟨by rw [table_next, table_next, h.table], by rw [backlog_next, backlog_next, h.backlog]⟩

theorem Alike.filter (h : a.Alike b) (c : Cursor σ) (plan : Int) (values : List EngineValue) :
    (a.filter c plan values).2.2.Alike (b.filter c plan values).2.2 :=
  ⟨by rw [table_filter, table_filter, h.table], by rw [backlog_filter, backlog_filter, h.backlog]⟩

/-- What a move gives to the engine and to its cursor. -/
def outcome (move : Except AdapterError Unit × Cursor σ × Adapter τ σ) :
    Except AdapterError Unit × Cursor σ :=
  (move.1, move.2.1)

theorem outcome_next (hforgets : a.table.Forgetful) (h : a.Alike b) (c : Cursor σ) :
    outcome (a.next c) = outcome (b.next c) := by
  cases hctx : c.context with
  | none => simp only [Adapter.next, hctx, outcome]
  | some ctx =>
    have hanswer := hforgets.next a.memory b.memory ctx
    rw [Advance.answer, Advance.answer, Prod.mk.injEq, Prod.mk.injEq, h.table] at hanswer
    obtain ⟨hcontext, hrow, hproduced⟩ := hanswer
    simp only [Adapter.next, hctx, outcome, h.name, h.table, hcontext, hrow, hproduced]

theorem outcome_prepare (hforgets : a.table.Forgetful) (h : a.Alike b) (p : Plan)
    (constraints : List Constraint) :
    outcome (a.prepare p constraints) = outcome (b.prepare p constraints) := by
  have hprepare := hforgets.prepare a.memory b.memory
  rw [h.table] at hprepare
  simp only [prepare, outcome, h.name, h.table, hprepare]

theorem outcome_start (hforgets : a.table.Forgetful) (h : a.Alike b) (p : Plan)
    (constraints : List Constraint) :
    outcome (a.start p constraints) = outcome (b.start p constraints) := by
  have hprepare := outcome_prepare hforgets h p constraints
  have halike : (a.prepare p constraints).2.2.Alike (b.prepare p constraints).2.2 :=
    ⟨h.table, h.backlog⟩
  have hprepared : (a.prepare p constraints).2.2.table.Forgetful := hforgets
  rw [start, start]
  generalize a.prepare p constraints = x at *
  generalize b.prepare p constraints = y at *
  obtain ⟨answer, c, a'⟩ := x
  obtain ⟨answer', c', b'⟩ := y
  obtain ⟨rfl, rfl⟩ : answer = answer' ∧ c = c' := Prod.mk.inj hprepare
  cases answer with
  | error e => rfl
  | ok => exact outcome_next hprepared halike c

theorem Alike.stops (h : a.Alike b) {plan : Int} {values : List EngineValue} {e : AdapterError}
    (hstops : a.Stops plan values e) : b.Stops plan values e :=
  hstops.congr h.name.symm h.backlog.symm

theorem Alike.accepts (h : a.Alike b) {plan : Int} {values : List EngineValue} {p : Plan}
    (haccepts : a.Accepts plan values p) : b.Accepts plan values p :=
  haccepts.congr h.backlog.symm

theorem outcome_filter (hforgets : a.table.Forgetful) (h : a.Alike b) (c : Cursor σ) (plan : Int)
    (values : List EngineValue) :
    outcome (a.filter c plan values) = outcome (b.filter c plan values) := by
  obtain ⟨e, hstops⟩ | ⟨p, haccepts⟩ := a.stops_or_accepts plan values
  · rw [filter_of_stops hstops, filter_of_stops (h.stops hstops)]
    rfl
  · rw [filter_of_accepts haccepts, filter_of_accepts (h.accepts haccepts)]
    exact outcome_start hforgets h p _

theorem Alike.column (h : a.Alike b) (c : Cursor σ) (index : Int) :
    a.column c index = b.column c index := by
  simp only [Adapter.column, h.definition, h.name]

theorem Alike.readRow (h : a.Alike b) (c : Cursor σ) :
    Session.readRow a c = Session.readRow b c := by
  simp only [Session.readRow, h.definition, h.column]

end Adapter

namespace Session

/-! ## Requests about one cursor -/

/-- The cursor that a request is about. -/
def Request.about? : Request → Option Nat
  | .bestIndex .. | .openCursor => none
  | .closeCursor cursor | .filter cursor .. | .next cursor | .position cursor | .column cursor _
  | .row cursor => some cursor

/-- Whether a plan is asked for. -/
def Request.isPlanning : Request → Bool
  | .bestIndex .. => true
  | _ => false

/-- The request about the first cursor of a session in place of another one. -/
def Request.toFirst : Request → Request
  | .closeCursor _ => .closeCursor 0
  | .filter _ plan values => .filter 0 plan values
  | .next _ => .next 0
  | .position _ => .position 0
  | .column _ index => .column 0 index
  | .row _ => .row 0
  | r => r

/-- The requests about a cursor, in order, as a session makes them that has no other one. -/
def ownRequests (cursor : Nat) (requests : List Request) : List Request :=
  (requests.filter (·.about? = some cursor)).map Request.toFirst

/-- The replies to the requests about a cursor, in order. -/
def repliesTo (s : Session τ σ) (cursor : Nat) (requests : List Request) : List Reply :=
  ((requests.zip (s.run requests).1).filter (·.1.about? = some cursor)).map Prod.snd

/-- The session of an adapter and one cursor, which may be closed. -/
def alone (a : Adapter τ σ) (c : Option (Cursor σ)) : Session τ σ where
  adapter := a
  cursors := [c]
  log := .empty

theorem cursor?_alone (a : Adapter τ σ) (c : Option (Cursor σ)) : (alone a c).cursor? 0 = c :=
  rfl

/-- Putting a cursor where it is changes nothing. -/
theorem set_cursor? (s : Session τ σ) (k : Nat) : s.cursors.set k (s.cursor? k) = s.cursors := by
  rw [cursor?]
  cases hk : s.cursors[k]? with
  | none => exact List.set_eq_of_length_le (List.getElem?_eq_none_iff.1 hk)
  | some c =>
    obtain ⟨hlt, rfl⟩ := List.getElem?_eq_some_iff.1 hk
    exact List.set_getElem_self hlt

/-- **A request about a cursor is answered as if there were no other one**, and it leaves all others
as they are. -/
theorem answer_eq_alone {s : Session τ σ} {r : Request} {k : Nat} (h : r.about? = some k) :
    s.answer r =
      (((alone s.adapter (s.cursor? k)).answer r.toFirst).1,
        { s with
          adapter := ((alone s.adapter (s.cursor? k)).answer r.toFirst).2.adapter
          cursors := s.cursors.set k
            (((alone s.adapter (s.cursor? k)).answer r.toFirst).2.cursor? 0) }) := by
  have hset := s.set_cursor? k
  cases r with
  | bestIndex | openCursor => simp [Request.about?] at h
  | closeCursor j | filter j _ _ | next j | position j | column j _ | row j =>
    obtain rfl : j = k := Option.some_inj.1 h
    simp only [answer, Request.toFirst, withCursor, cursor?_alone]
    cases hc : s.cursor? j with
    | none =>
      rw [hc] at hset
      simp only [alone, cursor?, List.getElem?_cons_zero, Option.join_some, hset]
    | some c =>
      rw [hc] at hset
      simp only [alone, moved, cursor?, List.set_cons_zero, List.getElem?_cons_zero,
        Option.join_some, hset]

theorem about?_toFirst {r : Request} {k : Nat} (h : r.about? = some k) :
    r.toFirst.about? = some 0 := by
  cases r with
  | bestIndex | openCursor => simp [Request.about?] at h
  | closeCursor | filter | next | position | column | row => rfl

theorem toFirst_toFirst (r : Request) : r.toFirst.toFirst = r.toFirst := by
  cases r <;> rfl

/-- A request about the only cursor leaves a session with one cursor. -/
theorem answer_alone {a : Adapter τ σ} {c : Option (Cursor σ)} {r : Request} {k : Nat}
    (h : r.about? = some k) :
    ((alone a c).answer r.toFirst).2 =
      alone ((alone a c).answer r.toFirst).2.adapter
        (((alone a c).answer r.toFirst).2.cursor? 0) := by
  have heq := answer_eq_alone (s := alone a c) (about?_toFirst h)
  rw [toFirst_toFirst] at heq
  exact congrArg Prod.snd heq

/-! ## The same request to two adapters -/

/-- Two moves with the same outcome are answered alike. -/
theorem moved_alone {a b : Adapter τ σ} {c : Option (Cursor σ)}
    {x y : Except AdapterError Unit × Cursor σ × Adapter τ σ}
    (h : Adapter.outcome x = Adapter.outcome y) :
    ((alone a c).moved 0 x).1 = ((alone b c).moved 0 y).1 ∧
      ((alone a c).moved 0 x).2.cursor? 0 = ((alone b c).moved 0 y).2.cursor? 0 := by
  obtain ⟨answer, d, a'⟩ := x
  obtain ⟨answer', d', b'⟩ := y
  obtain ⟨rfl, rfl⟩ : answer = answer' ∧ d = d' := Prod.mk.inj h
  exact ⟨rfl, rfl⟩

/-- **What a table remembers has no part in the answers**, if the table is forgetful. -/
theorem answer_alone_alike {a b : Adapter τ σ} (hforgets : a.table.Forgetful) (halike : a.Alike b)
    (c : Option (Cursor σ)) {r : Request} {k : Nat} (h : r.about? = some k) :
    ((alone a c).answer r.toFirst).1 = ((alone b c).answer r.toFirst).1 ∧
      ((alone a c).answer r.toFirst).2.cursor? 0 = ((alone b c).answer r.toFirst).2.cursor? 0 ∧
      ((alone a c).answer r.toFirst).2.adapter.Alike ((alone b c).answer r.toFirst).2.adapter := by
  cases c with
  | none =>
    cases r with
    | bestIndex | openCursor => simp [Request.about?] at h
    | closeCursor | filter | next | position | column | row => exact ⟨rfl, rfl, halike⟩
  | some c =>
    cases r with
    | bestIndex | openCursor => simp [Request.about?] at h
    | closeCursor | position => exact ⟨rfl, rfl, halike⟩
    | filter _ plan values =>
      have hmoved := moved_alone (a := a) (b := b) (c := some c)
        (Adapter.outcome_filter hforgets halike c plan values)
      exact ⟨hmoved.1, hmoved.2, halike.filter c plan values⟩
    | next =>
      have hmoved := moved_alone (a := a) (b := b) (c := some c)
        (Adapter.outcome_next hforgets halike c)
      exact ⟨hmoved.1, hmoved.2, halike.next c⟩
    | column _ index =>
      exact ⟨congrArg (Reply.ofRead .cell) (halike.column c index), rfl, halike⟩
    | row => exact ⟨congrArg (Reply.ofRead .cells) (halike.readRow c), rfl, halike⟩

/-! ## Runs -/

/-- Requests other than those for a plan keep the table and the plans. -/
theorem alike_answer (s : Session τ σ) {r : Request} (h : r.isPlanning = false) :
    (s.answer r).2.adapter.Alike s.adapter := by
  refine ⟨s.table_answer r, ?_⟩
  obtain ⟨_, _, _, rfl, -⟩ | ⟨-, hbacklog⟩ := s.plan_cases r
  · simp [Request.isPlanning] at h
  · exact hbacklog

/-- A request leaves the cursors alone that it is not about. -/
theorem cursor?_answer_of_ne {s : Session τ σ} {r : Request} {k : Nat}
    (hk : k < s.cursors.length) (h : r.about? ≠ some k) :
    (s.answer r).2.cursor? k = s.cursor? k := by
  cases habout : r.about? with
  | some j =>
    rw [habout, ne_eq, Option.some_inj] at h
    rw [answer_eq_alone habout]
    exact congrArg Option.join (List.getElem?_set_ne h)
  | none =>
    cases r with
    | bestIndex candidates used =>
      rw [answer]
      split <;> rfl
    | openCursor => rw [answer, cursor?, cursor?, List.getElem?_append_left hk]
    | closeCursor | filter | next | position | column | row => simp [Request.about?] at habout

theorem length_cursors_answer (s : Session τ σ) (r : Request) :
    s.cursors.length ≤ (s.answer r).2.cursors.length := by
  cases habout : r.about? with
  | some j =>
    have hlen : (s.answer r).2.cursors.length = s.cursors.length := by
      rw [answer_eq_alone habout]
      exact List.length_set
    exact Nat.le_of_eq hlen.symm
  | none =>
    cases r with
    | bestIndex candidates used =>
      rw [answer]
      split <;> exact Nat.le_refl _
    | openCursor => simp [answer]
    | closeCursor | filter | next | position | column | row => simp [Request.about?] at habout

theorem repliesTo_cons (s : Session τ σ) (k : Nat) (r : Request) (rest : List Request) :
    s.repliesTo k (r :: rest) =
      (if r.about? = some k then [(s.answer r).1] else []) ++ (s.answer r).2.repliesTo k rest := by
  rw [repliesTo, run_cons, List.zip_cons_cons, List.filter_cons]
  split <;> simp_all [repliesTo]

theorem ownRequests_cons (k : Nat) (r : Request) (rest : List Request) :
    ownRequests k (r :: rest) =
      (if r.about? = some k then [r.toFirst] else []) ++ ownRequests k rest := by
  rw [ownRequests, List.filter_cons]
  split <;> simp_all [ownRequests]

/-- The two runs side by side: the session with all cursors, and one with an adapter like its own
and the cursor alone. -/
theorem repliesTo_eq_alone {s : Session τ σ} (hforgets : s.adapter.table.Forgetful)
    {b : Adapter τ σ} (halike : s.adapter.Alike b) {k : Nat} (hk : k < s.cursors.length)
    (requests : List Request) (hplans : ∀ r ∈ requests, r.isPlanning = false) :
    s.repliesTo k requests =
      ((alone b (s.cursor? k)).run (ownRequests k requests)).1 := by
  induction requests generalizing s b with
  | nil => rfl
  | cons r rest ih =>
    rw [List.forall_mem_cons] at hplans
    have hkept := s.alike_answer hplans.1
    have hforgets' : (s.answer r).2.adapter.table.Forgetful := by
      rw [hkept.table]
      exact hforgets
    have hk' : k < (s.answer r).2.cursors.length :=
      Nat.lt_of_lt_of_le hk (s.length_cursors_answer r)
    rw [repliesTo_cons, ownRequests_cons]
    by_cases h : r.about? = some k
    · obtain ⟨hreply, hcursor, hadapter⟩ := answer_alone_alike hforgets halike (s.cursor? k) h
      have hanswer := answer_eq_alone h (s := s)
      have hcursor' : (s.answer r).2.cursor? k =
          ((alone s.adapter (s.cursor? k)).answer r.toFirst).2.cursor? 0 := by
        rw [hanswer]
        show ((s.cursors.set k _)[k]?).join = _
        rw [List.getElem?_set_self hk, Option.join_some]
      have hadapter' : (s.answer r).2.adapter.Alike
          ((alone b (s.cursor? k)).answer r.toFirst).2.adapter := by
        rw [hanswer]
        exact hadapter
      rw [if_pos h, if_pos h, List.singleton_append, List.singleton_append, run_cons,
        answer_alone h, ← hcursor, ← hcursor', ih hforgets' hadapter' hk' hplans.2, hanswer, hreply]
    · rw [if_neg h, if_neg h, List.nil_append, List.nil_append,
        ih hforgets' (hkept.trans halike) hk' hplans.2, cursor?_answer_of_ne hk h]

/-- **A cursor gives the answers that it gives alone**, however the requests about it are mixed with
those about other cursors, which may be opened and closed meanwhile.  Only the plans have to stay
the same.  The tables that follow a script and all sample tables are of the kind that this asks
for. -/
theorem replies_of_cursor_alone :
    (∀ (τ σ : Type) (s : Session τ σ) (requests : List Request), s.adapter.table.Forgetful →
        (∀ r ∈ requests, r.isPlanning = false) →
        ∀ (k : Nat) (c : Cursor σ) (memory : τ), s.cursor? k = some c →
          s.repliesTo k requests =
            ((alone { s.adapter with memory } (some c)).run (ownRequests k requests)).1) ∧
      (∀ script : Sample.Script, script.virtualTable.Forgetful) ∧
      ∀ t ∈ Sample.tables, t.toVirtualTable.Forgetful := by
  refine ⟨fun τ σ s requests hforgets hplans k c memory hopen ↦ ?_,
    Sample.Script.forgetful_virtualTable, fun t ↦ Sample.forgetful_of_mem_tables⟩
  have hk : k < s.cursors.length := by
    by_contra hge
    rw [cursor?, List.getElem?_eq_none (Nat.le_of_not_lt hge)] at hopen
    exact absurd hopen (by simp)
  rw [repliesTo_eq_alone hforgets (b := { s.adapter with memory }) ⟨rfl, rfl⟩ hk requests hplans,
    hopen]

/-! ### A table of users that is joined with itself -/

/-- Two cursors on the table of users, and one plan. -/
def selfJoin : Session Sample.Usage Sample.Place :=
  ((new { table := Sample.Users.listing.virtualTable, memory := .counting, backlog := .new 20 }).run
    [.bestIndex [] 3, .openCursor, .openCursor]).2

/-- The inner cursor is filtered once more for every row of the outer one. -/
def nestedScan : List Request :=
  [.filter 0 1 [], .column 0 0, .filter 1 1 [], .column 1 0, .next 1, .column 1 0, .next 0,
    .column 0 0, .filter 1 1 [], .column 1 0, .position 0]

/-- The outer cursor of a join goes from the first user to the second, as it does alone. -/
theorem replies_of_self_join :
    selfJoin.repliesTo 0 nestedScan =
        ((alone selfJoin.adapter (some .new)).run
          [.filter 0 1 [], .column 0 0, .next 0, .column 0 0, .position 0]).1 ∧
      selfJoin.repliesTo 0 nestedScan =
        [.moved none false 1, .cell (.integer (.wrap .int8 0)), .moved none false 2,
          .cell (.integer (.wrap .int8 501)), .located false 2] := by
  have hplans : ∀ r ∈ nestedScan, r.isPlanning = false := by decide
  exact ⟨replies_of_cursor_alone.1 _ _ selfJoin nestedScan
    (Sample.Users.listing.forgetful_virtualTable) hplans 0 .new selfJoin.adapter.memory rfl, rfl⟩

end Session

end VirtualTables
