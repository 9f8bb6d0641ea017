import VirtualTables.Proofs.Adapter.Isolation

/-!
# Cursors that are filtered again

An engine does not open a cursor for every scan.  The inner table of a join and a list of values to
choose from are read with one cursor that is filtered over and over, and it is filtered wherever it
is: at a row, at the end of a scan, or after a failure.  `scan_forgets_history` says that this makes
no difference.  Whatever was asked of a cursor before, a filter that is accepted gives what it gives
for a new cursor, and so do all requests after it.  A filter that stops at its plan or at its values
has the same answer for both, and leaves each where it is.

The two runs that are compared are one in which the cursor has a history, and one in which it was
left alone.  As long as the cursor is not filtered they agree but for this cursor and for what the
table remembers (`Agrees`), and the filter removes the first of these differences.  The second one
stays, but the answers of a forgetful table do not show it.
-/

namespace VirtualTables

variable {τ σ : Type}

namespace Adapter

variable {a b : Adapter τ σ}

theorem Alike.bestIndex (h : a.Alike b) (candidates : List Candidate) (used : BitVec 64) :
    (a.bestIndex candidates used).1 = (b.bestIndex candidates used).1 ∧
      (a.bestIndex candidates used).2.Alike (b.bestIndex candidates used).2 := by
  rw [Adapter.bestIndex, Adapter.bestIndex, h.definition, h.backlog]
  cases b.definition.pushdown candidates used with
  | error e => exact ⟨rfl, h⟩
  | ok p => exact ⟨rfl, h.table, rfl⟩

/-- A filter that is accepted does not look at its cursor. -/
theorem Accepts.filter_eq {p : Plan} {plan : Int} {values : List EngineValue}
    (h : a.Accepts plan values p) (c d : Cursor σ) :
    a.filter c plan values = a.filter d plan values := by
  rw [filter_of_accepts h, filter_of_accepts h]

/-- How an engine moves the cursor `k`, which is at `c`. -/
inductive Moves (a : Adapter τ σ) (k : Nat) (c : Cursor σ) :
    Session.Request → Except AdapterError Unit × Cursor σ × Adapter τ σ → Prop
  | filter (plan : Int) (values : List EngineValue) :
    Moves a k c (.filter k plan values) (a.filter c plan values)
  | next : Moves a k c (.next k) (a.next c)

end Adapter

namespace Session

/-! ## Requests about an open cursor -/

section Open

variable {s : Session τ σ} {k : Nat} {r : Request} {c : Cursor σ}

theorem lt_length_of_cursor? (hopen : s.cursor? k = some c) : k < s.cursors.length := by
  by_contra hge
  rw [cursor?, List.getElem?_eq_none (Nat.le_of_not_lt hge)] at hopen
  exact absurd hopen (by simp)

theorem cursor?_moved (hk : k < s.cursors.length)
    (move : Except AdapterError Unit × Cursor σ × Adapter τ σ) :
    (s.moved k move).2.cursor? k = some move.2.1 := by
  show (s.cursors.set k (some move.2.1))[k]?.join = some move.2.1
  rw [List.getElem?_set_self hk, Option.join_some]

theorem answer_of_closed (hclosed : s.cursor? k = none) (habout : r.about? = some k) :
    s.answer r = (.noCursor, s) := by
  cases r with
  | bestIndex | openCursor => simp [Request.about?] at habout
  | closeCursor j | filter j _ _ | next j | position j | column j _ | row j =>
    obtain rfl : j = k := Option.some_inj.1 habout
    rw [answer, withCursor, hclosed]

/-- **What a request does to an open cursor** that it is about: it closes the cursor, moves it, or
looks at it and changes nothing. -/
theorem answer_cases (hopen : s.cursor? k = some c) (habout : r.about? = some k) :
    r = .closeCursor k ∧ (s.answer r).2.cursor? k = none ∨
      (∃ move, s.adapter.Moves k c r move ∧ s.answer r = s.moved k move) ∨
      (s.answer r).2 = s ∧ (r = .position k ∨ (∃ index, r = .column k index) ∨ r = .row k) := by
  have hk := lt_length_of_cursor? hopen
  cases r with
  | bestIndex | openCursor => simp [Request.about?] at habout
  | closeCursor j =>
    obtain rfl : j = k := Option.some_inj.1 habout
    refine .inl ⟨rfl, ?_⟩
    rw [answer, withCursor, hopen]
    show (s.cursors.set j none)[j]?.join = none
    rw [List.getElem?_set_self hk, Option.join_some]
  | filter j plan values =>
    obtain rfl : j = k := Option.some_inj.1 habout
    exact .inr (.inl ⟨_, .filter plan values, by rw [answer, withCursor, hopen]⟩)
  | next j =>
    obtain rfl : j = k := Option.some_inj.1 habout
    exact .inr (.inl ⟨_, .next, by rw [answer, withCursor, hopen]⟩)
  | position j =>
    obtain rfl : j = k := Option.some_inj.1 habout
    exact .inr (.inr ⟨by rw [answer, withCursor, hopen], .inl rfl⟩)
  | column j index =>
    obtain rfl : j = k := Option.some_inj.1 habout
    exact .inr (.inr ⟨by rw [answer, withCursor, hopen], .inr (.inl ⟨index, rfl⟩)⟩)
  | row j =>
    obtain rfl : j = k := Option.some_inj.1 habout
    exact .inr (.inr ⟨by rw [answer, withCursor, hopen], .inr (.inr rfl)⟩)

end Open

/-! ## Sessions that agree -/

/-- Two sessions that answer alike, except that one cursor may be elsewhere. -/
structure Agrees (elsewhere : Option Nat) (s t : Session τ σ) : Prop where
  adapter : s.adapter.Alike t.adapter
  length : s.cursors.length = t.cursors.length
  cursor? : ∀ j, elsewhere ≠ some j → s.cursor? j = t.cursor? j

theorem Agrees.refl (elsewhere : Option Nat) (s : Session τ σ) : Agrees elsewhere s s :=
  ⟨.refl _, rfl, fun _ _ ↦ rfl⟩

variable {s t : Session τ σ} {elsewhere : Option Nat} {k : Nat} {r : Request}

/-- Two sessions that put a cursor at the same place still agree on the others, and now on this one
as well. -/
theorem Agrees.set {elsewhere' : Option Nat} (h : Agrees elsewhere s t) {a b : Adapter τ σ}
    (halike : a.Alike b) (c : Option (Cursor σ))
    (hk : ∀ j, k ≠ j → elsewhere' ≠ some j → elsewhere ≠ some j) :
    Agrees elsewhere' { s with adapter := a, cursors := s.cursors.set k c }
      { t with adapter := b, cursors := t.cursors.set k c } where
  adapter := halike
  length := by rw [List.length_set, List.length_set, h.length]
  cursor? j hj := by
    show (s.cursors.set k c)[j]?.join = (t.cursors.set k c)[j]?.join
    rw [List.getElem?_set, List.getElem?_set, h.length]
    split
    · rfl
    · exact h.cursor? j (hk j ‹_› hj)

/-- A request that is not about the cursor which is elsewhere gets the same reply in both sessions,
and they go on to agree. -/
theorem Agrees.answer (hforgets : s.adapter.table.Forgetful) (h : Agrees elsewhere s t)
    (hr : ∀ j, r.about? = some j → elsewhere ≠ some j) :
    (s.answer r).1 = (t.answer r).1 ∧ Agrees elsewhere (s.answer r).2 (t.answer r).2 := by
  cases habout : r.about? with
  | some j =>
    obtain ⟨hreply, hcursor, hadapter⟩ :=
      answer_alone_alike hforgets h.adapter (s.cursor? j) habout
    rw [answer_eq_alone habout, answer_eq_alone (s := t) habout, ← h.cursor? j (hr j habout),
      hcursor]
    exact ⟨hreply, h.set hadapter _ fun _ _ hi ↦ hi⟩
  | none =>
    cases r with
    | bestIndex candidates used =>
      obtain ⟨hanswer, halike⟩ := h.adapter.bestIndex candidates used
      rw [Session.answer, Session.answer]
      generalize s.adapter.bestIndex candidates used = x at *
      generalize t.adapter.bestIndex candidates used = y at *
      obtain ⟨answer, a⟩ := x
      obtain ⟨answer', b⟩ := y
      obtain rfl : answer = answer' := hanswer
      cases answer with
      | error e => exact ⟨rfl, halike, h.length, h.cursor?⟩
      | ok offer => exact ⟨rfl, halike, h.length, h.cursor?⟩
    | openCursor =>
      refine ⟨congrArg Reply.opened h.length, h.adapter, ?_, fun j hj ↦ ?_⟩
      · show (s.cursors ++ [some Cursor.new]).length = (t.cursors ++ [some Cursor.new]).length
        rw [List.length_append, List.length_append, h.length]
      · show (s.cursors ++ [some Cursor.new])[j]?.join = (t.cursors ++ [some Cursor.new])[j]?.join
        rw [List.getElem?_append, List.getElem?_append, h.length]
        split
        · exact h.cursor? j hj
        · rfl
    | closeCursor | filter | next | position | column | row => simp [Request.about?] at habout

/-- A request about the cursor that is elsewhere may be made in one of the sessions only. -/
theorem Agrees.answer_elsewhere (h : Agrees (some k) s t) (hr : r.about? = some k) :
    Agrees (some k) (s.answer r).2 t := by
  have hplans : r.isPlanning = false := by
    cases r with
    | bestIndex => simp [Request.about?] at hr
    | openCursor | closeCursor | filter | next | position | column | row => rfl
  refine ⟨(s.alike_answer hplans).trans h.adapter, ?_, fun j hj ↦ ?_⟩
  · rw [answer_eq_alone hr, List.length_set, h.length]
  · rw [← h.cursor? j hj, answer_eq_alone hr]
    exact congrArg Option.join (List.getElem?_set_ne fun hkj ↦ hj (congrArg some hkj))

/-- **A filter that is accepted brings the cursor back.**  Wherever it was in the two sessions,
they give the same reply, and from there on they agree on all cursors. -/
theorem Agrees.answer_filter (hforgets : s.adapter.table.Forgetful) (h : Agrees (some k) s t)
    {c d : Cursor σ} (hs : s.cursor? k = some c) (ht : t.cursor? k = some d) {plan : Int}
    {values : List EngineValue} {p : Plan} (haccepts : s.adapter.Accepts plan values p) :
    (s.answer (.filter k plan values)).1 = (t.answer (.filter k plan values)).1 ∧
      Agrees none (s.answer (.filter k plan values)).2 (t.answer (.filter k plan values)).2 := by
  have hmove := Adapter.outcome_filter hforgets h.adapter d plan values
  have halike := h.adapter.filter d plan values
  simp only [Session.answer, withCursor, hs, ht]
  rw [haccepts.filter_eq c d]
  generalize s.adapter.filter d plan values = x at *
  generalize t.adapter.filter d plan values = y at *
  obtain ⟨answer, moved, a⟩ := x
  obtain ⟨answer', moved', b⟩ := y
  obtain ⟨rfl, rfl⟩ : answer = answer' ∧ moved = moved' := Prod.mk.inj hmove
  exact ⟨rfl, h.set halike _ fun j hkj _ hk ↦ hkj (Option.some_inj.1 hk)⟩

/-! ## Two runs that agree -/

/-- The requests that are not about a cursor. -/
def otherRequests (cursor : Nat) (requests : List Request) : List Request :=
  requests.filter (·.about? ≠ some cursor)

/-- The run in which all requests about a cursor are left out, by induction on the requests. -/
theorem Agrees.run (hforgets : s.adapter.table.Forgetful) (h : Agrees (some k) s t)
    (requests : List Request) :
    Agrees (some k) (s.run requests).2 (t.run (otherRequests k requests)).2 := by
  induction requests generalizing s t with
  | nil => exact h
  | cons r rest ih =>
    have hforgets' : (s.answer r).2.adapter.table.Forgetful := by rwa [table_answer]
    rw [run_cons, otherRequests, List.filter_cons]
    by_cases hr : r.about? = some k
    · rw [if_neg (by simp [hr])]
      exact ih hforgets' (h.answer_elsewhere hr)
    · rw [if_pos (by simp [hr]), run_cons]
      refine ih hforgets' (h.answer hforgets fun j hj hk ↦ hr ?_).2
      rw [hj, hk]

theorem Agrees.replies (hforgets : s.adapter.table.Forgetful) (h : Agrees none s t)
    (requests : List Request) : (s.run requests).1 = (t.run requests).1 := by
  induction requests generalizing s t with
  | nil => rfl
  | cons r rest ih =>
    have hforgets' : (s.answer r).2.adapter.table.Forgetful := by rwa [table_answer]
    obtain ⟨hreply, hagrees⟩ := h.answer (r := r) hforgets (by simp)
    rw [run_cons, run_cons, hreply, ih hforgets' hagrees]

/-- Once the cursor is brought back, all replies are the same. -/
theorem Agrees.replies_filter (hforgets : s.adapter.table.Forgetful) (h : Agrees (some k) s t)
    {c d : Cursor σ} (hs : s.cursor? k = some c) (ht : t.cursor? k = some d) {plan : Int}
    {values : List EngineValue} {p : Plan} (haccepts : s.adapter.Accepts plan values p)
    (later : List Request) :
    (s.run (.filter k plan values :: later)).1 = (t.run (.filter k plan values :: later)).1 := by
  obtain ⟨hreply, hagrees⟩ := h.answer_filter hforgets hs ht haccepts
  have hforgets' : (s.answer (.filter k plan values)).2.adapter.table.Forgetful := by
    rwa [table_answer]
  rw [run_cons, run_cons, hreply, hagrees.replies hforgets' later]

theorem agrees_alone {a b : Adapter τ σ} (h : a.Alike b) (c d : Option (Cursor σ)) :
    Agrees (some 0) (alone a c) (alone b d) where
  adapter := h
  length := rfl
  cursor? j hj := by
    cases j with
    | zero => exact absurd rfl hj
    | succ j => rfl

@[simp]
theorem table_run (s : Session τ σ) (requests : List Request) :
    (s.run requests).2.adapter.table = s.adapter.table := by
  induction requests generalizing s with
  | nil => rfl
  | cons r rest ih => rw [run_cons, ih, table_answer]

/-- A cursor that no request is about stays as it is. -/
theorem cursor?_run_otherRequests {c : Cursor σ} (hopen : s.cursor? k = some c)
    (requests : List Request) : (s.run (otherRequests k requests)).2.cursor? k = some c := by
  induction requests generalizing s with
  | nil => exact hopen
  | cons r rest ih =>
    rw [otherRequests, List.filter_cons]
    by_cases hr : r.about? = some k
    · rw [if_neg (by simp [hr])]
      exact ih hopen
    · rw [if_pos (by simp [hr]), run_cons]
      exact ih ((cursor?_answer_of_ne (lt_length_of_cursor? hopen) hr).trans hopen)

/-- A cursor stays open until it is closed. -/
theorem exists_cursor?_answer {c : Cursor σ} (hopen : s.cursor? k = some c)
    (hr : r ≠ .closeCursor k) : ∃ d, (s.answer r).2.cursor? k = some d := by
  by_cases habout : r.about? = some k
  · obtain ⟨rfl, -⟩ | ⟨move, -, hanswer⟩ | ⟨hsame, -⟩ := answer_cases hopen habout
    · exact absurd rfl hr
    · exact ⟨move.2.1, by rw [hanswer, cursor?_moved (lt_length_of_cursor? hopen)]⟩
    · exact ⟨c, by rw [hsame, hopen]⟩
  · exact ⟨c, (cursor?_answer_of_ne (lt_length_of_cursor? hopen) habout).trans hopen⟩

theorem exists_cursor?_run {c : Cursor σ} (hopen : s.cursor? k = some c) {requests : List Request}
    (hclose : .closeCursor k ∉ requests) : ∃ d, (s.run requests).2.cursor? k = some d := by
  induction requests generalizing s c with
  | nil => exact ⟨c, hopen⟩
  | cons r rest ih =>
    rw [List.mem_cons, not_or] at hclose
    obtain ⟨d, hd⟩ := exists_cursor?_answer hopen (Ne.symm hclose.1)
    exact ih hd hclose.2

/-- **Nothing leaks from one scan into the next.**  A cursor is opened, and whatever is asked then,
of it and of any others, a filter of this cursor that is accepted gives what it gives for a cursor
that was just opened: the same answer, and a cursor with the same context, the same row and the same
number.  It makes no difference whether the other cursor is opened on this connection, or on one
where nothing was asked of the first cursor.  All later answers are the same as well, also those
about other cursors.  The table only has to answer from the context alone.

A filter that is not accepted is answered alike for both cursors too, but before either is touched:
the used one keeps its scan, and the new one has none. -/
theorem scan_forgets_history {s : Session τ σ} (hforgets : s.adapter.table.Forgetful) {k : Nat}
    (hnew : s.cursor? k = some .new) {history : List Request} (hclose : .closeCursor k ∉ history)
    (plan : Int) (values : List EngineValue) :
    ∃ c, (s.run history).2.cursor? k = some c ∧
      (s.run (otherRequests k history)).2.cursor? k = some .new ∧
      (s.run history).2.adapter.Alike (s.run (otherRequests k history)).2.adapter ∧
      (∀ p, (s.run history).2.adapter.Accepts plan values p →
        (∀ b, (s.run history).2.adapter.Alike b →
          Adapter.outcome ((s.run history).2.adapter.filter c plan values) =
              Adapter.outcome (b.filter .new plan values) ∧
            ∀ later,
              ((alone (s.run history).2.adapter (some c)).run (.filter 0 plan values :: later)).1 =
                ((alone b (some .new)).run (.filter 0 plan values :: later)).1) ∧
        ∀ later,
          ((s.run history).2.run (.filter k plan values :: later)).1 =
            ((s.run (otherRequests k history)).2.run (.filter k plan values :: later)).1) ∧
      (∀ e, (s.run history).2.adapter.Stops plan values e →
        (s.run history).2.adapter.filter c plan values = (.error e, c, (s.run history).2.adapter) ∧
        ∀ b, (s.run history).2.adapter.Alike b →
          b.filter .new plan values = (.error e, .new, b)) ∧
      ((∃ e, (s.run history).2.adapter.Stops plan values e) ∨
        ∃ p, (s.run history).2.adapter.Accepts plan values p) := by
  obtain ⟨c, hopen⟩ := exists_cursor?_run hnew hclose
  have hspared := cursor?_run_otherRequests hnew history
  have hagrees := (Agrees.refl (some k) s).run hforgets history
  have hforgets' : (s.run history).2.adapter.table.Forgetful := by rwa [table_run]
  refine ⟨c, hopen, hspared, hagrees.adapter, fun p haccepts ↦ ⟨fun b halike ↦ ⟨?_, ?_⟩, ?_⟩,
    fun e hstops ↦ ⟨Adapter.filter_of_stops hstops, fun b halike ↦
      Adapter.filter_of_stops (halike.stops hstops)⟩, Adapter.stops_or_accepts _ plan values⟩
  · rw [haccepts.filter_eq c .new]
    exact Adapter.outcome_filter hforgets' halike .new plan values
  · exact Agrees.replies_filter (s := alone _ (some c)) (t := alone b (some .new)) hforgets'
      (agrees_alone halike _ _) rfl rfl haccepts
  · exact hagrees.replies_filter hforgets' hopen hspared haccepts

/-! ### A table that fails -/

/-- A cursor on the table that breaks after one row, and one plan. -/
def breaking : Session Sample.Usage Sample.Place :=
  ((new { table := Sample.Broken.virtualTable, memory := .counting, backlog := .new 20 }).run
    [.bestIndex [] 1, .openCursor]).2

/-- A scan that fails, goes on failing, and is filtered by a plan that is not kept. -/
def troubles : List Request :=
  [.filter 0 1 [], .row 0, .next 0, .next 0, .filter 0 7 [], .position 0]

/-- After the troubles the cursor is at its end.  A filter brings it to the first row, with the
replies that a cursor gives which had none of them. -/
theorem scan_after_troubles :
    ((breaking.run troubles).2.answer (.position 0)).1 = .located true 1 ∧
      (breaking.run (otherRequests 0 troubles)).2.cursor? 0 = some .new ∧
      ((breaking.run troubles).2.run [.filter 0 1 [], .column 0 0]).1 =
        ((breaking.run (otherRequests 0 troubles)).2.run [.filter 0 1 [], .column 0 0]).1 ∧
      ((breaking.run troubles).2.run [.filter 0 1 [], .column 0 0]).1 =
        [.moved none false 1, .cell (.integer (.wrap .int8 1))] := by
  have haccepts : (breaking.run troubles).2.adapter.Accepts 1 []
      ⟨1, [], .ofList [Sample.Broken.id]⟩ :=
    ⟨rfl, rfl, by simp⟩
  have hclose : .closeCursor 0 ∉ troubles := by decide
  obtain ⟨c, -, hspared, -, haccepted, -, -⟩ :=
    scan_forgets_history (s := breaking) Sample.Broken.forgetful_virtualTable rfl hclose 1 []
  exact ⟨rfl, hspared, (haccepted _ haccepts).2 [.column 0 0], rfl⟩

end Session

end VirtualTables
