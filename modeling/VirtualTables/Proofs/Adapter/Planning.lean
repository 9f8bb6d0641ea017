import VirtualTables.Adapter.Session
import VirtualTables.Proofs.Adapter.Values
import VirtualTables.Proofs.Plan.Backlog
import VirtualTables.Proofs.Plan.Pushdown

/-!
# The plans of a session

Of all the requests that a session answers, only one changes the plans: `bestIndex`, and only if it
is not refused.  `Session.plan_cases` is the inversion lemma that says so, and with it every
statement about plans is an induction over the requests with two cases.

* `Adapter.filter_cases` — a filter stops before anything is changed, or it starts a scan.
* `Session.plansMade` — the plans that were made in a run, with the queries they were made for.
* `Session.forall_plans_run` — what holds of every new plan holds of every plan that is kept.
* `Session.Tracks` — the backlog of the adapter is the one that minting these plans in order gives.
  `tracks_run` says that this is so after every run in which the numbers of plans do not wrap
  around, whatever scans, cursors and refusals there were in between.
-/

namespace VirtualTables

variable {τ σ : Type}

/-! ## What moving a cursor leaves alone -/

namespace Adapter

variable {a : Adapter τ σ} {c : Cursor σ} {p : Plan} {constraints : List Constraint}
  {plan : Int} {values : List EngineValue}

@[simp]
theorem table_next : (a.next c).2.2.table = a.table := by
  rw [Adapter.next]
  split <;> rfl

@[simp]
theorem backlog_next : (a.next c).2.2.backlog = a.backlog := by
  rw [Adapter.next]
  split <;> rfl

@[simp]
theorem table_prepare : (a.prepare p constraints).2.2.table = a.table :=
  rfl

@[simp]
theorem backlog_prepare : (a.prepare p constraints).2.2.backlog = a.backlog :=
  rfl

@[simp]
theorem table_start : (a.start p constraints).2.2.table = a.table := by
  have hprepare : (a.prepare p constraints).2.2.table = a.table := table_prepare
  rw [start]
  split
  · rename_i h
    rwa [h] at hprepare
  · rename_i h
    rw [h] at hprepare
    rw [table_next, hprepare]

@[simp]
theorem backlog_start : (a.start p constraints).2.2.backlog = a.backlog := by
  have hprepare : (a.prepare p constraints).2.2.backlog = a.backlog := backlog_prepare
  rw [start]
  split
  · rename_i h
    rwa [h] at hprepare
  · rename_i h
    rw [h] at hprepare
    rw [backlog_next, hprepare]

/-- A filter is refused: its plan is not kept, or takes another number of values. -/
inductive Refuses (a : Adapter τ σ) (plan : Int) (values : List EngineValue) : TableError → Prop
  | unknownPlan (hget : a.backlog.get? plan = none) :
    Refuses a plan values (.unknownPlan a.name plan)
  | valueCount {p : Plan} (hget : a.backlog.get? plan = some p)
      (hlen : values.length ≠ p.constraints.length) :
    Refuses a plan values (.valueCount a.name p.constraints.length values.length)

/-- A filter stops before anything is changed: it is refused, or it has as many values as its plan
takes and one of them cannot be read. -/
inductive Stops (a : Adapter τ σ) (plan : Int) (values : List EngineValue) : AdapterError → Prop
  | refused {e : TableError} (h : a.Refuses plan values e) : Stops a plan values (.table e)
  | unreadable {p : Plan} {slot : Nat} (hget : a.backlog.get? plan = some p)
      (hlen : values.length = p.constraints.length) (hslot : FirstUnreadable values slot) :
    Stops a plan values (.unreadable slot)

/-- A filter is accepted: its plan is kept, there is a value for each constraint of the plan, and
each of them can be read. -/
structure Accepts (a : Adapter τ σ) (plan : Int) (values : List EngineValue) (p : Plan) : Prop where
  kept : a.backlog.get? plan = some p
  length : values.length = p.constraints.length
  readable : ∀ v ∈ values, v.IsReadable

/-- A filter whose plan is not kept changes nothing. -/
theorem filter_of_get?_eq_none (h : a.backlog.get? plan = none) :
    a.filter c plan values = (.error (.table (.unknownPlan a.name plan)), c, a) := by
  rw [filter, h]

/-- A filter that is accepted starts a scan, whatever the cursor was doing. -/
theorem filter_of_accepts (h : a.Accepts plan values p) :
    a.filter c plan values = a.start p (bound p.constraints values) := by
  rw [filter, h.kept]
  simp only [h.length, ne_eq, not_true_eq_false, if_false, bindValues_of_readable h.readable]

/-- A filter that stops changes nothing. -/
theorem filter_of_stops {e : AdapterError} (h : a.Stops plan values e) :
    a.filter c plan values = (.error e, c, a) := by
  cases h with
  | refused h =>
    cases h with
    | unknownPlan hget => exact filter_of_get?_eq_none hget
    | valueCount hget hlen =>
      rw [filter, hget]
      exact if_pos hlen
  | unreadable hget hlen hslot =>
    rw [filter, hget]
    simp only [hlen, ne_eq, not_true_eq_false, if_false, bindValues_of_firstUnreadable hslot hlen]

/-- A filter that is refused changes nothing. -/
theorem filter_of_refuses {e : TableError} (h : a.Refuses plan values e) :
    a.filter c plan values = (.error (.table e), c, a) :=
  filter_of_stops (.refused h)

/-- A filter is accepted, or something speaks against it. -/
theorem stops_or_accepts (a : Adapter τ σ) (plan : Int) (values : List EngineValue) :
    (∃ e, a.Stops plan values e) ∨ ∃ p, a.Accepts plan values p := by
  cases hget : a.backlog.get? plan with
  | none => exact .inl ⟨_, .refused (.unknownPlan hget)⟩
  | some p =>
    by_cases hlen : values.length = p.constraints.length
    · by_cases hreadable : ∀ v ∈ values, v.IsReadable
      · exact .inr ⟨p, hget, hlen, hreadable⟩
      · obtain ⟨slot, hslot⟩ := exists_firstUnreadable hreadable
        exact .inl ⟨_, .unreadable hget hlen hslot⟩
    · exact .inl ⟨_, .refused (.valueCount hget hlen)⟩

theorem Accepts.not_stops (h : a.Accepts plan values p) (e : AdapterError) :
    ¬a.Stops plan values e := by
  rintro ((hnone | ⟨hother, hne⟩) | ⟨-, -, hslot⟩)
  · exact absurd (h.kept.symm.trans hnone) (by simp)
  · obtain rfl := Option.some_inj.1 (h.kept.symm.trans hother)
    exact hne h.length
  · exact hslot.not_readable h.readable

section Congruence

variable {τ' σ' : Type} {b : Adapter τ' σ'} {e : AdapterError}

/-- Whether a filter stops does not depend on more than the name of the table and the plans. -/
theorem Stops.congr (h : a.Stops plan values e) (hname : b.name = a.name)
    (hbacklog : b.backlog = a.backlog) : b.Stops plan values e := by
  cases h with
  | refused h =>
    cases h with
    | unknownPlan hget =>
      rw [← hname]
      exact .refused (.unknownPlan (hbacklog ▸ hget))
    | valueCount hget hlen =>
      rw [← hname]
      exact .refused (.valueCount (hbacklog ▸ hget) hlen)
  | unreadable hget hlen hslot => exact .unreadable (hbacklog ▸ hget) hlen hslot

theorem Accepts.congr (h : a.Accepts plan values p) (hbacklog : b.backlog = a.backlog) :
    b.Accepts plan values p :=
  ⟨hbacklog ▸ h.kept, h.length, h.readable⟩

end Congruence

/-- **What a filter can do**: it stops before anything is changed, or it starts a scan. -/
theorem filter_cases (a : Adapter τ σ) (c : Cursor σ) (plan : Int) (values : List EngineValue) :
    (∃ e, a.Stops plan values e ∧ a.filter c plan values = (.error e, c, a)) ∨
      ∃ p, a.Accepts plan values p ∧
        a.filter c plan values = a.start p (bound p.constraints values) := by
  obtain ⟨e, hstops⟩ | ⟨p, haccepts⟩ := a.stops_or_accepts plan values
  · exact .inl ⟨e, hstops, filter_of_stops hstops⟩
  · exact .inr ⟨p, haccepts, filter_of_accepts haccepts⟩

@[simp]
theorem table_filter : (a.filter c plan values).2.2.table = a.table := by
  obtain ⟨e, -, h⟩ | ⟨p, -, h⟩ := a.filter_cases c plan values
  · rw [h]
  · rw [h, table_start]

@[simp]
theorem backlog_filter : (a.filter c plan values).2.2.backlog = a.backlog := by
  obtain ⟨e, -, h⟩ | ⟨p, -, h⟩ := a.filter_cases c plan values
  · rw [h]
  · rw [h, backlog_start]

end Adapter

namespace Session

/-! ## Requests and plans -/

/-- A plan as the engine knows it: the query it was made for, and what the engine was told. -/
structure PlanMade where
  candidates : List Candidate
  used : BitVec 64
  offer : PlanOffer

/-- The plan that was made when a request was given a reply. -/
def PlanMade.of? : Request × Reply → Option PlanMade
  | (.bestIndex candidates used, .planned offer) => some { candidates, used, offer }
  | _ => none

/-- The plans that are made while requests are answered, in order. -/
def plansMade (s : Session τ σ) (requests : List Request) : List PlanMade :=
  (requests.zip (s.run requests).1).filterMap PlanMade.of?

/-- **Only a query that is not refused changes the plans**, and what it mints is what planning
decided. -/
theorem plan_cases (s : Session τ σ) (r : Request) :
    (∃ candidates used p, r = .bestIndex candidates used ∧
        s.adapter.definition.pushdown candidates used = .ok p ∧
        PlanMade.of? (r, (s.answer r).1) = some
          { candidates, used
            offer := { id := s.adapter.backlog.nextId, slots := p.slots, cost := p.cost,
                       rows := p.rows } } ∧
        (s.answer r).2.adapter.backlog = (s.adapter.backlog.mint p.constraints p.requested).2) ∨
      PlanMade.of? (r, (s.answer r).1) = none ∧
        (s.answer r).2.adapter.backlog = s.adapter.backlog := by
  cases r with
  | bestIndex candidates used =>
    cases hpush : s.adapter.definition.pushdown candidates used with
    | error e =>
      refine .inr ⟨?_, ?_⟩ <;> simp [answer, Adapter.bestIndex, hpush, PlanMade.of?]
    | ok p =>
      refine .inl ⟨candidates, used, p, rfl, hpush, ?_, ?_⟩ <;>
        simp [answer, Adapter.bestIndex, hpush, PlanMade.of?]
  | openCursor => exact .inr ⟨rfl, rfl⟩
  | closeCursor k =>
    refine .inr ⟨rfl, ?_⟩
    rw [answer, withCursor]
    split <;> rfl
  | filter k plan values =>
    refine .inr ⟨rfl, ?_⟩
    rw [answer, withCursor]
    split
    · rfl
    · exact Adapter.backlog_filter
  | next k =>
    refine .inr ⟨rfl, ?_⟩
    rw [answer, withCursor]
    split
    · rfl
    · exact Adapter.backlog_next
  | position k =>
    refine .inr ⟨rfl, ?_⟩
    rw [answer, withCursor]
    split <;> rfl
  | column k index =>
    refine .inr ⟨rfl, ?_⟩
    rw [answer, withCursor]
    split <;> rfl
  | row k =>
    refine .inr ⟨rfl, ?_⟩
    rw [answer, withCursor]
    split <;> rfl

/-- The table stays the same. -/
@[simp]
theorem table_answer (s : Session τ σ) (r : Request) :
    (s.answer r).2.adapter.table = s.adapter.table := by
  cases r with
  | bestIndex candidates used =>
    cases hpush : s.adapter.definition.pushdown candidates used <;>
      simp [answer, Adapter.bestIndex, hpush]
  | openCursor => rfl
  | filter k plan values =>
    rw [answer, withCursor]
    split
    · rfl
    · exact Adapter.table_filter
  | next k =>
    rw [answer, withCursor]
    split
    · rfl
    · exact Adapter.table_next
  | closeCursor k | position k | column k index | row k =>
    rw [answer, withCursor]
    split <;> rfl

@[simp]
theorem definition_answer (s : Session τ σ) (r : Request) :
    (s.answer r).2.adapter.definition = s.adapter.definition := by
  rw [Adapter.definition, table_answer, Adapter.definition]

/-! ## Runs -/

@[simp]
theorem run_nil (s : Session τ σ) : s.run [] = ([], s) :=
  rfl

theorem run_cons (s : Session τ σ) (r : Request) (rest : List Request) :
    s.run (r :: rest) =
      ((s.answer r).1 :: ((s.answer r).2.run rest).1, ((s.answer r).2.run rest).2) :=
  rfl

theorem run_append (s : Session τ σ) (xs ys : List Request) :
    (s.run (xs ++ ys)).2 = ((s.run xs).2.run ys).2 := by
  induction xs generalizing s with
  | nil => rfl
  | cons r rest ih => rw [List.cons_append, run_cons, run_cons, ih]

@[simp]
theorem definition_run (s : Session τ σ) (requests : List Request) :
    (s.run requests).2.adapter.definition = s.adapter.definition := by
  induction requests generalizing s with
  | nil => rfl
  | cons r rest ih => rw [run_cons, ih, definition_answer]

@[simp]
theorem plansMade_nil (s : Session τ σ) : s.plansMade [] = [] :=
  rfl

theorem plansMade_cons (s : Session τ σ) (r : Request) (rest : List Request) :
    s.plansMade (r :: rest) =
      (PlanMade.of? (r, (s.answer r).1)).toList ++ (s.answer r).2.plansMade rest := by
  rw [plansMade, run_cons, List.zip_cons_cons]
  cases h : PlanMade.of? (r, (s.answer r).1) with
  | none => rw [List.filterMap_cons_none h]; rfl
  | some x => rw [List.filterMap_cons_some h]; rfl

theorem plansMade_append (s : Session τ σ) (xs ys : List Request) :
    s.plansMade (xs ++ ys) = s.plansMade xs ++ (s.run xs).2.plansMade ys := by
  induction xs generalizing s with
  | nil => rfl
  | cons r rest ih =>
    rw [List.cons_append, plansMade_cons, plansMade_cons, ih, run_cons, List.append_assoc]

/-- The number of plans that are kept is settled when the session begins. -/
@[simp]
theorem reach_run (s : Session τ σ) (requests : List Request) :
    (s.run requests).2.adapter.backlog.reach = s.adapter.backlog.reach := by
  induction requests generalizing s with
  | nil => rfl
  | cons r rest ih =>
    rw [run_cons, ih]
    obtain ⟨candidates, used, p, -, -, -, hbacklog⟩ | ⟨-, hbacklog⟩ := s.plan_cases r
    · rw [hbacklog, PlanBacklog.reach_mint]
    · rw [hbacklog]

/-! ## What every kept plan is like -/

/-- A property of plans that planning establishes holds of every plan that is kept. -/
theorem forall_plans_run {P : Plan → Prop} (s : Session τ σ) (requests : List Request)
    (hnew : ∀ candidates used p id, s.adapter.definition.pushdown candidates used = .ok p →
      P { id, constraints := p.constraints, requested := p.requested })
    (hs : ∀ p ∈ s.adapter.backlog.plans, P p) :
    ∀ p ∈ (s.run requests).2.adapter.backlog.plans, P p := by
  induction requests generalizing s with
  | nil => exact hs
  | cons r rest ih =>
    rw [run_cons]
    refine ih _ (by simpa using hnew) fun p hp ↦ ?_
    obtain ⟨candidates, used, q, -, hpush, -, hbacklog⟩ | ⟨-, hbacklog⟩ := s.plan_cases r
    · rw [hbacklog] at hp
      rcases PlanBacklog.mem_mint hp with rfl | hp
      · exact hnew candidates used q _ hpush
      · exact hs p hp
    · rw [hbacklog] at hp
      exact hs p hp

/-! ## The plans in closed form -/

/-- The plan that was minted when a plan was made. -/
def PlanMade.plan (d : TableDef) (x : PlanMade) : Plan where
  id := x.offer.id
  constraints := (x.candidates.filterMap d.accept?).map Prod.snd
  requested := d.requestedColumns x.used

theorem PlanMade.getElem?_map_plan {d : TableDef} {made : List PlanMade} {i : Nat} {x : PlanMade}
    (hx : made[i]? = some x) : (made.map (PlanMade.plan d))[i]? = some (x.plan d) := by
  rw [List.getElem?_map, hx, Option.map_some]

/-- The session of a table for which the plans `made` were made, in this order. -/
structure Tracks (s : Session τ σ) (made : List PlanMade) : Prop where
  slots : ∀ x ∈ made, x.offer.slots = s.adapter.definition.slotsAfter 0 x.candidates
  keeps : s.adapter.backlog.Keeps (made.map (PlanMade.plan s.adapter.definition))

theorem Tracks.answer {s : Session τ σ} {made : List PlanMade} (h : s.Tracks made) (r : Request)
    (hfew : (made ++ (PlanMade.of? (r, (s.answer r).1)).toList).length < 2 ^ 31 - 1) :
    (s.answer r).2.Tracks (made ++ (PlanMade.of? (r, (s.answer r).1)).toList) := by
  obtain ⟨candidates, used, p, -, hpush, hmade, hbacklog⟩ | ⟨hmade, hbacklog⟩ := s.plan_cases r
  · obtain ⟨-, hconstraints, hslots, hrequested⟩ := TableDef.pushdown_eq_ok hpush
    rw [hmade, Option.toList_some, List.length_append, List.length_singleton] at hfew
    rw [hmade, Option.toList_some]
    constructor
    · rw [definition_answer]
      intro x hx
      rcases List.mem_append.1 hx with hx | hx
      · exact h.slots x hx
      · obtain rfl := List.mem_singleton.1 hx
        exact hslots
    · rw [definition_answer, hbacklog, List.map_append, hconstraints, hrequested]
      exact h.keeps.mint (by rwa [List.length_map])
  · rw [hmade, Option.toList_none, List.append_nil]
    exact ⟨by rw [definition_answer]; exact h.slots,
      by rw [definition_answer, hbacklog]; exact h.keeps⟩

theorem Tracks.run {s : Session τ σ} {made : List PlanMade} (h : s.Tracks made)
    (requests : List Request)
    (hfew : (made ++ s.plansMade requests).length < 2 ^ 31 - 1) :
    (s.run requests).2.Tracks (made ++ s.plansMade requests) := by
  induction requests generalizing s made with
  | nil => simpa using h
  | cons r rest ih =>
    rw [plansMade_cons, ← List.append_assoc] at hfew ⊢
    rw [run_cons]
    refine ih (h.answer r ?_) hfew
    rw [List.length_append] at hfew
    omega

namespace Tracks

variable {s : Session τ σ} {made : List PlanMade}

/-- The plans that are kept are known by the numbers that the engine was given. -/
theorem getElem?_of_get? (h : s.Tracks made) {id : Int} {p : Plan}
    (hget : s.adapter.backlog.get? id = some p) :
    ∃ (i : Nat) (x : PlanMade), made[i]? = some x ∧ x.plan s.adapter.definition = p ∧
      id = i + 1 := by
  obtain ⟨i, hi, hid, -⟩ := h.keeps.get?_eq_some_iff.1 hget
  obtain ⟨x, hx, hplan⟩ := Option.map_eq_some_iff.1 (List.getElem?_map ▸ hi)
  exact ⟨i, x, hx, hplan, hid⟩

/-- The numbers that the engine was given are the places of the plans. -/
theorem id_of_getElem? (h : s.Tracks made) {i : Nat} {x : PlanMade} (hx : made[i]? = some x) :
    x.offer.id = i + 1 := by
  rw [Int.add_comm]
  exact h.keeps.numbered i _ (PlanMade.getElem?_map_plan hx)

/-- A number that no plan has finds nothing. -/
theorem get?_eq_none (h : s.Tracks made) {id : Int} (hid : ∀ x ∈ made, x.offer.id ≠ id) :
    s.adapter.backlog.get? id = none := by
  cases hget : s.adapter.backlog.get? id with
  | none => rfl
  | some p =>
    obtain ⟨i, x, hx, -, hi⟩ := h.getElem?_of_get? hget
    exact absurd ((h.id_of_getElem? hx).trans hi.symm) (hid x (List.mem_of_getElem? hx))

end Tracks

theorem adapter_of_connect {table : VirtualTable τ σ} {memory : τ} {window : Nat}
    {a : Adapter τ σ} (h : Adapter.connect table memory window = .ok a) :
    a = { table, memory, backlog := .new window } ∧ table.definition.WellFormed := by
  rw [Adapter.connect] at h
  split at h
  · rename_i hvalid
    rw [Except.ok.injEq] at h
    exact ⟨h.symm, TableDef.wellFormed_of_validate hvalid⟩
  · exact absurd h (by simp)

/-- **The plans of a session that began with a new connection.** -/
theorem tracks_run {table : VirtualTable τ σ} {memory : τ} {window : Nat} {a : Adapter τ σ}
    (h : Adapter.connect table memory window = .ok a) (requests : List Request)
    (hfew : ((new a).plansMade requests).length < 2 ^ 31 - 1) :
    ((new a).run requests).2.Tracks ((new a).plansMade requests) := by
  obtain ⟨rfl, -⟩ := adapter_of_connect h
  have hnew : (new { table, memory, backlog := .new window : Adapter τ σ }).Tracks [] :=
    ⟨fun x hx ↦ absurd hx List.not_mem_nil, PlanBacklog.keeps_new window⟩
  simpa using hnew.run requests (by simpa using hfew)

end Session

end VirtualTables
