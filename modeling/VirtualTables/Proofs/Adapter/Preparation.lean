import VirtualTables.Proofs.Adapter.Observation
import VirtualTables.Sample.Scripted

/-!
# With what a scan is prepared

Planning and scanning are two calls of an engine, and between them there may be any number of other
calls.  All that connects the two is the number of the plan: the constraints were accepted in the
first call, their values come with the second, and the places of the values were told to the engine
in between.  This module says that the two halves fit together when a table is asked to prepare a
scan, after every run of requests.

* `prepared_constraints_honour_definition` — every constraint is one that the table handles, and a
  required column is constrained.  So such a column is never scanned without a constraint on it.
* `prepared_context_of_plan` — the context is the one that belongs to the plan with the number of
  the scan, value by value.

The first needs no bound on the numbers of plans: it is carried by a property that planning
establishes for every plan and that no eviction can spoil.
-/

namespace VirtualTables

variable {τ σ : Type}

/-! ## When a table is asked to prepare -/

namespace Adapter

/-- The only context that `start` has a table prepare is that of its plan and its constraints. -/
theorem prepare_mem_startCalls {a : Adapter τ σ} {p : Plan} {constraints : List Constraint}
    {given left : QueryContext σ} (h : .prepare given left ∈ a.startCalls p constraints) :
    given = scanContext p constraints := by
  have hfirst : .prepare given left ∈ a.prepareCalls p constraints →
      given = scanContext p constraints := by
    intro hmem
    rw [prepareCalls, List.mem_singleton, TableCall.prepare.injEq] at hmem
    exact hmem.1
  rw [startCalls] at h
  split at h
  · exact hfirst h
  · rename_i c a' _
    rcases List.mem_append.1 h with h | h
    · exact hfirst h
    · rw [nextCalls] at h
      split at h
      · exact absurd h List.not_mem_nil
      · exact absurd (List.mem_singleton.1 h) (by simp)

theorem prepare_mem_filterCalls {a : Adapter τ σ} {plan : Int} {values : List EngineValue}
    {given left : QueryContext σ} (h : .prepare given left ∈ a.filterCalls plan values) :
    ∃ p, a.Accepts plan values p ∧ given = scanContext p (bound p.constraints values) := by
  obtain ⟨e, hstops⟩ | ⟨p, haccepts⟩ := a.stops_or_accepts plan values
  · rw [filterCalls_of_stops hstops] at h
    exact absurd h List.not_mem_nil
  · rw [filterCalls_of_accepts haccepts] at h
    exact ⟨p, haccepts, prepare_mem_startCalls h⟩

end Adapter

namespace Session

/-- **A table is asked to prepare a scan only by a filter that is accepted**: its plan is kept, and
it has a value for each constraint of the plan. -/
theorem prepare_mem_callsOf {s : Session τ σ} {r : Request} {given left : QueryContext σ}
    (h : .prepare given left ∈ s.callsOf r) :
    ∃ cursor plan values p, r = .filter cursor plan values ∧ s.adapter.Accepts plan values p ∧
      given = Adapter.scanContext p (Adapter.bound p.constraints values) := by
  cases r with
  | filter cursor plan values =>
    rw [callsOf] at h
    split at h
    · obtain ⟨p, haccepts, hgiven⟩ := Adapter.prepare_mem_filterCalls h
      exact ⟨cursor, plan, values, p, rfl, haccepts, hgiven⟩
    · exact absurd h List.not_mem_nil
  | next cursor =>
    rw [callsOf] at h
    cases hc : s.cursor? cursor with
    | none => simp [hc] at h
    | some c =>
      rw [hc, Option.map_some, Option.getD_some, Adapter.nextCalls] at h
      split at h
      · exact absurd h List.not_mem_nil
      · exact absurd (List.mem_singleton.1 h) (by simp)
  | bestIndex | openCursor | closeCursor | position | column | row =>
    exact absurd h List.not_mem_nil

/-- In a run, every call was made by one of the requests. -/
theorem exists_callsOf_of_mem_tableCalls {s : Session τ σ} {requests : List Request}
    {call : TableCall σ} (h : call ∈ s.tableCalls requests) :
    ∃ before r after, requests = before ++ r :: after ∧
      call ∈ (s.run before).2.callsOf r := by
  induction requests generalizing s with
  | nil => exact absurd h List.not_mem_nil
  | cons r rest ih =>
    rw [tableCalls_cons, List.mem_append] at h
    rcases h with h | h
    · exact ⟨[], r, rest, rfl, h⟩
    · obtain ⟨before, r', after, hrest, hcall⟩ := ih h
      exact ⟨r :: before, r', after, by rw [hrest, List.cons_append], hcall⟩

/-! ## Constraints and required columns -/

/-- **A scan is prepared with constraints that the table handles, and with one on every required
column**, whatever was asked before it. -/
theorem prepared_constraints_honour_definition {table : VirtualTable τ σ} {memory : τ}
    {window : Nat} {a : Adapter τ σ} (h : Adapter.connect table memory window = .ok a)
    (requests : List Request) (given left : QueryContext σ)
    (hcall : .prepare given left ∈ (new a).tableCalls requests) :
    (∀ c ∈ given.constraints,
        ∃ column ∈ table.definition.columns, column.field = c.field ∧ column.Handles c.op) ∧
      ∀ column ∈ table.definition.columns, column.isAlias = false → column.isRequired = true →
        ∃ c ∈ given.constraints, c.field = column.field := by
  obtain ⟨rfl, hvalid⟩ := adapter_of_connect h
  set s := new { table, memory, backlog := .new window : Adapter τ σ } with hs
  obtain ⟨before, r, after, -, hr⟩ := exists_callsOf_of_mem_tableCalls hcall
  obtain ⟨cursor, plan, values, p, -, haccepts, rfl⟩ := prepare_mem_callsOf hr
  have hkept : p ∈ (s.run before).2.adapter.backlog.plans :=
    List.mem_of_find?_eq_some haccepts.kept
  -- every plan that is kept was made by planning, and planning makes no other plans
  have hplan : table.definition.Honours p.constraints :=
    forall_plans_run (P := fun p ↦ table.definition.Honours p.constraints) s before
      (fun _ _ _ _ hpush ↦ TableDef.honours_of_pushdown hvalid hpush)
      (fun _ hp ↦ absurd hp List.not_mem_nil) p hkept
  constructor
  · intro c hc
    obtain ⟨planned, hplanned, hfield, hop⟩ := Adapter.mem_bound hc
    obtain ⟨column, hcolumn, hsame, hhandles⟩ := hplan.handled planned hplanned
    exact ⟨column, hcolumn, hsame.trans hfield, hop ▸ hhandles⟩
  · intro column hcolumn halias hrequired
    obtain ⟨planned, hplanned, hfield⟩ := hplan.required column hcolumn halias hrequired
    obtain ⟨c, hc, hsame, -⟩ := Adapter.exists_mem_bound haccepts.length hplanned
    exact ⟨c, hc, hsame.trans hfield⟩

/-! ### A table of measurements -/

namespace Measurements

/-- The schema of the table. -/
def schema : Schema :=
  ⟨.shared, "measurements"⟩

def station : Field :=
  .inSchema schema (.integer .int8) "station"

def degrees : Field :=
  .inSchema schema (.integer .int8) "degrees"

def place : Field :=
  .inSchema schema .undefined "place"

def number (n : Int) : Value :=
  .integer .int8 (.wrap .int8 n)

/-- A query has to say which station it asks for, by that name or by that of the alias.  The second
row sets a cell twice, and cells are left behind at the end. -/
def script : Sample.Script where
  definition :=
    { schema := schema
      columns :=
        [(Column.plain station).withOptions .required, .plain degrees, .aliasOf place station]
      attributes := [] }
  rows := [[(0, number 1), (1, number 12)], [(0, number 2), (1, number 9), (1, number 7)]]
  failPrepare := none
  failAt := none
  dirtyEnd := true

/-- A connection to the table. -/
def connection : Adapter Sample.Usage Sample.Place :=
  { table := script.virtualTable, memory := .counting, backlog := .new 20 }

theorem connect_eq_ok : Adapter.connect script.virtualTable .counting 20 = .ok connection :=
  rfl

/-- Two plans are made and one is refused.  For the first plan the alias is offered, after a column
that takes no constraints. -/
def requests : List Request :=
  [.bestIndex [⟨1, some .eq, true⟩, ⟨2, some .eq, true⟩] 5, .openCursor, .bestIndex [] 1,
    .bestIndex [⟨0, some .eq, true⟩] 3]

/-- The context of a scan with the first plan. -/
def context : QueryContext Sample.Place :=
  .new [⟨station, .eq, .undefined⟩] (.ofList [station])

end Measurements

open Measurements in
/-- The required column is constrained through its alias. -/
theorem prepared_constraints_of_measurements :
    .prepare context (context.setState (.position 0)) ∈
        (new connection).tableCalls (requests ++ [.filter 0 1 [.null]]) ∧
      ∃ c ∈ context.constraints, c.field = station := by
  have hcall : .prepare context (context.setState (.position 0)) ∈
      (new connection).tableCalls (requests ++ [.filter 0 1 [.null]]) := List.mem_of_mem_head? rfl
  exact ⟨hcall, (prepared_constraints_honour_definition connect_eq_ok _ _ _ hcall).2 _
    List.mem_cons_self rfl rfl⟩

/-! ## The plan of a scan -/

/-- The context that belongs to a plan and the values of a scan. -/
structure PlanMade.Governs (d : TableDef) (x : PlanMade) (values : List EngineValue)
    (ctx : QueryContext σ) : Prop where
  /-- There is a value for every candidate that was accepted. -/
  length_values : values.length = x.offer.slots.reduceOption.length
  /-- No value is a text that is not well-formed. -/
  readable : ∀ v ∈ values, v.IsReadable
  length_constraints : ctx.constraints.length = values.length
  /-- A candidate with a place has its constraint, with the value, at this place. -/
  bound : ∀ (j s : Nat) (c : Candidate), x.candidates[j]? = some c →
    x.offer.slots[j]? = some (some s) →
    ∃ position column op v, 0 ≤ c.column ∧
      d.resolve? c.column.toNat = some (position, column) ∧ c.op = some op ∧
      0 < s ∧ values[s - 1]? = some v ∧
      ctx.constraints[s - 1]? = some ⟨column.field, op, v.toValue⟩
  /-- Every constraint is at the place of a candidate. -/
  placed : ∀ q < ctx.constraints.length, ∃ j : Nat, x.offer.slots[j]? = some (some (q + 1))
  requested : ctx.requested = d.requestedColumns x.used

/-- What `prepare` is given for the plan that was minted for `x`. -/
theorem PlanMade.governs_scanContext {d : TableDef} {x : PlanMade} {values : List EngineValue}
    (hslots : x.offer.slots = d.slotsAfter 0 x.candidates)
    (hlen : values.length = (x.plan d).constraints.length)
    (hreadable : ∀ v ∈ values, v.IsReadable) :
    x.Governs (σ := σ) d values
      (Adapter.scanContext (x.plan d) (Adapter.bound (x.plan d).constraints values)) := by
  have haccepted : values.length = (x.candidates.filterMap d.accept?).length := by
    rw [hlen, PlanMade.plan, List.length_map]
  have hbind : (Adapter.bound (x.plan d).constraints values).length = values.length := by
    rw [hlen]
    exact Adapter.length_bound hlen
  refine ⟨?_, hreadable, hbind, ?_, ?_, rfl⟩
  · rw [hslots, TableDef.reduceOption_slotsAfter, List.length_range', haccepted]
  · intro j s c hc hs
    rw [hslots] at hs
    obtain ⟨hpos, c', ⟨position, planned⟩, hc', haccept, hat⟩ := TableDef.getElem?_of_slotsAfter hs
    obtain rfl : c' = c := Option.some_inj.1 (hc'.symm.trans hc)
    obtain ⟨-, hcolumn, hop, column, hres, -, -, hfield⟩ := TableDef.accept?_eq_some_iff.1 haccept
    have hplanned : (x.plan d).constraints[s - 1]? = some planned := by
      rw [PlanMade.plan, List.getElem?_map]
      simpa using congrArg (Option.map Prod.snd) hat
    have hlt : s - 1 < values.length := by
      rw [hlen]
      exact (List.getElem?_eq_some_iff.1 hplanned).1
    have hv : values[s - 1]? = some values[s - 1] := List.getElem?_eq_getElem hlt
    refine ⟨position, column, planned.op, values[s - 1], hcolumn, hres, hop, hpos, hv, ?_⟩
    rw [← hfield]
    exact Adapter.getElem?_bound hplanned hv
  · intro q hq
    have hq : q < values.length := hbind ▸ hq
    rw [haccepted] at hq
    rw [hslots]
    simpa using TableDef.exists_slotsAfter 0 hq

namespace Tracks

variable {s : Session τ σ} {made : List PlanMade}

/-- A scan that is prepared has the number of one plan, and the context of that plan. -/
theorem governs_of_prepare (h : s.Tracks made) {cursor : Nat} {id : Int}
    {values : List EngineValue} {given left : QueryContext σ}
    (hcall : .prepare given left ∈ s.tableCalls [.filter cursor id values]) :
    ∃ (i : Nat) (x : PlanMade), made[i]? = some x ∧ x.offer.id = id ∧
      (∀ (j : Nat) (y : PlanMade), made[j]? = some y → y.offer.id = id → j = i) ∧
      x.Governs s.adapter.definition values given := by
  rw [tableCalls_singleton] at hcall
  obtain ⟨_, _, _, p, hr, haccepts, rfl⟩ := prepare_mem_callsOf hcall
  obtain ⟨rfl, rfl, rfl⟩ := Request.filter.inj hr
  obtain ⟨i, x, hx, rfl, hid⟩ := h.getElem?_of_get? haccepts.kept
  refine ⟨i, x, hx, by rw [h.id_of_getElem? hx, hid], fun j y hy hsame ↦ ?_,
    PlanMade.governs_scanContext (h.slots x (List.mem_of_getElem? hx)) haccepts.length
      haccepts.readable⟩
  rw [h.id_of_getElem? hy] at hsame
  omega

end Tracks

/-- A query that is refused leaves the connection as it was. -/
theorem adapter_of_refused {s : Session τ σ} {candidates : List Candidate} {used : BitVec 64}
    {message : String}
    (h : (s.answer (.bestIndex candidates used)).1 = .refused message) :
    (s.answer (.bestIndex candidates used)).2.adapter = s.adapter := by
  cases hpush : s.adapter.definition.pushdown candidates used with
  | error e => simp [answer, Adapter.bestIndex, hpush]
  | ok p => simp [answer, Adapter.bestIndex, hpush] at h

/-- **A scan is prepared with the context of its plan**, that is, of the one query that was given
the number of the scan.  A query that is refused mints nothing and changes no plan, and a number
that was never given out is unknown. -/
theorem prepared_context_of_plan {table : VirtualTable τ σ} {memory : τ} {window : Nat}
    {a : Adapter τ σ} (h : Adapter.connect table memory window = .ok a) (before : List Request)
    (hfew : ((new a).plansMade before).length < 2 ^ 31 - 1) :
    (∀ cursor id values given left,
      .prepare given left ∈ ((new a).run before).2.tableCalls [.filter cursor id values] →
        ∃ (i : Nat) (x : PlanMade), ((new a).plansMade before)[i]? = some x ∧ x.offer.id = id ∧
          (∀ (j : Nat) (y : PlanMade), ((new a).plansMade before)[j]? = some y →
            y.offer.id = id → j = i) ∧
          x.Governs table.definition values given) ∧
      (∀ candidates used message,
        (((new a).run before).2.answer (.bestIndex candidates used)).1 = .refused message →
          ((new a).run before).2.plansMade [.bestIndex candidates used] = [] ∧
          (((new a).run before).2.answer (.bestIndex candidates used)).2.adapter =
            ((new a).run before).2.adapter) ∧
      ∀ c id values, (∀ x ∈ (new a).plansMade before, x.offer.id ≠ id) →
        ((new a).run before).2.adapter.filter c id values =
          (.error (.table (.unknownPlan table.definition.name id)), c,
            ((new a).run before).2.adapter) := by
  have htracks := tracks_run h before hfew
  have hdef : ((new a).run before).2.adapter.definition = table.definition := by
    rw [definition_run, (adapter_of_connect h).1]
    rfl
  refine ⟨fun cursor id values given left hcall ↦ ?_, fun candidates used message hrefused ↦ ?_,
    fun c id values hid ↦ ?_⟩
  · rw [← hdef]
    exact htracks.governs_of_prepare hcall
  · refine ⟨?_, adapter_of_refused hrefused⟩
    rw [plansMade_cons, hrefused]
    rfl
  · rw [Adapter.filter_of_get?_eq_none (htracks.get?_eq_none hid), Adapter.name, hdef]

open Measurements in
/-- The scan with the first plan, after another plan was made and one was refused. -/
theorem prepared_context_of_measurements :
    ((new connection).plansMade requests).length = 2 ∧
      .prepare context (context.setState (.position 0)) ∈
        ((new connection).run requests).2.tableCalls [.filter 0 1 [.null]] ∧
      ∃ (i : Nat) (x : PlanMade), ((new connection).plansMade requests)[i]? = some x ∧
        x.offer.id = 1 ∧ x.Governs script.definition [.null] context := by
  have hlen : ((new connection).plansMade requests).length = 2 := rfl
  have hcall : .prepare context (context.setState (.position 0)) ∈
      ((new connection).run requests).2.tableCalls [.filter 0 1 [.null]] :=
    List.mem_of_mem_head? rfl
  obtain ⟨i, x, hx, hid, -, hgoverns⟩ :=
    (prepared_context_of_plan connect_eq_ok requests (by rw [hlen]; decide)).1 _ _ _ _ _ hcall
  exact ⟨hlen, hcall, i, x, hx, hid, hgoverns⟩

end Session

end VirtualTables
