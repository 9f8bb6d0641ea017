import VirtualTables.Proofs.Adapter.Planning
import VirtualTables.Sample.Users

/-!
# How long a plan is kept

An engine may scan with a plan long after it was made.  `filter_unknownPlan_iff` says for how long a
filter finds it: until as many further plans were made as the window counts for, and the window
counts with its low 32 bits, read as a signed number.  A window below `2 ^ 31` counts as it is; a
wider one can count as zero, and then a plan is lost the moment it is made
(`filter_unknownPlan_of_wide_window`).
-/

namespace VirtualTables

variable {τ σ : Type}

/-! ## Failures that are not about plans -/

theorem Cursor.error_of_settle {c : Cursor σ} {tableName : String} {e : AdapterError}
    (h : (c.settle tableName).1 = .error e) :
    ∃ reason, e = .table (.tableFailed tableName reason) := by
  rw [settle] at h
  split at h
  · exact absurd h (by simp)
  · rename_i ctx _
    cases hfailure : ctx.failure with
    | none => simp [QueryContext.takeFailure, hfailure] at h
    | some reason =>
      simp only [QueryContext.takeFailure, hfailure, Except.error.injEq] at h
      exact ⟨reason, h.symm⟩

namespace Adapter

variable {a : Adapter τ σ} {c : Cursor σ} {e : AdapterError}

theorem error_of_next (h : (a.next c).1 = .error e) :
    e = .notFiltered ∨ ∃ reason, e = .table (.tableFailed a.name reason) := by
  rw [Adapter.next] at h
  split at h
  · exact .inl (Except.error.inj h).symm
  · exact .inr (Cursor.error_of_settle h)

theorem error_of_prepare {p : Plan} {constraints : List Constraint}
    (h : (a.prepare p constraints).1 = .error e) :
    ∃ reason, e = .table (.tableFailed a.name reason) := by
  rw [prepare] at h
  exact Cursor.error_of_settle h

theorem error_of_start {p : Plan} {constraints : List Constraint}
    (h : (a.start p constraints).1 = .error e) :
    e = .notFiltered ∨ ∃ name reason, e = .table (.tableFailed name reason) := by
  rw [start] at h
  split at h
  · rename_i e' _ _ hprepare
    obtain rfl : e' = e := Except.error.inj h
    obtain ⟨reason, hreason⟩ := error_of_prepare (by rw [hprepare])
    exact .inr ⟨_, reason, hreason⟩
  · obtain he | ⟨reason, he⟩ := error_of_next h
    · exact .inl he
    · exact .inr ⟨_, reason, he⟩

/-- A refusal is known by its code.  A filter that is not refused stops at a value that cannot be
read, or it starts a scan, and what fails then has another code, if it has one at all. -/
theorem refuses_iff {plan : Int} {values : List EngineValue} {e : TableError} :
    a.Refuses plan values e ↔
      (a.filter c plan values).1 = .error (.table e) ∧
        (e.code = "VTAB_002" ∨ e.code = "VTAB_003") := by
  constructor
  · intro h
    refine ⟨by rw [filter_of_refuses h], ?_⟩
    cases h with
    | unknownPlan => exact .inl rfl
    | valueCount => exact .inr rfl
  · rintro ⟨hfails, hcode⟩
    obtain ⟨e', hstops, hfilter⟩ | ⟨p, -, hfilter⟩ := a.filter_cases c plan values
    · rw [hfilter] at hfails
      cases hfails
      cases hstops with
      | refused hrefuses => exact hrefuses
    · rw [hfilter] at hfails
      obtain he | ⟨name, reason, he⟩ := error_of_start hfails
      · cases he
      · cases he
        exact absurd hcode (by simp [TableError.code])

/-- **A filter does not know a plan exactly when it is not kept**; no later failure of a scan is
taken for this one. -/
theorem filter_eq_unknownPlan_iff {id : Int} {values : List EngineValue} :
    (a.filter c id values).1 = .error (.table (.unknownPlan a.name id)) ↔
      a.backlog.get? id = none := by
  constructor
  · intro h
    have hrefuses : a.Refuses id values (.unknownPlan a.name id) := refuses_iff.2 ⟨h, .inl rfl⟩
    cases hrefuses with
    | unknownPlan hget => exact hget
  · intro h
    rw [filter_of_get?_eq_none h]

end Adapter

namespace Session

/-- A plan is found as long as it is not more than `reach` plans behind the newest one. -/
theorem Tracks.get?_eq_none_iff {s : Session τ σ} {made : List PlanMade} (h : s.Tracks made)
    {i : Nat} {x : PlanMade} (hx : made[i]? = some x) :
    s.adapter.backlog.get? x.offer.id = none ↔
      s.adapter.backlog.reach < (made.length : Int) - x.offer.id := by
  rw [← not_iff_not, ← ne_eq, Option.ne_none_iff_exists']
  constructor
  · rintro ⟨p, hp⟩
    obtain ⟨_, _, _, hreach⟩ := h.keeps.get?_eq_some_iff.1 hp
    rw [List.length_map] at hreach
    omega
  · intro hreach
    exact ⟨_, h.keeps.get?_eq_some_iff.2
      ⟨i, PlanMade.getElem?_map_plan hx, h.id_of_getElem? hx, by rw [List.length_map]; omega⟩⟩

/-- **For how long a plan is found.**  A plan is made, and after any other requests a cursor is
filtered by its number: the filter does not know the plan exactly if at least as many further plans
were made as the window counts for.  That is the window itself, if it is below `2 ^ 31`. -/
theorem filter_unknownPlan_iff {table : VirtualTable τ σ} {memory : τ} {window : Nat}
    {a : Adapter τ σ} (h : Adapter.connect table memory window = .ok a)
    (hwindow : window % 2 ^ 32 ≠ 2 ^ 31) (before after : List Request)
    {candidates : List Candidate} {used : BitVec 64} {offer : PlanOffer} {s : Session τ σ}
    (hplanned : ((new a).run before).2.answer (.bestIndex candidates used) = (.planned offer, s))
    (hfew : ((new a).plansMade (before ++ .bestIndex candidates used :: after)).length < 2 ^ 31 - 1)
    (c : Cursor σ) (values : List EngineValue) :
    (((s.run after).2.adapter.filter c offer.id values).1 =
          .error (.table (.unknownPlan table.definition.name offer.id)) ↔
        ((max window 1 : Nat) : Int).bmod (2 ^ 32) ≤ (s.plansMade after).length) ∧
      (max window 1 < 2 ^ 31 →
        (((s.run after).2.adapter.filter c offer.id values).1 =
            .error (.table (.unknownPlan table.definition.name offer.id)) ↔
          max window 1 ≤ (s.plansMade after).length)) := by
  set x : PlanMade := { candidates, used, offer } with hx
  have hmade : (new a).plansMade (before ++ .bestIndex candidates used :: after) =
      (new a).plansMade before ++ x :: s.plansMade after := by
    rw [plansMade_append, plansMade_cons, hplanned]
    rfl
  have hrun : ((new a).run (before ++ .bestIndex candidates used :: after)).2 =
      (s.run after).2 := by
    rw [run_append, run_cons, hplanned]
  have htracks := tracks_run h _ hfew
  have hdef := definition_run (new a) (before ++ .bestIndex candidates used :: after)
  have hreach := reach_run (new a) (before ++ .bestIndex candidates used :: after)
  rw [hrun, (adapter_of_connect h).1] at hdef hreach
  rw [hrun, hmade] at htracks
  have hat :
      ((new a).plansMade before ++ x :: s.plansMade after)[((new a).plansMade before).length]? =
        some x := by
    rw [List.getElem?_append_right (Nat.le_refl _), Nat.sub_self, List.getElem?_cons_zero]
  have hid : offer.id = ((new a).plansMade before).length + 1 := htracks.id_of_getElem? hat
  have hname : (s.run after).2.adapter.name = table.definition.name := by
    rw [Adapter.name, hdef]
    rfl
  have hexact : ((s.run after).2.adapter.filter c offer.id values).1 =
      .error (.table (.unknownPlan table.definition.name offer.id)) ↔
        (PlanBacklog.new window).span ≤ (s.plansMade after).length := by
    rw [← hname, Adapter.filter_eq_unknownPlan_iff, htracks.get?_eq_none_iff hat, hreach]
    change (PlanBacklog.new window).reach < _ - offer.id ↔ _
    rw [PlanBacklog.reach_new hwindow, hid, List.length_append, List.length_cons]
    push_cast
    omega
  refine ⟨by rwa [← PlanBacklog.span_new], fun hnarrow ↦ ?_⟩
  rw [hexact, PlanBacklog.span_new_of_lt hnarrow, Int.ofNat_le]

/-! ### A table of users -/

/-- A session with the table of users in which as many plans are kept as a window says. -/
def ofUsers (window : Nat) : Session Sample.Usage Sample.Place :=
  .new { table := Sample.Users.listing.virtualTable, memory := .counting,
         backlog := .new window }

/-- A window of two: the plan is found after one further plan, and no longer after two. -/
theorem filter_unknownPlan_of_users :
    ∃ offer s, (ofUsers 2).answer (.bestIndex [] 0) = (.planned offer, s) ∧
      ((s.run [.bestIndex [] 1]).2.adapter.filter .new offer.id []).1 ≠
        .error (.table (.unknownPlan "users" offer.id)) ∧
      ((s.run [.bestIndex [] 1, .bestIndex [] 1]).2.adapter.filter .new offer.id []).1 =
        .error (.table (.unknownPlan "users" offer.id)) := by
  have hconnect : Adapter.connect Sample.Users.listing.virtualTable Sample.Usage.counting 2 =
      .ok (ofUsers 2).adapter := rfl
  have hone : ((ofUsers 2).plansMade [.bestIndex [] 0, .bestIndex [] 1]).length < 2 ^ 31 - 1 := by
    decide
  have htwo : ((ofUsers 2).plansMade
      [.bestIndex [] 0, .bestIndex [] 1, .bestIndex [] 1]).length < 2 ^ 31 - 1 := by
    decide
  refine ⟨_, _, rfl, fun hlost ↦ ?_, ?_⟩
  · have hcount := ((filter_unknownPlan_iff hconnect (by decide) [] [.bestIndex [] 1] rfl hone
      .new []).2 (by decide)).1 hlost
    exact absurd hcount (by decide)
  · exact ((filter_unknownPlan_iff hconnect (by decide) [] [.bestIndex [] 1, .bestIndex [] 1] rfl
      htwo .new []).2 (by decide)).2 (by decide)

/-- **A wide window can lose a plan at once.**  The low 32 bits of `2 ^ 32` are zero. -/
theorem filter_unknownPlan_of_wide_window :
    ∃ offer s, (ofUsers (2 ^ 32)).answer (.bestIndex [] 0) = (.planned offer, s) ∧
      (s.plansMade []).length < max (2 ^ 32) 1 ∧
      (s.adapter.filter .new offer.id []).1 =
        .error (.table (.unknownPlan "users" offer.id)) := by
  refine ⟨_, _, rfl, ?_, rfl⟩
  decide

end Session

end VirtualTables
