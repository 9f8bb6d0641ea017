import Mathlib.Data.Fintype.Card
import Mathlib.Data.Fintype.EquivFin
import Mathlib.Data.List.FinRange
import Mathlib.Order.Hom.Basic
import VirtualTables.Proofs.Plan.Acceptance
import VirtualTables.Sample.Mixed

/-!
# Planning in any order

An engine offers its predicates in an order of its own, and it may offer more or fewer of them.
Acceptance is local to a candidate (`TableDef.Accepts`), and whether a plan is refused depends only
on which columns are constrained (`TableDef.missingColumns_congr`); so the order has no influence on
either, and more candidates do no harm.  What does depend on the order are the places, which are
counted over all accepted candidates, and with them the constraints.  They are rearranged as the
candidates are: `Pushdown.Rearranges` pairs the places of one plan with those of the other.
-/

namespace VirtualTables

/-- In a list without repetitions among what is there, what is there is at one position. -/
theorem eq_of_getElem?_of_nodup_reduceOption {α : Type} {l : List (Option α)}
    (h : l.reduceOption.Nodup) {i j : Nat} {a : α} (hi : l[i]? = some (some a))
    (hj : l[j]? = some (some a)) : i = j := by
  have hmem (l : List (Option α)) {j : Nat} (hj : l[j]? = some (some a)) : a ∈ l.reduceOption :=
    List.reduceOption_mem_iff.2 (List.mem_of_getElem? hj)
  induction l generalizing i j with
  | nil => cases hi
  | cons x rest ih =>
    have hrest : rest.reduceOption.Nodup := h.sublist ((List.sublist_cons_self x rest).filterMap id)
    cases i with
    | zero =>
      obtain rfl : x = some a := Option.some_inj.1 hi
      rw [List.reduceOption_cons_of_some, List.nodup_cons] at h
      cases j with
      | zero => rfl
      | succ j => exact absurd (hmem rest hj) h.1
    | succ i =>
      cases j with
      | zero =>
        obtain rfl : x = some a := Option.some_inj.1 hj
        rw [List.reduceOption_cons_of_some, List.nodup_cons] at h
        exact absurd (hmem rest hi) h.1
      | succ j => rw [ih hrest hi hj]

/-! ## Places -/

namespace Pushdown

/-- The candidate number `j` is accepted. -/
def Takes (p : Pushdown) (j : Nat) : Prop :=
  ∃ s, p.slots[j]? = some (some s)

/-- The constraints of `q` are those of `p` in the order in which `σ` takes the candidates: if a
candidate has a place in `q`, then it has one in `p`, and the same constraint is at both. -/
def Rearranges {n : Nat} (q p : Pushdown) (σ : Equiv.Perm (Fin n)) : Prop :=
  ∃ π : Fin q.constraints.length ≃ Fin p.constraints.length,
    (∀ t, q.constraints[t] = p.constraints[π t]) ∧
      ∀ (i : Fin n) (t : Fin q.constraints.length),
        q.slots[(i : Nat)]? = some (some ((t : Nat) + 1)) ↔
          p.slots[(σ i : Nat)]? = some (some ((π t : Nat) + 1))

end Pushdown

namespace TableDef

variable {d : TableDef} {candidates xs ys : List Candidate} {used : BitVec 64} {p q : Pushdown}

theorem Accepts.unique {c : Candidate} {i j : Nat} {x y : PlannedConstraint}
    (hx : d.Accepts c i x) (hy : d.Accepts c j y) : i = j ∧ x = y :=
  Prod.mk.inj (Option.some_inj.1 ((accepts_iff.1 hx).symm.trans (accepts_iff.1 hy)))

namespace Answers

theorem takes_iff (h : d.Answers candidates p) {j : Nat} {c : Candidate}
    (hc : candidates[j]? = some c) :
    p.Takes j ↔ ∃ position planned, d.Accepts c position planned := by
  have hj : j < p.slots.length := h.length_slots ▸ (List.getElem?_eq_some_iff.1 hc).1
  have hunplaced := h.unplaced j c hc
  rw [Pushdown.Takes, List.getElem?_eq_getElem hj] at *
  cases hslot : p.slots[j] with
  | none => simpa [hslot] using hunplaced
  | some s => simpa [hslot] using hunplaced

/-- Every place is that of a candidate. -/
theorem exists_place (h : d.Answers candidates p) (t : Fin p.constraints.length) :
    ∃ j : Nat, p.slots[j]? = some (some ((t : Nat) + 1)) := by
  have hplaces : p.slots.reduceOption = List.range' (0 + 1) p.constraints.length := h.places
  obtain ⟨j, hj⟩ := exists_slot_of_places hplaces t.isLt
  exact ⟨j, Nat.zero_add (t : Nat) ▸ hj⟩

/-- Every candidate with a place has one that there is. -/
theorem eq_add_one_of_place (h : d.Answers candidates p) {j s : Nat}
    (hs : p.slots[j]? = some (some s)) : ∃ t : Fin p.constraints.length, s = t + 1 := by
  have hmem := List.reduceOption_mem_iff.2 (List.mem_of_getElem? hs)
  rw [h.places, List.mem_range'_1] at hmem
  exact ⟨⟨s - 1, by omega⟩, by simp only; omega⟩

theorem place_injective (h : d.Answers candidates p) {i j s : Nat}
    (hi : p.slots[i]? = some (some s)) (hj : p.slots[j]? = some (some s)) : i = j :=
  eq_of_getElem?_of_nodup_reduceOption (h.places ▸ List.nodup_range') hi hj

/-- The places of a plan are paired with those of another one for the same candidates in another
order. -/
theorem rearranges (hp : d.Answers xs p) (hq : d.Answers ys q)
    {σ : Equiv.Perm (Fin xs.length)} (hys : ∀ i : Fin xs.length, ys[(i : Nat)]? = some xs[σ i])
    (hlength : ys.length = xs.length)
    (hsame : q.constraints.length = p.constraints.length) : q.Rearranges p σ := by
  have hxs (i : Fin xs.length) : xs[(σ i : Nat)]? = some xs[σ i] :=
    List.getElem?_eq_getElem (σ i).isLt
  -- the candidate with a place in `q` is accepted, so that it has a place in `p`
  have hpair (t : Fin q.constraints.length) : ∃ (i : Fin xs.length) (s : Fin p.constraints.length),
      q.slots[(i : Nat)]? = some (some ((t : Nat) + 1)) ∧
        p.slots[(σ i : Nat)]? = some (some ((s : Nat) + 1)) := by
    obtain ⟨i, hi⟩ := hq.exists_place t
    have hlt : i < xs.length := by
      rw [← hlength, ← hq.length_slots]
      exact (List.getElem?_eq_some_iff.1 hi).1
    have haccepted := (hq.takes_iff (hys ⟨i, hlt⟩)).1 ⟨_, hi⟩
    obtain ⟨s, hs⟩ := (hp.takes_iff (hxs ⟨i, hlt⟩)).2 haccepted
    obtain ⟨s, rfl⟩ := hp.eq_add_one_of_place hs
    exact ⟨⟨i, hlt⟩, s, hi, hs⟩
  choose owner place howner hplace using hpair
  have hinjective : Function.Injective place := by
    intro t u htu
    have hσ : (σ (owner t) : Nat) = σ (owner u) :=
      hp.place_injective (hplace t) (by rw [htu]; exact hplace u)
    have hsameOwner : owner t = owner u := σ.injective (Fin.ext hσ)
    have htwice := (howner t).symm.trans (hsameOwner ▸ howner u)
    exact Fin.ext (by simpa using htwice)
  have hbijective : Function.Bijective place :=
    (Fintype.bijective_iff_injective_and_card place).2 ⟨hinjective, by simpa using hsame⟩
  refine ⟨Equiv.ofBijective place hbijective, fun t ↦ ?_, fun i t ↦ ⟨fun hi ↦ ?_, fun hi ↦ ?_⟩⟩
  · obtain ⟨_, x, hx, hatq⟩ := hq.placed _ _ _ (hys (owner t)) (howner t)
    obtain ⟨_, y, hy, hatp⟩ := hp.placed _ _ _ (hxs (owner t)) (hplace t)
    obtain ⟨-, rfl⟩ := hx.unique hy
    rw [Nat.add_sub_cancel] at hatq hatp
    exact (List.getElem?_eq_some_iff.1 hatq).2.trans (List.getElem?_eq_some_iff.1 hatp).2.symm
  · obtain rfl : owner t = i := Fin.ext (hq.place_injective (howner t) hi)
    exact hplace t
  · have hσ : (σ (owner t) : Nat) = σ i := hp.place_injective (hplace t) hi
    obtain rfl : owner t = i := σ.injective (Fin.ext hσ)
    exact howner t

end Answers

/-! ## When a plan is refused -/

theorem missingColumns_congr {ps qs : List Nat} (h : ∀ p, p ∈ ps ↔ p ∈ qs) :
    d.missingColumns ps = d.missingColumns qs := by
  simp only [missingColumns, h]

theorem pushdown_eq_error_of_perm (h : ys.Perm xs) (e : TableError) :
    d.pushdown ys used = .error e ↔ d.pushdown xs used = .error e := by
  have hpositions := (h.filterMap d.accept?).map Prod.fst
  rw [pushdown_eq_error, pushdown_eq_error, missingColumns_congr fun p ↦ hpositions.mem_iff]

/-- A plan that is refused is refused for fewer candidates, too. -/
theorem Unmet.of_subset {position : Nat} (hsubset : xs ⊆ ys) (h : d.Unmet ys position) :
    d.Unmet xs position := by
  obtain ⟨column, hat, halias, hrequired, hnone⟩ := h
  exact ⟨column, hat, halias, hrequired, fun c hc ↦ hnone c (hsubset hc)⟩

theorem exists_pushdown_of_not_error (h : ∀ e, d.pushdown candidates used ≠ .error e) :
    ∃ p, d.pushdown candidates used = .ok p := by
  cases hp : d.pushdown candidates used with
  | error e => exact absurd hp (h e)
  | ok p => exact ⟨p, rfl⟩

theorem exists_pushdown_of_subset (hsubset : xs ⊆ ys) (hp : d.pushdown xs used = .ok p) :
    ∃ q, d.pushdown ys used = .ok q := by
  refine exists_pushdown_of_not_error fun e he ↦ ?_
  have hmet := missingColumns_eq_nil_iff_unmet.1 (pushdown_eq_ok hp).1
  refine (pushdown_eq_error.1 he).1 (missingColumns_eq_nil_iff_unmet.2 fun position hunmet ↦ ?_)
  exact hmet position (hunmet.of_subset hsubset)

/-- The estimates of a plan go by the number of its constraints. -/
theorem estimate_of_pushdown (h : d.pushdown candidates used = .ok p) :
    (p.cost, p.rows) = estimate p.constraints.length := by
  simp only [pushdown] at h
  split at h
  · rw [Except.ok.injEq] at h
    subst h
    rw [List.length_map]
  · exact absurd h (by simp)

/-- Two plans with as many constraints differ in nothing that counts for the cost of a scan. -/
theorem outline_of_pushdown (hp : d.pushdown xs used = .ok p) (hq : d.pushdown ys used = .ok q)
    (hsame : q.constraints.length = p.constraints.length) :
    q.requested = p.requested ∧ q.cost = p.cost ∧ q.rows = p.rows := by
  obtain ⟨-, -, -, hrequested⟩ := pushdown_eq_ok hp
  obtain ⟨-, -, -, hrequested'⟩ := pushdown_eq_ok hq
  have hestimate : (q.cost, q.rows) = (p.cost, p.rows) := by
    rw [estimate_of_pushdown hp, estimate_of_pushdown hq, hsame]
  exact ⟨hrequested'.trans hrequested.symm, Prod.mk.inj hestimate⟩

/-- A plan has as many constraints as there are candidates that are accepted, in any order. -/
theorem length_constraints_of_perm (h : ys.Perm xs) (hp : d.pushdown xs used = .ok p)
    (hq : d.pushdown ys used = .ok q) : q.constraints.length = p.constraints.length := by
  obtain ⟨-, hconstraints, -, -⟩ := pushdown_eq_ok hp
  obtain ⟨-, hconstraints', -, -⟩ := pushdown_eq_ok hq
  rw [hconstraints, hconstraints', List.length_map, List.length_map,
    (h.filterMap d.accept?).length_eq]

/-- **The order of the candidates makes no difference to a plan, and more of them do no harm.**
In another order, the plan is refused for the same columns, or it accepts the same candidates, asks
for the same fields and costs the same, and its constraints are rearranged as the candidates are.
If further candidates are offered, in any places, then the plan is not refused either, and it
accepts the old candidates as before and the new ones that are acceptable. -/
theorem planning_ignores_order (d : TableDef) (used : BitVec 64) (xs : List Candidate) :
    (∀ σ : Equiv.Perm (Fin xs.length),
        let ys := List.ofFn fun i ↦ xs[σ i]
        (∀ e, d.pushdown ys used = .error e ↔ d.pushdown xs used = .error e) ∧
          ∀ p, d.pushdown xs used = .ok p → ∃ q, d.pushdown ys used = .ok q ∧
            (q.requested = p.requested ∧ q.cost = p.cost ∧ q.rows = p.rows) ∧
            (∀ i : Fin xs.length, q.Takes i ↔ p.Takes (σ i)) ∧ q.Rearranges p σ) ∧
      ∀ p, d.pushdown xs used = .ok p →
        ∀ (ys : List Candidate) (f : Fin xs.length ↪o Fin ys.length), (∀ i, ys[f i] = xs[i]) →
          ∃ q, d.pushdown ys used = .ok q ∧ (∀ i, q.Takes (f i) ↔ p.Takes i) ∧
            ∀ j : Fin ys.length, j ∉ Set.range f →
              (q.Takes j ↔ ∃ position planned, d.Accepts ys[j] position planned) := by
  constructor
  · intro σ ys
    have hperm : ys.Perm xs := by
      have hxs : List.ofFn (fun i : Fin xs.length ↦ xs[i]) = xs := List.ofFn_getElem
      exact (Equiv.Perm.ofFn_comp_perm σ fun i ↦ xs[i]).trans (.of_eq hxs)
    have herror (e : TableError) : d.pushdown ys used = .error e ↔ d.pushdown xs used = .error e :=
      pushdown_eq_error_of_perm hperm e
    have hys (i : Fin xs.length) : ys[(i : Nat)]? = some xs[σ i] := by
      simp [ys]
    refine ⟨herror, fun p hp ↦ ?_⟩
    obtain ⟨q, hq⟩ : ∃ q, d.pushdown ys used = .ok q :=
      exists_pushdown_of_not_error fun e he ↦ by
        rw [(herror e).1 he] at hp
        cases hp
    have hsame := length_constraints_of_perm hperm hp hq
    have hp' := answers_of_pushdown hp
    have hq' := answers_of_pushdown hq
    refine ⟨q, hq, outline_of_pushdown hp hq hsame, fun i ↦ ?_,
      hp'.rearranges hq' hys hperm.length_eq hsame⟩
    rw [hq'.takes_iff (hys i), hp'.takes_iff (List.getElem?_eq_getElem (σ i).isLt)]
    rfl
  · intro p hp ys f hf
    have hsubset : xs ⊆ ys := by
      intro c hc
      obtain ⟨i, hi, rfl⟩ := List.mem_iff_getElem.1 hc
      exact hf ⟨i, hi⟩ ▸ List.getElem_mem (f ⟨i, hi⟩).isLt
    obtain ⟨q, hq⟩ := exists_pushdown_of_subset hsubset hp
    have hp' := answers_of_pushdown hp
    have hq' := answers_of_pushdown hq
    have htakes (j : Fin ys.length) := hq'.takes_iff (List.getElem?_eq_getElem j.isLt)
    refine ⟨q, hq, fun i ↦ ?_, fun j _ ↦ htakes j⟩
    rw [htakes (f i), hp'.takes_iff (List.getElem?_eq_getElem i.isLt)]
    exact iff_of_eq (congrArg (fun c ↦ ∃ position planned, d.Accepts c position planned) (hf i))

end TableDef

namespace Sample.Mixed

/-- Predicates on the key, on a column that takes none, and on the name. -/
def demands : List Candidate :=
  [⟨0, some .eq, true⟩, ⟨2, some .eq, true⟩, ⟨1, some .eq, true⟩]

/-- The predicates are offered backwards, and then behind another one. -/
theorem planning_of_demands :
    ∃ p, definition.pushdown demands 1 = .ok p ∧
      (∃ q, definition.pushdown demands.reverse 1 = .ok q ∧ q.cost = p.cost ∧
        q.Rearranges p (Fin.revPerm (n := 3)) ∧ q.constraints = p.constraints.reverse) ∧
      ∃ q, definition.pushdown (⟨1, some .eq, true⟩ :: demands) 1 = .ok q ∧
        ¬q.Takes 2 ∧ q.slots = [some 1, some 2, none, some 3] := by
  obtain ⟨hrearranged, hextended⟩ := TableDef.planning_ignores_order definition 1 demands
  have hp : definition.pushdown demands 1 = .ok _ := rfl
  obtain ⟨q, hq, ⟨-, hcost, -⟩, -, hpairs⟩ := (hrearranged (Fin.revPerm (n := 3))).2 _ hp
  obtain ⟨r, hr, htakes, -⟩ := hextended _ hp (⟨1, some .eq, true⟩ :: demands)
    (Fin.succOrderEmb 3) fun i ↦ rfl
  refine ⟨_, hp, ⟨q, hq, hcost, hpairs, ?_⟩, r, hr, ?_, ?_⟩
  · cases hq
    rfl
  · -- the candidate in the middle now stands one place later
    intro h
    obtain ⟨s, hs⟩ := (htakes (1 : Fin 3)).1 h
    cases hs
  · cases hr
    rfl

end Sample.Mixed

end VirtualTables
