import Mathlib.Data.List.Basic
import VirtualTables.Plan.Backlog

/-!
# Which plans are kept

A backlog is a list that grows at one end and loses plans at the other, and its numbers wrap around
after `2 ^ 31 - 1` plans.  As long as they do not, a backlog has a closed form in the plans that
were minted so far: they are numbered from one on, and those kept are the last `reach + 1` of them.
This is `PlanBacklog.Keeps`; it holds of the new backlog, minting preserves it (`Keeps.mint`), and
`Keeps.get?_eq_some_iff` reads off it what a number finds.

`mem_mint` is the part that needs no bound on the numbers: a kept plan was kept before or is new.
-/

namespace VirtualTables

/-- The numbers of the plans are `n`, `n + 1`, and so on. -/
def NumberedFrom (n : Int) (plans : List Plan) : Prop :=
  ∀ (i : Nat) (p : Plan), plans[i]? = some p → p.id = n + i

/-! ## Plans numbered in a row -/

namespace NumberedFrom

theorem cons {n : Int} {p : Plan} {rest : List Plan} (h : NumberedFrom n (p :: rest)) :
    p.id = n ∧ NumberedFrom (n + 1) rest := by
  refine ⟨by simpa using h 0 p rfl, fun i q hq ↦ ?_⟩
  have hid := h (i + 1) q (by simpa using hq)
  push_cast at hid
  omega

theorem append_singleton {n : Int} {plans : List Plan} {p : Plan} (h : NumberedFrom n plans)
    (hp : p.id = n + plans.length) : NumberedFrom n (plans ++ [p]) := by
  intro i q hq
  rcases Nat.lt_or_ge i plans.length with hi | hi
  · exact h i q (by rwa [List.getElem?_append_left hi] at hq)
  · rw [List.getElem?_append_right hi, List.getElem?_singleton] at hq
    split at hq
    · rw [Option.some_inj] at hq
      rw [← hq, hp]
      omega
    · exact absurd hq (by simp)

theorem drop {n : Int} {plans : List Plan} (h : NumberedFrom n plans) (k : Nat) :
    NumberedFrom (n + k) (plans.drop k) := by
  intro i p hp
  have hid := h (k + i) p (by rwa [List.getElem?_drop] at hp)
  push_cast at hid
  omega

/-- In plans that are numbered in a row, dropping the lower numbers is dropping a number of
plans. -/
theorem dropWhile_lt {n : Int} {plans : List Plan} (h : NumberedFrom n plans) (k : Int) :
    plans.dropWhile (·.id < k) = plans.drop (k - n).toNat := by
  induction plans generalizing n with
  | nil => simp
  | cons p rest ih =>
    by_cases hk : n < k
    · have hcount : (k - n).toNat = (k - (n + 1)).toNat + 1 := by omega
      rw [List.dropWhile_cons_of_pos (by simpa [h.cons.1] using hk), ih h.cons.2, hcount,
        List.drop_succ_cons]
    · have hcount : (k - n).toNat = 0 := by omega
      rw [List.dropWhile_cons_of_neg (by simpa [h.cons.1] using hk), hcount, List.drop_zero]

theorem find?_id {n : Int} {plans : List Plan} (h : NumberedFrom n plans) {id : Int} {p : Plan} :
    plans.find? (·.id = id) = some p ↔ ∃ i : Nat, plans[i]? = some p ∧ id = n + i := by
  constructor
  · intro hfind
    obtain ⟨i, hi⟩ := List.mem_iff_getElem?.1 (List.mem_of_find?_eq_some hfind)
    have hid : p.id = id := by simpa using List.find?_some hfind
    exact ⟨i, hi, by rw [← hid, h i p hi]⟩
  · rintro ⟨i, hi, rfl⟩
    have hid : p.id = n + i := h i p hi
    obtain ⟨q, hq⟩ : ∃ q, plans.find? (·.id = n + i) = some q := by
      rw [← Option.isSome_iff_exists, List.find?_isSome]
      exact ⟨p, List.mem_of_getElem? hi, by simpa using hid⟩
    -- the plan that is found has the number of `p`, so it stands where `p` does
    obtain ⟨j, hj⟩ := List.mem_iff_getElem?.1 (List.mem_of_find?_eq_some hq)
    have hqid : q.id = n + i := by simpa using List.find?_some hq
    have hji : j = i := by
      have := h j q hj
      omega
    rw [hq, ← hj, hji, hi]

end NumberedFrom

namespace PlanBacklog

variable {b : PlanBacklog} {constraints : List PlannedConstraint} {requested : FieldSet}

/-! ## Minting -/

theorem mem_insertPlan {plan p : Plan} {plans : List Plan} (h : p ∈ insertPlan plan plans) :
    p = plan ∨ p ∈ plans := by
  induction plans with
  | nil => simpa [insertPlan] using h
  | cons q rest ih =>
    rw [insertPlan] at h
    split at h
    · rcases List.mem_cons.1 h with rfl | h
      · exact .inr List.mem_cons_self
      · exact (ih h).imp_right (List.mem_cons_of_mem q)
    · split at h
      · exact (List.mem_cons.1 h).imp_right (List.mem_cons_of_mem q)
      · exact List.mem_cons.1 h

theorem insertPlan_of_forall_lt {plan : Plan} {plans : List Plan}
    (h : ∀ p ∈ plans, p.id < plan.id) : insertPlan plan plans = plans ++ [plan] := by
  induction plans with
  | nil => rfl
  | cons q rest ih =>
    obtain ⟨hq, hrest⟩ := List.forall_mem_cons.1 h
    rw [insertPlan, if_pos hq, ih hrest, List.cons_append]

/-- A plan that is kept after minting was kept before, or is the new one. -/
theorem mem_mint {p : Plan} (h : p ∈ (b.mint constraints requested).2.plans) :
    p = (b.mint constraints requested).1 ∨ p ∈ b.plans := by
  have hp := mem_insertPlan ((List.dropWhile_sublist _).subset h)
  refine hp.imp_right fun hmem ↦ ?_
  split at hmem
  · exact absurd hmem List.not_mem_nil
  · exact hmem

@[simp]
theorem mint_id : (b.mint constraints requested).1.id = b.nextId :=
  rfl

@[simp]
theorem window_mint : (b.mint constraints requested).2.window = b.window :=
  rfl

@[simp]
theorem span_mint : (b.mint constraints requested).2.span = b.span := by
  rw [span, window_mint, span]

@[simp]
theorem reach_mint : (b.mint constraints requested).2.reach = b.reach := by
  rw [reach, span_mint, reach]

theorem nextId_mint :
    (b.mint constraints requested).2.nextId = if b.isLast then 1 else b.nextId + 1 :=
  rfl

theorem plans_mint :
    (b.mint constraints requested).2.plans =
      (insertPlan (b.mint constraints requested).1 (if b.isLast then [] else b.plans)).dropWhile
        (·.id < b.oldestKept (b.mint constraints requested).1.id) :=
  rfl

/-! ## The closed form -/

/-- The backlog of a table for which the plans `minted` were made, in this order: they are numbered
from one on, and the last `reach + 1` of them are kept. -/
structure Keeps (b : PlanBacklog) (minted : List Plan) : Prop where
  numbered : NumberedFrom 1 minted
  nextId : b.nextId = minted.length + 1
  plans : b.plans = minted.drop (minted.length - (b.reach + 1).toNat)

theorem keeps_new (window : Nat) : (new window).Keeps [] where
  numbered := fun i p hp ↦ absurd hp (by simp)
  nextId := rfl
  plans := List.drop_nil.symm

theorem least_int4 : IntKind.int4.least = -2 ^ 31 := by
  simp [IntKind.least, IntKind.signed, IntKind.bits]

theorem greatest_int4 : IntKind.int4.greatest = 2 ^ 31 - 1 := by
  simp [IntKind.greatest, IntKind.signed, IntKind.bits]

theorem reach_bounds (b : PlanBacklog) : -2 ^ 31 ≤ b.reach ∧ b.reach ≤ 2 ^ 31 - 1 := by
  have hreach := (Ranged.wrap .int4 (b.span - 1)).holds
  rwa [IntKind.Holds, least_int4, greatest_int4] at hreach

/-- The numbers of plans are positive, so the lower end of the range is never in the way. -/
theorem oldestKept_eq (b : PlanBacklog) {newest : Int} (hpos : 0 < newest) :
    b.oldestKept newest = min (2 ^ 31 - 1) (newest - b.reach) := by
  have hreach := b.reach_bounds
  simp only [oldestKept, Ranged.clamp, least_int4, greatest_int4]
  omega

namespace Keeps

variable {minted : List Plan}

theorem isLast_eq_false (h : b.Keeps minted) (hfew : minted.length + 1 < 2 ^ 31 - 1) :
    b.isLast = false := by
  rw [isLast, h.nextId, greatest_int4, decide_eq_false_iff_not]
  omega

/-- **Minting keeps the closed form**, as long as the numbers do not wrap around. -/
theorem mint (h : b.Keeps minted) (hfew : minted.length + 1 < 2 ^ 31 - 1) :
    (b.mint constraints requested).2.Keeps (minted ++ [(b.mint constraints requested).1]) := by
  set plan := (b.mint constraints requested).1 with hplan
  have hlast := h.isLast_eq_false hfew
  have hid : plan.id = 1 + minted.length := by
    rw [hplan, mint_id, h.nextId, Int.add_comm]
  have hnumbered : NumberedFrom 1 (minted ++ [plan]) := h.numbered.append_singleton hid
  have hlt : ∀ p ∈ b.plans, p.id < plan.id := by
    intro p hp
    rw [h.plans] at hp
    obtain ⟨i, hi⟩ := List.mem_iff_getElem?.1 (List.mem_of_mem_drop hp)
    have hlen : i < minted.length := (List.getElem?_eq_some_iff.1 hi).1
    rw [h.numbered i p hi, hid]
    omega
  refine ⟨hnumbered, ?_, ?_⟩
  · rw [List.length_append, List.length_singleton]
    rw [nextId_mint, hlast, if_neg Bool.false_ne_true, h.nextId]
    push_cast
    rfl
  · -- the plans from before and the new one are once more numbered in a row
    set gone := minted.length - (b.reach + 1).toNat with hgone
    have hrow : b.plans ++ [plan] = (minted ++ [plan]).drop gone := by
      rw [h.plans, List.drop_append_of_le_length (by omega)]
    have hplans : (b.mint constraints requested).2.plans =
        (b.plans ++ [plan]).dropWhile (·.id < b.oldestKept plan.id) := by
      rw [plans_mint, hlast, if_neg Bool.false_ne_true, ← hplan, insertPlan_of_forall_lt hlt]
    rw [hplans, hrow, (hnumbered.drop gone).dropWhile_lt, List.drop_drop, reach_mint,
      b.oldestKept_eq (by omega), List.drop_eq_drop_iff, List.length_append, List.length_singleton]
    -- without a window more plans may be dropped than there are, so the counts are equal only up
    -- to the length
    have hreach := b.reach_bounds
    omega

/-- **What a number finds**: the plan that was minted under it, if it is not more than `reach`
numbers behind the newest one. -/
theorem get?_eq_some_iff (h : b.Keeps minted) {id : Int} {p : Plan} :
    b.get? id = some p ↔
      ∃ i : Nat, minted[i]? = some p ∧ id = i + 1 ∧ (minted.length : Int) - id ≤ b.reach := by
  set gone := minted.length - (b.reach + 1).toNat with hgone
  rw [get?, h.plans, (h.numbered.drop gone).find?_id]
  constructor
  · rintro ⟨i, hi, hid⟩
    rw [List.getElem?_drop] at hi
    have hlen : gone + i < minted.length := (List.getElem?_eq_some_iff.1 hi).1
    exact ⟨gone + i, hi, by push_cast; omega, by omega⟩
  · rintro ⟨i, hi, hid, hreach⟩
    have hlen : i < minted.length := (List.getElem?_eq_some_iff.1 hi).1
    refine ⟨i - gone, ?_, by omega⟩
    rw [List.getElem?_drop, show gone + (i - gone) = i by omega]
    exact hi

end Keeps

/-! ## The window -/

theorem span_new (window : Nat) :
    (new window).span = ((max window 1 : Nat) : Int).bmod (2 ^ 32) := by
  simp only [span, new, Ranged.wrap, IntKind.signed, IntKind.bits, if_true]

/-- A window that fits into a signed number counts as it is. -/
theorem span_new_of_lt {window : Nat} (h : max window 1 < 2 ^ 31) :
    (new window).span = (max window 1 : Nat) := by
  rw [span_new, Int.bmod]
  omega

/-- The reach of a new backlog is one less than its window as it counts, but for the windows that
count as the least number there is. -/
theorem reach_new {window : Nat} (h : window % 2 ^ 32 ≠ 2 ^ 31) :
    (new window).reach = (new window).span - 1 := by
  have hreach : (new window).reach = ((new window).span - 1).bmod (2 ^ 32) := by
    simp only [reach, Ranged.wrap, IntKind.signed, IntKind.bits, if_true]
  rw [hreach, span_new]
  simp only [Int.bmod]
  omega

end PlanBacklog

end VirtualTables
