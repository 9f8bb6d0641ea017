import VirtualTables.Proofs.Plan.Backlog
import VirtualTables.Sample.Users

/-!
# Minting one plan after another

A backlog is asked for one plan after another, and drops the oldest ones as it goes.  This module
looks at it after any number of plans.  `Keeps.mintAll` carries the closed form of a backlog from
one plan to a whole list of demands, and with a window that counts as it is, the closed form says
what one would expect of a window (`KeepsLast`): that many plans are kept, they are the newest ones,
and every other number finds nothing.
-/

namespace VirtualTables

/-- What a plan is minted for. -/
structure PlanDemand where
  constraints : List PlannedConstraint
  requested : FieldSet

/-- What a plan was minted for. -/
def Plan.demand (p : Plan) : PlanDemand :=
  ⟨p.constraints, p.requested⟩

/-- The plans for some demands, numbered from one on. -/
def PlanDemand.plans (demands : List PlanDemand) : List Plan :=
  demands.mapIdx fun i x ↦ { id := i + 1, constraints := x.constraints, requested := x.requested }

/-- Plans that are numbered from one on are those for what they were minted for. -/
theorem NumberedFrom.eq_plans {minted : List Plan} (h : NumberedFrom 1 minted) :
    minted = PlanDemand.plans (minted.map Plan.demand) := by
  refine List.ext_getElem? fun i ↦ ?_
  rw [PlanDemand.plans, List.getElem?_mapIdx, List.getElem?_map, Option.map_map]
  cases hi : minted[i]? with
  | none => rfl
  | some p =>
    obtain ⟨id, constraints, requested⟩ := p
    obtain rfl : id = 1 + i := h i _ hi
    rw [Option.map_some, Int.add_comm]
    rfl

namespace PlanBacklog

/-- Mints a plan for every demand, in order. -/
def mintAll (b : PlanBacklog) : List PlanDemand → List Plan × PlanBacklog
  | [] => ([], b)
  | x :: rest =>
    let (plan, b) := b.mint x.constraints x.requested
    let (plans, b) := b.mintAll rest
    (plan :: plans, b)

variable {b : PlanBacklog} {minted : List Plan} {window : Nat}

theorem mintAll_cons (b : PlanBacklog) (x : PlanDemand) (rest : List PlanDemand) :
    b.mintAll (x :: rest) =
      ((b.mint x.constraints x.requested).1 ::
          ((b.mint x.constraints x.requested).2.mintAll rest).1,
        ((b.mint x.constraints x.requested).2.mintAll rest).2) :=
  rfl

/-- There is a plan for every demand, and it is the plan for this demand. -/
theorem map_demand_mintAll (b : PlanBacklog) (demands : List PlanDemand) :
    (b.mintAll demands).1.map Plan.demand = demands := by
  induction demands generalizing b with
  | nil => rfl
  | cons x rest ih =>
    rw [mintAll_cons, List.map_cons, ih]
    rfl

@[simp]
theorem reach_mintAll (b : PlanBacklog) (demands : List PlanDemand) :
    (b.mintAll demands).2.reach = b.reach := by
  induction demands generalizing b with
  | nil => rfl
  | cons x rest ih => rw [mintAll_cons, ih, reach_mint]

/-! ## The closed form -/

/-- **Any number of plans keep the closed form**, as long as their numbers do not wrap around. -/
theorem Keeps.mintAll (h : b.Keeps minted) (demands : List PlanDemand)
    (hfew : minted.length + demands.length < 2 ^ 31 - 1) :
    (b.mintAll demands).2.Keeps (minted ++ (b.mintAll demands).1) := by
  induction demands generalizing b minted with
  | nil => simpa [PlanBacklog.mintAll] using h
  | cons x rest ih =>
    rw [List.length_cons] at hfew
    have hone : (b.mint x.constraints x.requested).2.Keeps
        (minted ++ [(b.mint x.constraints x.requested).1]) := h.mint (by omega)
    rw [mintAll_cons, List.append_cons]
    refine ih hone ?_
    rw [List.length_append, List.length_singleton]
    omega

theorem Keeps.size (h : b.Keeps minted) :
    b.size = min minted.length (b.reach + 1).toNat := by
  rw [PlanBacklog.size, h.plans, List.length_drop]
  omega

/-! ## The window -/

/-- The newest of the plans that were minted are kept, as many of them as the window says. -/
structure KeepsLast (b : PlanBacklog) (minted : List Plan) (window : Nat) : Prop where
  size : b.size = min minted.length window
  /-- A plan within the window is found by its number, as it was minted. -/
  found : ∀ p ∈ minted, (minted.length : Int) - window < p.id → b.get? p.id = some p
  /-- Any other number finds nothing. -/
  lost : ∀ id : Int, ¬(1 ≤ id ∧ (minted.length : Int) - window < id ∧ id ≤ minted.length) →
    b.get? id = none

theorem Keeps.keepsLast (h : b.Keeps minted) (hreach : b.reach = (window : Int) - 1) :
    b.KeepsLast minted window := by
  constructor
  · rw [h.size, hreach]
    omega
  · intro p hp hwithin
    obtain ⟨i, hi⟩ := List.mem_iff_getElem?.1 hp
    have hid : p.id = 1 + i := h.numbered i p hi
    exact h.get?_eq_some_iff.2 ⟨i, hi, by omega, by omega⟩
  · intro id hout
    rw [Option.eq_none_iff_forall_ne_some]
    intro p hp
    obtain ⟨i, hi, hid, hbehind⟩ := h.get?_eq_some_iff.1 hp
    have hlt : i < minted.length := (List.getElem?_eq_some_iff.1 hi).1
    exact hout ⟨by omega, by omega, by omega⟩

theorem reach_new_of_lt (h : max window 1 < 2 ^ 31) :
    (new window).reach = ((max window 1 : Nat) : Int) - 1 := by
  rw [reach_new (by omega), span_new_of_lt h]

/-- **What a window keeps.**  If the window counts as it is and the numbers do not wrap around, the
plans that are minted have the numbers from one on, in order, and after every one of them the
newest plans are kept, with the constraints and the fields that they were minted for: as many as the
window says, at least one, and all of them as long as there are no more. -/
theorem kept_of_demands (hwindow : max window 1 < 2 ^ 31) (demands : List PlanDemand)
    (hfew : demands.length < 2 ^ 31 - 1) :
    ∀ n ≤ demands.length,
      ((new window).mintAll (demands.take n)).1 = PlanDemand.plans (demands.take n) ∧
        ((new window).mintAll (demands.take n)).2.KeepsLast (PlanDemand.plans (demands.take n))
          (max window 1) := by
  intro n hn
  have hfew' : ([] : List Plan).length + (demands.take n).length < 2 ^ 31 - 1 := by
    rw [List.length_nil, List.length_take]
    omega
  have hkeeps := (keeps_new window).mintAll (demands.take n) hfew'
  rw [List.nil_append] at hkeeps
  -- the numbers say which plans were minted, and with them what is kept is known
  have hplans := hkeeps.numbered.eq_plans
  rw [map_demand_mintAll] at hplans
  rw [hplans] at hkeeps
  exact ⟨hplans, hkeeps.keepsLast (by rw [reach_mintAll, reach_new_of_lt hwindow])⟩

end PlanBacklog

/-! ### Plans for the table of users -/

namespace Sample.Users

/-- A plan for all users, one for a single user, and one more for all. -/
def demands : List PlanDemand :=
  [⟨[], .ofList [userid, username]⟩, ⟨[⟨userid, .eq⟩], .ofList [username]⟩, ⟨[], .empty⟩]

/-- Of three plans a window of two keeps the second and the third. -/
theorem kept_of_users :
    max 2 1 < 2 ^ 31 ∧ demands.length < 2 ^ 31 - 1 ∧ 3 ≤ demands.length ∧
      ((PlanBacklog.new 2).mintAll (demands.take 3)).2.size = 2 ∧
      ((PlanBacklog.new 2).mintAll (demands.take 3)).2.get? 2 =
        some ⟨2, [⟨userid, .eq⟩], .ofList [username]⟩ ∧
      ((PlanBacklog.new 2).mintAll (demands.take 3)).2.get? 1 = none := by
  have hfew : demands.length < 2 ^ 31 - 1 := by decide
  have hall : 3 ≤ demands.length := by decide
  have hwindow : max 2 1 < 2 ^ 31 := by decide
  obtain ⟨-, hkept⟩ := PlanBacklog.kept_of_demands hwindow demands hfew 3 hall
  exact ⟨hwindow, hfew, hall, hkept.size,
    hkept.found ⟨2, [⟨userid, .eq⟩], .ofList [username]⟩ (by decide) (by decide),
    hkept.lost 1 (by decide)⟩

end Sample.Users

end VirtualTables
