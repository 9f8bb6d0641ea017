import VirtualTables.Plan.Pushdown

/-!
# Plans kept for later scans

An engine plans a query first and scans later, and between the two it knows a plan only by its
number. So plans are numbered from one on and kept for a while: minting a plan drops those that are
too many numbers behind it.

How many are kept is the window, at least one. Only its low 32 bits count, read as a signed number;
when that number is not positive, not even the plan just minted is kept. The numbers of plans have
32 bits as well: after the greatest of them the next plan is number one again, and all plans from
before are forgotten.
-/

namespace VirtualTables

/-- A plan that a scan can refer to. -/
structure Plan where
  id : Int
  constraints : List PlannedConstraint
  requested : FieldSet
  deriving DecidableEq

/-- The recent plans of a table, by ascending number. -/
structure PlanBacklog where
  window : Nat
  nextId : Int
  plans : List Plan
  deriving DecidableEq

namespace PlanBacklog

/-- The number of plans kept where nothing else is asked for. -/
def defaultWindow : Nat :=
  20

/-- No plan minted yet. -/
def new (window : Nat) : PlanBacklog :=
  { window := max window 1, nextId := 1, plans := [] }

/-- The window as it counts: its low 32 bits, read as a signed number. -/
def span (b : PlanBacklog) : Int :=
  (Ranged.wrap .int4 b.window).val

/-- How many numbers the oldest plan that is kept may be behind the newest one. -/
def reach (b : PlanBacklog) : Int :=
  (Ranged.wrap .int4 (b.span - 1)).val

/-- The least number that is kept when `newest` was just minted. -/
def oldestKept (b : PlanBacklog) (newest : Int) : Int :=
  (Ranged.clamp .int4 (newest - b.reach)).val

/-- The plans with one more, in the place of one of the same number. -/
def insertPlan (plan : Plan) : List Plan → List Plan
  | [] => [plan]
  | p :: rest =>
    if p.id < plan.id then p :: insertPlan plan rest
    else if p.id = plan.id then plan :: rest
    else plan :: p :: rest

/-- Whether the next plan has the greatest number that there is. -/
def isLast (b : PlanBacklog) : Bool :=
  b.nextId = IntKind.int4.greatest

/-- A new plan, and the backlog with it and without those it displaces. -/
def mint (b : PlanBacklog) (constraints : List PlannedConstraint) (requested : FieldSet) :
    Plan × PlanBacklog :=
  let plan : Plan := { id := b.nextId, constraints, requested }
  let earlier := if b.isLast then [] else b.plans
  (plan,
    { b with
      nextId := if b.isLast then 1 else b.nextId + 1
      plans := (insertPlan plan earlier).dropWhile (·.id < b.oldestKept plan.id) })

/-- The plan with a number, if it is still kept. -/
def get? (b : PlanBacklog) (id : Int) : Option Plan :=
  b.plans.find? (·.id = id)

/-- The number of plans that are kept. -/
def size (b : PlanBacklog) : Nat :=
  b.plans.length

end PlanBacklog

end VirtualTables
