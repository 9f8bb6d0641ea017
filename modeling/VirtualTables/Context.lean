import VirtualTables.Constraint

/-!
# The context of a scan

A scan gives the table a context: the constraints it has to observe and the fields it has to
produce. The table keeps its place in the context, and can fail the scan by leaving a message
there.
-/

namespace VirtualTables

/-- The context of one scan; `σ` is what a table keeps of its place. -/
structure QueryContext (σ : Type) where
  constraints : List Constraint
  requested : FieldSet
  state : Option σ
  failure : Option String
  deriving DecidableEq

namespace QueryContext

variable {σ : Type}

/-- A context in which nothing has happened yet. -/
def new (constraints : List Constraint) (requested : FieldSet) : QueryContext σ :=
  { constraints, requested, state := none, failure := none }

/-- A context without constraints that asks for nothing. -/
def empty : QueryContext σ :=
  new [] .empty

/-- Whether a field has to be produced. -/
def isRequested (ctx : QueryContext σ) (field : Field) : Bool :=
  field ∈ ctx.requested

/-- The context with another place. -/
def setState (ctx : QueryContext σ) (state : σ) : QueryContext σ :=
  { ctx with state := some state }

/-- The place, if it is of a certain form. -/
def stateAs? {τ : Type} (form : σ → Option τ) (ctx : QueryContext σ) : Option τ :=
  ctx.state.bind form

@[simp]
theorem stateAs?_setState {τ : Type} (form : σ → Option τ) (ctx : QueryContext σ) (state : σ) :
    (ctx.setState state).stateAs? form = form state :=
  rfl

/-- Takes the place out of the context, if it is of a certain form. -/
def takeState {τ : Type} (form : σ → Option τ) (ctx : QueryContext σ) :
    Option τ × QueryContext σ :=
  match ctx.stateAs? form with
  | some s => (some s, { ctx with state := none })
  | none => (none, ctx)

/-- The context with the message of a failure; an earlier message is forgotten. -/
def fail (ctx : QueryContext σ) (message : String) : QueryContext σ :=
  { ctx with failure := some message }

/-- Takes the message of a failure out of the context. -/
def takeFailure (ctx : QueryContext σ) : Option String × QueryContext σ :=
  (ctx.failure, { ctx with failure := none })

end QueryContext

end VirtualTables
