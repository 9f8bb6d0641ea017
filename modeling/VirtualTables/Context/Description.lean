import VirtualTables.Context
import VirtualTables.Value.Description

/-!
# Contexts in descriptions

A description of a context shows its constraints, the requested fields, whether the table keeps a
place in it, and the message of a failure.
-/

namespace VirtualTables

/-- A constraint in a description. -/
def Constraint.describe (c : Constraint) : String :=
  "Constraint \x7b field: " ++ c.field.describe ++ ", op: " ++ c.op.name ++ ", value: " ++
    c.value.describe ++ " \x7d"

/-- A context in a description. -/
def QueryContext.describe {σ : Type} (ctx : QueryContext σ) : String :=
  "QueryContext \x7b constraints: [" ++ ", ".intercalate (ctx.constraints.map (·.describe)) ++
    "], requested: \x7b" ++ ", ".intercalate (ctx.requested.toList.map (·.describe)) ++
    "\x7d, has_state: " ++ (if ctx.state.isSome then "true" else "false") ++ ", failure: " ++
    ctx.failure.elim "None" (fun message => "Some(" ++ Quoted.quote message ++ ")") ++ " \x7d"

end VirtualTables
