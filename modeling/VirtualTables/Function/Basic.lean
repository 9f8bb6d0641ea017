import VirtualTables.Function.Error
import VirtualTables.Value.Coercion

/-!
# Scalar functions

A scalar function declares the types of its arguments. A call checks their number and takes each
argument to its declared type before the function sees it; what is missing stays missing, and the
type `any` takes every argument as it is.
-/

namespace VirtualTables

/-- A scalar function. -/
structure ScalarFunction where
  name : String
  /-- The declared types of the arguments. -/
  expected : List DataType
  body : List Value → Except Diagnostic Value

namespace ScalarFunction

/-- An argument as a function sees it that declares the type `t` for it, unless that type cannot
hold it. -/
def accept? (t : DataType) (arg : Value) : Option Value :=
  if t = .any ∨ arg.isUndefined ∨ arg.type = t then some arg
  else
    let value := arg.coerce t
    if value.isUndefined then none else some value

/-- The arguments from the one at `index` on, as a function of the given name sees them. -/
def acceptAll (name : String) : Nat → List DataType → List Value → Except FunctionError (List Value)
  | index, t :: types, arg :: args =>
    match accept? t arg with
    | none => .error (.argumentType name index t arg.type)
    | some value => (acceptAll name (index + 1) types args).map (value :: ·)
  | _, _, _ => .ok []

/-- The arguments of a call as the function sees them. -/
def arguments (f : ScalarFunction) (args : List Value) : Except FunctionError (List Value) :=
  if args.length ≠ f.expected.length then
    .error (.arity f.name f.expected.length args.length)
  else acceptAll f.name 0 f.expected args

/-- Calls a function with a body that can read and change a memory. -/
def callWith {μ : Type} (f : ScalarFunction)
    (body : μ → List Value → μ × Except Diagnostic Value) (memory : μ) (args : List Value) :
    μ × Except Diagnostic Value :=
  match f.arguments args with
  | .error e => (memory, .error e.diagnostic)
  | .ok values => body memory values

/-- Calls a function with its own body, which has nothing to remember. -/
def call (f : ScalarFunction) (args : List Value) : Except Diagnostic Value :=
  (f.callWith (fun memory values => (memory, f.body values)) () args).2

end ScalarFunction

end VirtualTables
