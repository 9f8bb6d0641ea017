import VirtualTables.Binary.Power
import VirtualTables.Binary.Root
import VirtualTables.Diagnostic.Internal
import VirtualTables.Function.Basic

/-!
# Sample functions

Four functions that show what a function can do with its arguments, and functions that are made to
order from a recipe.
-/

namespace VirtualTables
namespace Sample

/-- A power of floating point numbers; missing when an argument is no number. -/
def power : ScalarFunction where
  name := "power"
  expected := [.float .float8, .float .float8]
  body args :=
    match args[0]?.bind Value.asFloat?, args[1]?.bind Value.asFloat? with
    | some base, some exponent => .ok (.float .float8 (base.pow exponent))
    | _, _ => .ok .undefined

/-- A square root; missing when the argument is no number, and a failure when it is below zero. -/
def sqrt : ScalarFunction where
  name := "sqrt"
  expected := [.float .float8]
  body args :=
    match args[0]?.bind Value.asFloat? with
    | some x =>
      if x.reading.isBelowZero then
        .error (FunctionError.executionFailed "sqrt" "negative argument").diagnostic
      else .ok (.float .float8 x.sqrt)
    | none => .ok .undefined

/-- The number of a circle, to four places. -/
def pi : ScalarFunction where
  name := "pi"
  expected := []
  body _ := .ok (.float .float8 (.ofDecimal .float8 false 31415 (-4)))

/-- A function that always fails. -/
def fail : ScalarFunction where
  name := "fail"
  expected := [.any]
  body args :=
    match args[0]? with
    | some arg => .error (FunctionError.executionFailed "fail" ("refusing " ++ arg.text)).diagnostic
    | none => .error (.internal "fail called without arguments")

/-- What a function made to order does. -/
inductive Recipe where
  /-- Gives the texts of the arguments, one after another. -/
  | concat
  /-- Gives the types of the arguments, with commas between them. -/
  | types
  /-- Gives a fixed value. -/
  | constant (value : Value)
  /-- Gives the argument at a position, counted from zero. -/
  | argument (position : Nat)
  /-- Fails for a reason. -/
  | fail (reason : String)
  /-- Fails with a diagnostic. -/
  | diagnostic (d : Diagnostic)
  deriving DecidableEq

/-- The outcome of a recipe for the function of a name. -/
def Recipe.follow (name : String) (args : List Value) : Recipe → Except Diagnostic Value
  | concat => .ok (.utf8 (String.join (args.map (·.text))))
  | types => .ok (.utf8 (",".intercalate (args.map (·.type.label))))
  | constant value => .ok value
  | argument position => .ok (args[position]?.getD .undefined)
  | fail reason => .error (FunctionError.executionFailed name reason).diagnostic
  | diagnostic d => .error d

/-- The function that follows a recipe. -/
def Recipe.function (name : String) (expected : List DataType) (r : Recipe) : ScalarFunction where
  name := name
  expected := expected
  body args := r.follow name args

end Sample
end VirtualTables
