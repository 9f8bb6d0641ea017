import VirtualTables.DataType
import VirtualTables.Diagnostic.Basic

/-!
# Failures of functions

What can go wrong when a scalar function is called. The message of a failure and the message of its
diagnostic are worded differently, and only the diagnostic counts arguments from one.
-/

namespace VirtualTables

/-- A failure of a function call. -/
inductive FunctionError where
  /-- The number of arguments is not the declared one. -/
  | arity (function : String) (expected actual : Nat)
  /-- An argument cannot be taken to its declared type; arguments are counted from zero. -/
  | argumentType (function : String) (index : Nat) (expected actual : DataType)
  /-- The function itself reported a failure. -/
  | executionFailed (function reason : String)
  deriving DecidableEq, Repr

namespace FunctionError

/-- What happened, on one line. -/
def message : FunctionError → String
  | arity function expected actual =>
    s!"function {function} expects {expected} arguments, got {actual}"
  | argumentType function index expected _ =>
    s!"function {function} argument {index} cannot be converted to {expected.label}"
  | executionFailed function reason => s!"function {function} failed: {reason}"

/-- The failure as a diagnostic. -/
def diagnostic : FunctionError → Diagnostic
  | arity function expected actual =>
    { code := "FUNCTION_002"
      message := s!"Function {function} expects {expected} arguments, got {actual}"
      label := some "wrong number of arguments"
      help := some s!"Provide exactly {expected} arguments to function {function}"
      notes := []
      causes := [] }
  | argumentType function index expected actual =>
    { code := "FUNCTION_004"
      message := s!"Function {function} argument {index + 1} has invalid type: " ++
        s!"expected {expected.label}, got {actual.label}"
      label := some "invalid argument type"
      help := some s!"Provide an argument of type: {expected.label}"
      notes := []
      causes := [] }
  | executionFailed function reason =>
    { code := "FUNCTION_007"
      message := s!"Function {function} execution failed: {reason}"
      label := some "function execution failed"
      help := some s!"Check function {function} arguments and data"
      notes := []
      causes := [] }

end FunctionError

end VirtualTables
