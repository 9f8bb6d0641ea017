import VirtualTables.Text.Utf8
import VirtualTables.Value.Basic

/-!
# Values of an engine

An engine knows fewer types than tables do: it has one size of integers and one of floating point
numbers, and its texts are bytes that need not be well-formed. It has no value that is not a number
either, and takes such a value for null.

A text that is not well-formed can be taken in two ways. In the arguments of functions and in the
rows of results its ill-formed pieces are replaced (`toValue`); as the value of a constraint it is
refused (`read?`).
-/

namespace VirtualTables

/-- A value as an engine holds it. -/
inductive EngineValue where
  | null
  | integer (n : Ranged .int8)
  | real (x : Binary .float8)
  | text (bytes : List UInt8)
  | blob (bytes : List UInt8)
  deriving DecidableEq

namespace EngineValue

/-- The engine value of a number; null when it is not a number. -/
def ofFloat (x : Binary .float8) : EngineValue :=
  if x.isNaN then null else real x

/-- The engine value that stands for a value. Integers that are too large keep their bits. -/
def ofValue : Value → EngineValue
  | .undefined => null
  | .boolean b => integer (.wrap .int8 b.toNat)
  | .float _ x => ofFloat (x.convert .float8)
  | .integer _ n => integer (.wrap .int8 n.val)
  | .utf8 s => text (Utf8.encode s.toList)
  | .blob b => blob b

/-- The value that an engine value stands for. Ill-formed pieces of a text are replaced. -/
def toValue : EngineValue → Value
  | null => .undefined
  | integer n => .integer .int8 n
  | real x => .float .float8 x
  | text b => .utf8 (String.ofList (Utf8.decodeLossy b))
  | blob b => .blob b

/-- The value that an engine value stands for, unless it is a text that is not well-formed. -/
def read? : EngineValue → Option Value
  | null => some .undefined
  | integer n => some (.integer .int8 n)
  | real x => some (.float .float8 x)
  | text b => (Utf8.decode? b).map fun chars => .utf8 (String.ofList chars)
  | blob b => some (.blob b)

end EngineValue

end VirtualTables
