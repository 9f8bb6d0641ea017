import VirtualTables.DataType
import VirtualTables.Engine.Number

/-!
# The affinity of a column

An engine takes values to the kind that the column they are compared with is declared for. A column
for numbers has whole numbers as integers, one for floating point numbers has none of these, and a
column for text has numbers as their text; a text that is a number counts as one for both kinds of
numbers. Values of other kinds stay as they are.
-/

namespace VirtualTables

/-- What an engine takes values of a column to. -/
inductive Affinity where
  | number
  | real
  | text
  | anything
  deriving DecidableEq, Repr

namespace Affinity

/-- The affinity of a column that is declared with a type. -/
def ofType : DataType → Affinity
  | .boolean | .integer _ => number
  | .float _ => real
  | .utf8 | .any | .undefined => text
  | .blob => anything

/-- Whether values are taken to numbers. -/
def isNumeric : Affinity → Bool
  | number | real => true
  | text | anything => false

/-- The integer that a floating point number is, if it lies strictly between the least and the
greatest one. -/
def wholeNumber? (x : Binary .float8) : Option (Ranged .int8) := do
  let n ← Ranged.ofInt? .int8 (← x.truncate?)
  let isSame := x.reading.compare? (.finite (n.val < 0) n.val.natAbs 0) = some .eq
  if isSame ∧ IntKind.int8.least < n.val ∧ n.val < IntKind.int8.greatest then some n else none

/-- A text that is a number as this number, and other values as they are. -/
def asNumber : EngineValue → EngineValue
  | .text b => (EngineValue.numberOfText? b).getD (.text b)
  | v => v

/-- A number as its text, and other values as they are. -/
def asText : EngineValue → EngineValue
  | .null => .null
  | .blob b => .blob b
  | v => (v.textBytes?.map .text).getD v

/-- A whole number as an integer, and other values as they are. -/
def asInteger : EngineValue → EngineValue
  | .real x => (wholeNumber? x).elim (.real x) .integer
  | v => v

/-- An integer as a floating point number, and other values as they are. -/
def asReal : EngineValue → EngineValue
  | .integer n => .real (.ofInt .float8 n.val)
  | v => v

/-- A value as a column of the affinity has it. -/
def adapt (a : Affinity) (v : EngineValue) : EngineValue :=
  match a with
  | number => asInteger (asNumber v)
  | real => asReal (asInteger (asNumber v))
  | text => asText v
  | anything => v

/-- The affinity that a list of values is taken to when a column is sought in it. -/
def ofChoice : Affinity → Affinity
  | real => number
  | a => a

/-- The affinity for comparing two things, each of which may have one of its own. -/
def joint? : Option Affinity → Option Affinity → Option Affinity
  | some a, some b => some (if a.isNumeric || b.isNumeric then number else anything)
  | a, b => a.or b

/-- Whether a value is a text. -/
def isText : EngineValue → Bool
  | .text _ => true
  | _ => false

/-- Two values as they are compared. -/
def aligned (a : Option Affinity) (v w : EngineValue) : EngineValue × EngineValue :=
  match a with
  | some number | some real => (asNumber v, asNumber w)
  | some text => if isText v || isText w then (asText v, asText w) else (v, w)
  | some anything | none => (v, w)

end Affinity

end VirtualTables
