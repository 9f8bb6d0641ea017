import VirtualTables.Binary.Rounding
import VirtualTables.DataType

/-!
# Values

A value is what a table produces, what a function takes and gives, and what a query returns: it
carries its type with it. This module holds the values, their types, the equality that queries see
and the views of a value as a number, a truth value, a text or bytes.
-/

namespace VirtualTables

/-- A dynamically typed value. -/
inductive Value where
  /-- The missing value. -/
  | undefined
  | boolean (b : Bool)
  | float (k : FloatKind) (x : Binary k)
  | integer (k : IntKind) (n : Ranged k)
  | utf8 (text : String)
  | blob (bytes : List UInt8)
  deriving DecidableEq

namespace Value

/-- The type of a value. -/
def type : Value → DataType
  | undefined => .undefined
  | boolean _ => .boolean
  | float k _ => .float k
  | integer k _ => .integer k
  | utf8 _ => .utf8
  | blob _ => .blob

/-- Whether the value is missing. -/
def isUndefined (v : Value) : Bool :=
  v.type = .undefined

/-- Equality as queries see it. Values of different types differ; among numbers, zeros of either
sign are equal and what is not a number equals nothing. -/
def equal : Value → Value → Bool
  | float k x, float j y => k = j && x.reading.compare? y.reading = some .eq
  | v, w => v = w

/-! ## Views -/

/-- The value as a signed 8-byte integer. A floating point number is truncated and then clamped to
the range, what is not a number counting as zero; an unsigned 8-byte integer keeps its bits. -/
def asSigned? : Value → Option (Ranged .int8)
  | boolean b => some (.wrap .int8 b.toNat)
  | float _ x =>
    match x.reading with
    | .nan => some (.clamp .int8 0)
    | .infinite negative =>
      some (.clamp .int8 (if negative then IntKind.int8.least else IntKind.int8.greatest))
    | .finite .. => x.truncate?.map (.clamp .int8)
  | integer _ n => some (.wrap .int8 n.val)
  | undefined | utf8 _ | blob _ => none

/-- The value as an unsigned 8-byte integer: the bits of the signed view. -/
def asUnsigned? : Value → Option (Ranged .uint8)
  | integer .uint8 n => some n
  | v => v.asSigned?.map fun n => .wrap .uint8 n.val

/-- The value as an 8-byte floating point number, rounded where that format is too narrow. -/
def asFloat? : Value → Option (Binary .float8)
  | float _ x => some (x.convert .float8)
  | integer _ n => some (.ofInt .float8 n.val)
  | boolean b => some (.ofInt .float8 b.toNat)
  | undefined | utf8 _ | blob _ => none

/-- The value as a truth value: every number but zero is true, and so is what is not a number. -/
def asBool? : Value → Option Bool
  | boolean b => some b
  | float _ x => some !x.isZero
  | integer _ n => some (n.val != 0)
  | undefined | utf8 _ | blob _ => none

/-- The text of a value of that type. -/
def asText? : Value → Option String
  | utf8 s => some s
  | _ => none

/-- The bytes of a value of that type. -/
def asBlob? : Value → Option (List UInt8)
  | blob b => some b
  | _ => none

end Value

end VirtualTables
