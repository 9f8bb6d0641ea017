import VirtualTables.Decimal.Reader
import VirtualTables.Text.Blank
import VirtualTables.Text.Utf8
import VirtualTables.Value.Text

/-!
# Coercion

A coercion takes a value to a given type. It changes nothing when the value has that type already,
and gives the missing value when the type cannot hold what the value stands for: an integer out of
range, text that is not a number, bytes that are not text. An integer therefore never wraps, and a
floating point number becomes an integer by dropping its fraction.
-/

namespace VirtualTables
namespace Value

/-- The integer a value stands for, of any size. Text is trimmed; text that is not an integer is
read as a floating point number. -/
def toInteger? : Value → Option Int
  | undefined | blob _ => none
  | boolean b => some b.toNat
  | float _ x => x.truncate?
  | integer _ n => some n.val
  | utf8 s =>
    let text := trimBlanks s.toList
    (readInt? text).or ((Binary.read? .float8 text).bind Binary.truncate?)

/-- The floating point number a value stands for. -/
def toFloat? : Value → Option (Binary .float8)
  | utf8 s => Binary.read? .float8 (trimBlanks s.toList)
  | v => v.asFloat?

/-- The truth value a value stands for. The words for truth values are `true` and `false`, in
letters of either case, and `1` and `0`. -/
def toBool? : Value → Option Bool
  | utf8 s =>
    let word := String.ofList ((trimBlanks s.toList).map Char.toLower)
    if word = "true" ∨ word = "1" then some true
    else if word = "false" ∨ word = "0" then some false
    else none
  | v => v.asBool?

/-- The text a value stands for: bytes are text when they are well-formed UTF-8. -/
def toText? : Value → Option String
  | undefined => none
  | blob b => (Utf8.decode? b).map String.ofList
  | v => some v.text

/-- The bytes a value stands for. -/
def toBlob? : Value → Option (List UInt8)
  | utf8 s => some (Utf8.encode s.toList)
  | _ => none

/-- The value of another type that a value stands for, if there is one. -/
def convert? (v : Value) : DataType → Option Value
  | .any => some v
  | .undefined => none
  | .boolean => v.toBool?.map boolean
  | .float k => v.toFloat?.map fun x => float k (x.convert k)
  | .integer k => (v.toInteger?.bind (Ranged.ofInt? k)).map (integer k)
  | .utf8 => v.toText?.map utf8
  | .blob => v.toBlob?.map blob

/-- The value taken to a type; missing when the type cannot hold what it stands for. -/
def coerce (v : Value) (target : DataType) : Value :=
  if target = .any ∨ target = v.type then v else (v.convert? target).getD undefined

end Value
end VirtualTables
