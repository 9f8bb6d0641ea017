import VirtualTables.Json.Number
import VirtualTables.Json.Printer
import VirtualTables.Json.Record
import VirtualTables.Value.Basic

/-!
# Values in JSON

A value is a choice among the types: the missing value is the string of its type's name, and every
other value an object whose one member has the name of the type. Bytes are an array of numbers.
-/

namespace VirtualTables
namespace Value

/-- The content of a value that is not missing. -/
def contentJson : Value → Json
  | undefined => .null
  | boolean b => .bool b
  | float _ x => .float x
  | integer _ n => .integer n.val
  | utf8 s => .text s
  | blob b => .array (b.map fun byte => .integer byte.toNat)

/-- A value in JSON. -/
def toJson (v : Value) : Json :=
  if v.isUndefined then .text v.type.name else .record [(v.type.name, v.contentJson)]

/-- An integer of the kind `k`. -/
def readInteger? (k : IntKind) (j : Json) : Option (Ranged k) :=
  (j.numeral?.bind Numeral.toInteger?).bind (Ranged.ofInt? k)

/-- A byte. -/
def readByte? (j : Json) : Option UInt8 :=
  (readInteger? .uint1 j).map fun n => n.val.toNat.toUInt8

/-- The content of a value of the given type; no value has the type `any`. -/
def ofContent? : DataType → Json → Option Value
  | .any, _ | .undefined, _ => none
  | .boolean, j => j.bool?.map boolean
  | .float k, j => (j.numeral?.bind (Json.toBinary? k)).map (float k)
  | .integer k, j => (readInteger? k j).map (integer k)
  | .utf8, j => j.text?.map utf8
  | .blob, j => (j.list? readByte?).map blob

/-- The value that a JSON value stands for. -/
def ofJson? (j : Json) : Option Value := do
  let (name, content) ← j.choice?
  match ← DataType.ofName? name, content with
  | .undefined, none | .undefined, some .null => some undefined
  | t, some c => ofContent? t c
  | _, none => none

/-- The value that a JSON text stands for. -/
def parse? (text : String) : Option Value :=
  (Json.parse? text).bind ofJson?

end Value
end VirtualTables
