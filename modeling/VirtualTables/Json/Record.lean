import VirtualTables.Json.Parser

/-!
# Reading records from JSON

Records, choices and lists are read from JSON by the rules of this module.

* A record is an object. Each of its fields may stand in it once; members with other names are
  skipped. It may also be an array of exactly the fields, in order.
* A field that may be missing is missing when it is null, too.
* A choice without content is the string of its name, or an object with that one member and null.
  A choice with content is an object with that one member.
-/

namespace VirtualTables
namespace Json

/-- The text of a string. -/
def text? : Json → Option String
  | .string s => s
  | _ => none

/-- The truth value. -/
def bool? : Json → Option Bool
  | .bool b => some b
  | _ => none

/-- The numeral of a number. -/
def numeral? : Json → Option Numeral
  | .number n => some n
  | _ => none

/-- The items of an array, each read by `read`. -/
def list? {α : Type} (read : Json → Option α) : Json → Option (List α)
  | .array items => items.mapM read
  | _ => none

/-- The value of the only member with the given name; `none` when the name stands twice, and no
value when it is missing. -/
def member? (members : List (Option String × Json)) (name : String) : Option (Option Json) :=
  match members.filter (·.1 = some name) with
  | [] => some none
  | [(_, j)] => some (some j)
  | _ => none

/-- The fields of a record, in the order of the given names. -/
def fields? (names : List String) : Json → Option (List (Option Json))
  | .object members =>
    if members.all (·.1.isSome) then names.mapM (member? members) else none
  | .array items => if items.length = names.length then some (items.map some) else none
  | _ => none

/-- A field that must be there. -/
def required {α : Type} (read : Json → Option α) (field : Option Json) : Option α :=
  field.bind read

/-- A field that may be missing. -/
def optional {α : Type} (read : Json → Option α) : Option Json → Option (Option α)
  | none | some .null => some none
  | some j => (read j).map some

/-- The name of a choice, and its content if it is written with one. -/
def choice? : Json → Option (String × Option Json)
  | .string (some name) => some (name, none)
  | .object [(some name, j)] => some (name, some j)
  | _ => none

/-- The name of a choice without content. -/
def bareChoice? (j : Json) : Option String :=
  match choice? j with
  | some (name, none) | some (name, some .null) => some name
  | _ => none

end Json
end VirtualTables
