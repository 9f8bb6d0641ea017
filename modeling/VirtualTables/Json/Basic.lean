import VirtualTables.Decimal.Numeral

/-!
# JSON values

A JSON value is kept as it was written where that matters to a reader: a number is a numeral, and
an object is the list of its members, repeated names included.

A string whose escapes leave a surrogate unpaired stands for no text. It may stand in a part of a
document that nobody reads, so it is a value of its own: `none` in place of the text.
-/

namespace VirtualTables

/-- A JSON value. -/
inductive Json where
  | null
  | bool (b : Bool)
  | number (n : Numeral)
  | string (text : Option String)
  | array (items : List Json)
  | object (members : List (Option String × Json))

namespace Json

/-- The JSON string of a text. -/
def text (s : String) : Json :=
  .string (some s)

/-- The JSON string of a text, or null. -/
def textOrNull (s : Option String) : Json :=
  s.elim .null text

/-- The JSON number of an integer. -/
def integer (n : Int) : Json :=
  .number (.ofInt n)

/-- The JSON object with the given members. -/
def record (members : List (String × Json)) : Json :=
  .object (members.map fun (name, j) => (some name, j))

end Json

end VirtualTables
