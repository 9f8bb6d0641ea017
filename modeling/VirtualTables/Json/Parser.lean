import VirtualTables.Json.Basic
import VirtualTables.Json.Token

/-!
# Reading JSON

A JSON text is split into tokens, and the tokens are grouped into one value. White space may stand
before and after the value, and nothing else.
-/

namespace VirtualTables
namespace Json

mutual

/-- The value that a sequence of tokens starts with, and the tokens after it. The fuel bounds the
number of tokens taken. -/
def readValue : Nat → List Token → Option (Json × List Token)
  | 0, _ => none
  | _ + 1, .null :: rest => some (.null, rest)
  | _ + 1, .bool b :: rest => some (.bool b, rest)
  | _ + 1, .number n :: rest => some (.number n, rest)
  | _ + 1, .string s :: rest => some (.string s, rest)
  | _ + 1, .openArray :: .closeArray :: rest => some (.array [], rest)
  | fuel + 1, .openArray :: rest =>
    (readItems fuel rest).map fun (items, r) => (.array items, r)
  | _ + 1, .openObject :: .closeObject :: rest => some (.object [], rest)
  | fuel + 1, .openObject :: rest =>
    (readMembers fuel rest).map fun (members, r) => (.object members, r)
  | _ + 1, _ => none

/-- The items of an array up to its end, at least one. -/
def readItems : Nat → List Token → Option (List Json × List Token)
  | 0, _ => none
  | fuel + 1, tokens =>
    match readValue fuel tokens with
    | some (j, .comma :: rest) => (readItems fuel rest).map fun (items, r) => (j :: items, r)
    | some (j, .closeArray :: rest) => some ([j], rest)
    | _ => none

/-- The members of an object up to its end, at least one. -/
def readMembers : Nat → List Token → Option (List (Option String × Json) × List Token)
  | 0, _ => none
  | fuel + 1, .string name :: .colon :: tokens =>
    match readValue fuel tokens with
    | some (j, .comma :: rest) =>
      (readMembers fuel rest).map fun (members, r) => ((name, j) :: members, r)
    | some (j, .closeObject :: rest) => some ([(name, j)], rest)
    | _ => none
  | _ + 1, _ => none

end

/-- The value of a whole sequence of tokens. Each level of nesting takes one unit of fuel for the
value and one for its items, and has a token to show for each. -/
def ofTokens? (tokens : List Token) : Option Json :=
  match readValue (2 * tokens.length) tokens with
  | some (j, []) => some j
  | _ => none

/-- The value of a JSON text. -/
def parse? (text : String) : Option Json :=
  (Token.scan text.toList).bind ofTokens?

end Json
end VirtualTables
