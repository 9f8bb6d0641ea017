import VirtualTables.Json.Basic
import VirtualTables.Json.Token

/-!
# Writing JSON

A value is written *compact*, without white space, or *pretty*: every item and member on a line of
its own, indented by two spaces for each level, with a space after the colon. An empty array or
object is written without a line break in both.
-/

namespace VirtualTables
namespace Json

/-! ## Compact -/

mutual

/-- A value without white space. -/
def compactChars : Json → List Char
  | null => Token.text .null
  | bool b => Token.text (.bool b)
  | number n => Token.text (.number n)
  | string s => Token.text (.string s)
  | array [] => ['[', ']']
  | array (j :: items) => '[' :: (compactChars j ++ compactItems items)
  | object [] => ['{', '}']
  | object ((name, j) :: members) =>
    '{' :: (Token.quote name ++ ':' :: (compactChars j ++ compactMembers members))

/-- The items after the first, and the end of the array. -/
def compactItems : List Json → List Char
  | [] => [']']
  | j :: items => ',' :: (compactChars j ++ compactItems items)

/-- The members after the first, and the end of the object. -/
def compactMembers : List (Option String × Json) → List Char
  | [] => ['}']
  | (name, j) :: members =>
    ',' :: (Token.quote name ++ ':' :: (compactChars j ++ compactMembers members))

end

/-- A value written without white space. -/
def compact (j : Json) : String :=
  String.ofList j.compactChars

/-! ## Pretty -/

/-- A line break and the indentation of a level. -/
def newLine (level : Nat) : List Char :=
  '\n' :: List.replicate (2 * level) ' '

mutual

/-- A value whose items, if it has any, stand one level below `level`. -/
def prettyChars (level : Nat) : Json → List Char
  | null => Token.text .null
  | bool b => Token.text (.bool b)
  | number n => Token.text (.number n)
  | string s => Token.text (.string s)
  | array [] => ['[', ']']
  | array (j :: items) =>
    '[' :: (newLine (level + 1) ++ (prettyChars (level + 1) j ++ prettyItems level items))
  | object [] => ['{', '}']
  | object ((name, j) :: members) =>
    '{' :: (newLine (level + 1) ++ (Token.quote name ++
      ':' :: ' ' :: (prettyChars (level + 1) j ++ prettyMembers level members)))

/-- The items after the first, and the end of the array. -/
def prettyItems (level : Nat) : List Json → List Char
  | [] => newLine level ++ [']']
  | j :: items =>
    ',' :: (newLine (level + 1) ++ (prettyChars (level + 1) j ++ prettyItems level items))

/-- The members after the first, and the end of the object. -/
def prettyMembers (level : Nat) : List (Option String × Json) → List Char
  | [] => newLine level ++ ['}']
  | (name, j) :: members =>
    ',' :: (newLine (level + 1) ++ (Token.quote name ++
      ':' :: ' ' :: (prettyChars (level + 1) j ++ prettyMembers level members)))

end

/-- A value written over several lines. -/
def pretty (j : Json) : String :=
  String.ofList (j.prettyChars 0)

end Json
end VirtualTables
