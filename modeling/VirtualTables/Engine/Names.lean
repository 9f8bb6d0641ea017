import VirtualTables.Statement.Refusal
import VirtualTables.Text.Utf8

/-!
# Names that an engine takes

An engine takes no name that holds a NUL. Names that differ only in the case of ASCII letters are
the same for it.
-/

namespace VirtualTables
namespace EngineName

/-- A name with its ASCII letters in lower case. -/
def folded (name : String) : List Char :=
  name.toList.map Char.toLower

/-- Whether an engine takes two names for the same. -/
def same (a b : String) : Bool :=
  folded a = folded b

/-- Whether some name in a list stands for the same as an earlier one. -/
def hasRepetition : List String → Bool
  | [] => false
  | name :: rest => rest.any (same name) || hasRepetition rest

/-- What an engine says against a text with a NUL. -/
def nulRefusal? (text : String) : Option String :=
  ((Utf8.encode text.toList).findIdx? (· = 0)).map fun position =>
    s!"nul byte found in provided data at position: {position}"

/-- What an engine says against the name of a function, if it does. A name has at most 255
bytes. -/
def functionRefusal? (name : String) : Option String :=
  (nulRefusal? name).or
    (if 255 < (Utf8.encode name.toList).length then
      some (Refusal.noStatement.message "")
    else none)

end EngineName
end VirtualTables
