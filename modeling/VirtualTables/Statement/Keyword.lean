import VirtualTables.Statement.Token

/-!
# Keywords and names

Most keywords may stand for a name where they have no meaning of their own; the reserved ones may
not. The words of joins are names too, but not after a result without the word `AS`. Some words
begin an expression of their own kind, so that they are no names there.
-/

namespace VirtualTables
namespace Statement

/-- The words that cannot stand for a name. -/
def reservedWords : List String :=
  ["add", "all", "alter", "and", "as", "autoincrement", "between", "case", "check", "collate",
    "commit", "constraint", "create", "default", "deferrable", "delete", "distinct", "drop", "else",
    "escape", "except", "exists", "foreign", "from", "group", "having", "in", "index", "insert",
    "intersect", "into", "is", "isnull", "join", "limit", "not", "nothing", "notnull", "null", "on",
    "or", "order", "primary", "references", "returning", "select", "set", "table", "then", "to",
    "transaction", "union", "unique", "update", "using", "values", "when", "where"]

/-- The words that stand for a name, but not right after a result. -/
def joiningWords : List String :=
  ["cross", "full", "indexed", "inner", "left", "natural", "outer", "right"]

/-- The words for the present moment. -/
def momentWords : List String :=
  ["current_date", "current_time", "current_timestamp"]

namespace Token

/-- Whether a token is one of certain words. -/
def isOneOf (t : Token) (words : List String) : Bool :=
  t.lexeme = .word && words.contains (String.ofList (t.text.toList.map Char.toLower))

/-- The name that a token stands for where nothing but a name can stand. -/
def name? (t : Token) : Option String :=
  match t.lexeme with
  | .word => if t.isOneOf reservedWords then none else some t.text
  | .name s | .string s => some s
  | _ => none

/-- The name that a token gives to the result before it. -/
def label? (t : Token) : Option String :=
  if t.isOneOf joiningWords then none else t.name?

/-- Whether a token stands between marks that a text may stand between as well. -/
def isDoublyQuoted (t : Token) : Bool :=
  t.text.toList.head? = some '"'

end Token

end Statement
end VirtualTables
