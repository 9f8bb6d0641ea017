import VirtualTables.Statement.ExpressionReader

/-!
# Reading statements

A small part of the language of statements is read: selections, of which several may be joined when
none of them takes the rows of a table, and the creation of a table. Only the first statement of a
text is read; what follows it is another text.

* `read` — the selections of a statement, and where the statement ends.
* `readCreation` — the table that a statement creates.
-/

namespace VirtualTables
namespace Statement

/-- The creation of a table by a module. -/
structure Creation where
  /-- The name of the table. -/
  name : String
  /-- The name as it is written, and its place. -/
  text : String
  place : Nat
  /-- The name of the module. -/
  module : String
  deriving DecidableEq, Repr

/-- Tokens as they are written, from the first of them up to the next one, without blanks at the
end. -/
def written (taken : List Token) (next : Token) : String :=
  let text := String.join ((taken.map fun t => t.blanks ++ t.text) ++ [next.blanks])
  let blanks := (taken.head?.map fun t => t.blanks.length).getD 0
  String.ofList ((text.toList.drop blanks).reverse.dropWhile isAsciiBlank).reverse

namespace TokenReader

/-- A result: a star, a star after the name of a table, or an expression. -/
def result : TokenReader ResultColumn := do
  let before ← get
  match before with
  | t :: u :: v :: _ =>
    if t.name?.isSome && u.isSymbol "." && v.isSymbol "*" then
      set (before.drop 3)
      return .all
  | _ => pure ()
  if ← takesSymbol "*" then return .all
  let e ← phrase
  let after ← get
  match ← label? with
  | some label => return .expression e (.label label)
  | none =>
    return .expression e (.text (written (before.take (before.length - after.length)) (← next)))

/-- Results with commas between them. -/
def results : Nat → TokenReader (List ResultColumn)
  | 0 => refuse
  | fuel + 1 => do
    let r ← result
    if ← takesSymbol "," then return r :: (← results fuel) else return [r]

/-- A table, which may be named after its owner. -/
def table : TokenReader TableName := do
  let first ← name
  let second ← if ← takesSymbol "." then some <$> name else pure none
  return { owner := second.map fun _ => first, name := second.getD first, label := ← label? }

/-- A selection. -/
def selection : TokenReader Selection := do
  word "select"
  discard (takes (·.isOneOf ["distinct", "all"]))
  let results ← results (← get).length
  let source ← if ← takesWord "from" then some <$> table else pure none
  let condition ← if ← takesWord "where" then some <$> phrase else pure none
  return { results, source, condition }

/-- Selections that are joined. -/
def selections : Nat → TokenReader (List Selection)
  | 0 => refuse
  | fuel + 1 => do
    let s ← selection
    if s.source.isNone && (← takesWord "union") then
      word "all"
      return s :: (← selections fuel)
    else return [s]

/-- The end of a statement, and the place of what follows. -/
def finish : TokenReader (Option Nat) := do
  let t ← next
  if t.lexeme = .finish then return none
  else if t.isSymbol ";" then return some (t.offset + 1)
  else refuse

/-- A statement of selections, and the place of what follows. -/
def statement : TokenReader (List Selection × Option Nat) := do
  let selections ← selections (← get).length
  if Refusal.rowLimit < selections.length then throw .tooManyRows
  return (selections, ← finish)

/-- A statement that creates a table. -/
def creation : TokenReader Creation := do
  word "create"
  word "virtual"
  word "table"
  let first ← nameToken
  let (t, name) ← if ← takesSymbol "." then nameToken else pure first
  word "using"
  let module ← TokenReader.name
  discard finish
  return { name, text := t.text, place := t.offset, module }

end TokenReader

/-- What follows a place in a text, counted in bytes. -/
def afterPlace : Nat → List Char → List Char
  | 0, text => text
  | _, [] => []
  | n + 1, c :: rest => afterPlace (n + 1 - c.utf8Size) rest

/-- Reads the first statement of a text, with the place of what follows it; there is none if the
text has no tokens. -/
def read (text : List Char) : Except Refusal (Option (List Selection × Option Nat)) :=
  let ts := (tokens text).dropWhile (·.isSymbol ";")
  if ts.all (·.lexeme = .finish) then .ok none
  else (TokenReader.statement ts).map fun (r, _) => some r

/-- Reads a statement that creates a table. -/
def readCreation (text : List Char) : Except Refusal Creation :=
  (TokenReader.creation (tokens text)).map (·.1)

end Statement
end VirtualTables
