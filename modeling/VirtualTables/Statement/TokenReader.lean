import VirtualTables.Statement.Keyword

/-!
# Reading tokens

A reader takes tokens from the front of a list, or refuses the first one that does not fit. So the
place of a syntax error is the first token with which no statement goes on. The end of the text is
taken by no reader; a statement that is refused there is incomplete.
-/

namespace VirtualTables
namespace Statement

/-- Takes tokens from the front of a list, or refuses. -/
abbrev TokenReader := StateT (List Token) (Except Refusal)

namespace TokenReader

variable {α : Type}

/-- The next token, which is not taken. -/
def next : TokenReader Token :=
  return (← get).headD ⟨.finish, "", 0, ""⟩

/-- Takes a token that is known already. -/
def skip : TokenReader Unit :=
  modify (·.drop 1)

/-- Refuses the next token. -/
def refuse : TokenReader α := do
  throw (← next).refusal

/-- Takes the next token if it passes a test, and tells whether it does. -/
def takes (test : Token → Bool) : TokenReader Bool := do
  if test (← next) then
    skip
    return true
  else return false

/-- Takes a certain symbol if it comes next. -/
def takesSymbol (symbol : String) : TokenReader Bool :=
  takes (·.isSymbol symbol)

/-- Takes a certain word if it comes next. -/
def takesWord (word : String) : TokenReader Bool :=
  takes (·.isWord word)

/-- Takes a certain symbol, which must come next. -/
def symbol (symbol : String) : TokenReader Unit := do
  if !(← takesSymbol symbol) then refuse

/-- Takes a certain word, which must come next. -/
def word (word : String) : TokenReader Unit := do
  if !(← takesWord word) then refuse

/-- Takes a name, which must come next, with its token. -/
def nameToken : TokenReader (Token × String) := do
  let t ← next
  match t.name? with
  | some name =>
    skip
    return (t, name)
  | none => refuse

/-- Takes a name, which must come next. -/
def name : TokenReader String :=
  return (← nameToken).2

/-- Takes a name after a word that announces it, or a name that gives a label, if there is one. -/
def label? : TokenReader (Option String) := do
  if ← takesWord "as" then return some (← name)
  else
    match (← next).label? with
    | some name =>
      skip
      return some name
    | none => return none

end TokenReader

end Statement
end VirtualTables
