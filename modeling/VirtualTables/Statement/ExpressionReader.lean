import VirtualTables.Statement.Selection
import VirtualTables.Statement.TokenReader

/-!
# Reading expressions

Operators bind at levels: the higher the level, the tighter. An operator takes the expression before
it and one whose operators bind tighter after it; a sign takes only what stands right after it.

Selections inside expressions are not read here. What does not fit is refused where it stands
(`TokenReader.refuse`).
-/

namespace VirtualTables

/-- The level at which an operator binds. -/
def BinaryOperator.level : BinaryOperator → Nat
  | or => 1
  | and => 2
  | is | compare .eq | compare .ne => 4
  | compare _ => 5
  | arithmetic .bitAnd | arithmetic .bitOr | arithmetic .shiftLeft | arithmetic .shiftRight => 7
  | arithmetic .add | arithmetic .subtract => 8
  | arithmetic _ => 9
  | concatenate => 10

namespace Statement

/-- The levels of what is no operator between two expressions. -/
inductive Level where
  | negation
  | predicate
  | collation
  | sign

/-- The number of a level. -/
def Level.number : Level → Nat
  | negation => 3
  | predicate => 4
  | collation => 11
  | sign => 12

/-- The operator that is written in a certain way. -/
def operatorOfText? (text : String) : Option BinaryOperator :=
  List.lookup text
    [("or", .or), ("and", .and), ("=", .compare .eq), ("==", .compare .eq), ("!=", .compare .ne),
      ("<>", .compare .ne), ("<", .compare .lt), ("<=", .compare .le), (">", .compare .gt),
      (">=", .compare .ge), ("&", .arithmetic .bitAnd), ("|", .arithmetic .bitOr),
      ("<<", .arithmetic .shiftLeft), (">>", .arithmetic .shiftRight), ("+", .arithmetic .add),
      ("-", .arithmetic .subtract), ("*", .arithmetic .multiply), ("/", .arithmetic .divide),
      ("%", .arithmetic .remainder), ("||", .concatenate)]

/-- The operators that stand before one expression. -/
def signs : List (String × UnaryOperator) :=
  [("-", .negative), ("+", .positive), ("~", .complement)]

/-- The words that begin a selection. -/
def selectingWords : List String :=
  ["select", "values", "with"]

/-- The words that compare with a pattern. Each calls the function of its name, with the pattern
first. -/
def patternWords : List String :=
  ["like", "glob", "regexp", "match"]

namespace Token

/-- The operator that a token stands for between two expressions. -/
def operator? (t : Token) : Option BinaryOperator :=
  match t.lexeme with
  | .symbol => operatorOfText? t.text
  | .word => operatorOfText? (String.ofList (t.text.toList.map Char.toLower))
  | _ => none

/-- The number that a token is written as. -/
def number (t : Token) : Phrase :=
  let text := t.text.toList.filter (· ≠ '_')
  match text with
  | '0' :: x :: digits =>
    if x = 'x' ∨ x = 'X' then .constant (.integer (.wrap .int8 ((Hex.read? digits).getD 0)))
    else decimal text
  | _ => decimal text
where
  /-- The number that decimal digits stand for. -/
  decimal (text : List Char) : Phrase :=
    match readNat? text, readDecimal? text with
    | some n, _ => .apply (.integer n) []
    | none, some (c, e) => .constant (.real (.ofDecimal .float8 false c e))
    | none, none => .constant .null

/-- Whether a token is the number of an inner register, which no statement may name. -/
def isRegister (t : Token) : Bool :=
  match t.text.toList with
  | '#' :: c :: _ => c.isDigit
  | _ => false

end Token

namespace TokenReader

/-- The names that follow the first name of a column, each after a point. -/
def moreNames : Nat → TokenReader (List String)
  | 0 => return []
  | limit + 1 => do
    if ← takesSymbol "." then
      let n ← name
      return n :: (← moreNames limit)
    else return []

/-- A column whose first name was taken already. At most two names follow it. -/
def column (t : Token) (first : String) : TokenReader Phrase := do
  let names := first :: (← moreNames 2)
  return .apply
    (.column
      { owners := names.dropLast, name := names.getLastD "", place := t.offset,
        isText := t.isDoublyQuoted && names.length = 1 })
    []

/-- The words of a type. -/
def typeWords : Nat → TokenReader (List String)
  | 0 => return []
  | limit + 1 => do
    match (← next).label? with
    | some word =>
      skip
      return word :: (← typeWords limit)
    | none => return []

/-- The affinity of a type that is written with words. -/
def affinityOfType (words : List String) : Affinity :=
  match words.map fun word => String.ofList (word.toList.map Char.toLower) with
  | [] | ["blob"] => .anything
  | ["text"] => .text
  | ["real"] => .real
  | _ => .number

/-- A call with the given arguments. -/
def call (t : Token) (function : String) (args : List Phrase) : TokenReader Phrase := do
  if Refusal.argumentLimit < args.length then throw (.tooManyArguments t.text t.offset)
  return .apply (.call ⟨function, t.offset⟩) args

/-- Whether an expression is one of a list. One constant alone is compared with. -/
def among (e : Phrase) (items : List Phrase) : Phrase :=
  match items with
  | [] => .apply (.integer 0) []
  | [item] =>
    if item.isConstant then .binary (.compare .eq) e (.unary .positive item)
    else .apply .among [e, item]
  | items => .apply .among (e :: items)

/-- The negation of an expression where it is asked for. -/
def negatedIf (isNegated : Bool) (e : Phrase) : Phrase :=
  if isNegated then .unary .not e else e

mutual

/-- An expression whose operators bind at a level or tighter. -/
def expression : Nat → Nat → TokenReader Phrase
  | 0, _ => refuse
  | fuel + 1, level => do continuation fuel level (← operand fuel)

/-- Expressions with commas between them. -/
def list : Nat → TokenReader (List Phrase)
  | 0 => refuse
  | fuel + 1 => do
    let e ← expression fuel 1
    if ← takesSymbol "," then return e :: (← list fuel) else return [e]

/-- An expression that goes on after its first operand with operators of a level or tighter. -/
def continuation : Nat → Nat → Phrase → TokenReader Phrase
  | 0, _, _ => refuse
  | fuel + 1, level, e => do
    let t ← next
    match t.operator? with
    | some o =>
      if o.level < level then return e
      skip
      let f ← expression fuel (o.level + 1)
      continuation fuel level (if o = .and then e.both f else .binary o e f)
    | none =>
      if t.isSymbol "->" || t.isSymbol "->>" then
        if Level.collation.number ≤ level then return e
        skip
        continuation fuel level (← call t t.text [e, ← expression fuel Level.collation.number])
      else if level ≤ Level.negation.number && t.isWord "not" then
        skip
        if ← takesWord "null" then continuation fuel level (.unary .not (.unary .isNull e))
        else continuation fuel level (← predicate fuel true e)
      else if level ≤ Level.predicate.number && t.isWord "is" then
        skip
        let isNegated ← takesWord "not"
        let isDistinct ← takesWord "distinct"
        if isDistinct then word "from"
        let f ← expression fuel (Level.predicate.number + 1)
        continuation fuel level (negatedIf (isNegated != isDistinct) (.binary .is e f))
      else if level ≤ Level.predicate.number && t.isOneOf ["isnull", "notnull"] then
        skip
        continuation fuel level (negatedIf (t.isWord "notnull") (.unary .isNull e))
      else if level ≤ Level.predicate.number &&
          t.isOneOf ("between" :: "in" :: patternWords) then
        continuation fuel level (← predicate fuel false e)
      else if level ≤ Level.collation.number && t.isWord "collate" then
        skip
        discard name
        continuation fuel level e
      else return e

/-- What is asked of an expression by a word that comes next: a pattern, bounds or a list. -/
def predicate : Nat → Bool → Phrase → TokenReader Phrase
  | 0, _, _ => refuse
  | fuel + 1, isNegated, e => do
    let t ← next
    let above := Level.predicate.number + 1
    if t.isOneOf patternWords then
      skip
      let pattern ← expression fuel above
      if ← takesWord "escape" then
        let mark ← expression fuel above
        return negatedIf isNegated (← call t t.text [pattern, e, mark])
      else return negatedIf isNegated (← call t t.text [pattern, e])
    else if t.isWord "between" then
      skip
      let low ← expression fuel Level.negation.number
      word "and"
      let high ← expression fuel above
      return negatedIf isNegated
        (.binary .and (.binary (.compare .ge) e low) (.binary (.compare .le) e high))
    else if t.isWord "in" then
      skip
      symbol "("
      if ← takesSymbol ")" then return negatedIf isNegated (among e [])
      if (← next).isOneOf selectingWords then refuse
      let items ← list fuel
      symbol ")"
      return negatedIf isNegated (among e items)
    else refuse

/-- An expression up to its first operator. -/
def operand : Nat → TokenReader Phrase
  | 0 => refuse
  | fuel + 1 => do
    let t ← next
    match t.lexeme with
    | .number =>
      skip
      return t.number
    | .blob bytes =>
      skip
      return .constant (.blob bytes)
    | .string s =>
      skip
      if (← next).isSymbol "." then column t s
      else return .constant (.text (Utf8.encode s.toList))
    | .parameter =>
      if t.isRegister then throw (.syntaxError t.text t.offset)
      skip
      return .apply (.parameter t.text) []
    | .name s =>
      skip
      named fuel t s
    | .symbol =>
      if t.isSymbol "(" then
        skip
        if (← next).isOneOf selectingWords then refuse
        let items ← list fuel
        symbol ")"
        match items with
        | [e] => return e
        | items => return .apply .tuple items
      else
        match signs.lookup t.text with
        | some o =>
          skip
          return .unary o (← expression fuel Level.sign.number)
        | none => refuse
    | .word => opening fuel t
    | .unknown | .finish => refuse

/-- An expression that begins with a word. -/
def opening : Nat → Token → TokenReader Phrase
  | 0, _ => refuse
  | fuel + 1, t => do
    if t.isWord "null" || t.isOneOf momentWords then
      skip
      return .constant .null
    else if t.isWord "not" then
      skip
      return .unary .not (← expression fuel Level.negation.number)
    else if t.isWord "case" then
      skip
      if (← next).isWord "when" then branches fuel none
      else
        let e ← expression fuel 1
        branches fuel (some e)
    else if t.isWord "cast" then
      skip
      symbol "("
      let e ← expression fuel 1
      word "as"
      let words ← typeWords fuel
      symbol ")"
      return .apply (.cast (affinityOfType words)) [e]
    else if t.isOneOf ["exists", "raise"] then
      skip
      symbol "("
      refuse
    else if t.isOneOf reservedWords then refuse
    else
      skip
      named fuel t t.text

/-- A call or a column, after its first name. -/
def named : Nat → Token → String → TokenReader Phrase
  | 0, _, _ => refuse
  | fuel + 1, t, first => do
    if ← takesSymbol "(" then
      if ← takesSymbol "*" then
        symbol ")"
        return ← call t first []
      discard (takes (·.isOneOf ["distinct", "all"]))
      if ← takesSymbol ")" then return ← call t first []
      let args ← list fuel
      symbol ")"
      call t first args
    else column t first

/-- The branches of a choice, each tested by itself or compared with an expression. -/
def branches : Nat → Option Phrase → TokenReader Phrase
  | 0, _ => refuse
  | fuel + 1, base => do
    word "when"
    let test ← expression fuel 1
    word "then"
    let e ← expression fuel 1
    let test := base.elim test fun b => .binary (.compare .eq) b test
    if (← next).isWord "when" then
      return .apply .choose [test, e, ← branches fuel base]
    else
      let otherwise ← if ← takesWord "else" then expression fuel 1 else pure (.constant .null)
      word "end"
      return .apply .choose [test, e, otherwise]

end

/-- An expression. No level of it takes more than four steps for a token, and there is a limit on
how deep it is. -/
def phrase : TokenReader Phrase := do
  let e ← expression (4 * (← get).length + 4) 1
  if Refusal.depthLimit < e.depth then throw .tooDeep
  return e

end TokenReader

end Statement
end VirtualTables
