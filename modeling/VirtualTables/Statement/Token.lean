import VirtualTables.Statement.Refusal
import VirtualTables.Text.Blank
import VirtualTables.Text.Hex

/-!
# The tokens of a statement

A statement is split into tokens, with blanks and comments between them. A name may stand between
marks of several kinds and a text between quotes; a mark inside is written twice. What is no token
at all is kept as an unknown one, so that a reader meets it in its turn. A statement ends at the
first NUL.
-/

namespace VirtualTables
namespace Statement

/-- What a token is. -/
inductive Lexeme where
  /-- A keyword, or a name without marks. -/
  | word
  /-- A name between marks. -/
  | name (s : String)
  /-- A text between quotes. -/
  | string (s : String)
  | number
  | blob (bytes : List UInt8)
  | parameter
  | symbol
  /-- What is no token of the language. -/
  | unknown
  /-- The end of the text. -/
  | finish
  deriving DecidableEq, Repr

/-- A token: what it is, its text, the place where it starts, counted in bytes, and the blanks and
comments before it. -/
structure Token where
  lexeme : Lexeme
  text : String
  offset : Nat
  blanks : String
  deriving DecidableEq, Repr

/-! ## Pieces of a statement -/

/-- A token that a text starts with, or blanks and comments, for which there is no lexeme. -/
structure Piece where
  lexeme : Option Lexeme
  taken : List Char
  rest : List Char

/-- Whether a run of blanks can start with a character. A vertical tab only continues one, and a
mark of the byte order only starts one. -/
def isFirstSpace (c : Char) : Bool :=
  (isAsciiBlank c && c ≠ '\x0b') || c = '\ufeff'

/-- Whether a character can stand in a word. -/
def isWordChar (c : Char) : Bool :=
  c.isAlphanum || c = '_' || c = '$' || '\x80' ≤ c

/-- A piece whose first characters are known, and which goes on as long as a test holds. -/
def Piece.run (lexeme : Option Lexeme) (first : List Char) (test : Char → Bool)
    (rest : List Char) : Piece :=
  ⟨lexeme, first ++ rest.takeWhile test, rest.dropWhile test⟩

/-- A text up to the end of a comment, and what follows it. -/
def throughComment : List Char → List Char × List Char
  | [] => ([], [])
  | [c] => ([c], [])
  | c :: d :: rest =>
    if c = '*' ∧ d = '/' then ([c, d], rest)
    else
      let (taken, after) := throughComment (d :: rest)
      (c :: taken, after)

/-- A text up to a mark that is not written twice, without that mark, and what follows it. -/
def beforeMark? (mark : Char) : List Char → Option (List Char × List Char)
  | [] => none
  | [c] => if c = mark then some ([], []) else none
  | c :: d :: rest =>
    if c ≠ mark then (beforeMark? mark (d :: rest)).map fun (inside, after) => (c :: inside, after)
    else if d = mark then
      (beforeMark? mark rest).map fun (inside, after) => (c :: d :: inside, after)
    else some ([], d :: rest)

/-- A text with single marks where they are written twice. -/
def undoubled (mark : Char) : List Char → List Char
  | c :: d :: rest =>
    if c = mark ∧ d = mark then c :: undoubled mark rest else c :: undoubled mark (d :: rest)
  | text => text

/-- What starts with an opening mark, up to the closing one. -/
def markedPiece (opening closing : Char) (rest : List Char) : Piece :=
  match beforeMark? closing rest with
  | none => ⟨some .unknown, opening :: rest, []⟩
  | some (inside, after) =>
    let s := String.ofList (undoubled closing inside)
    ⟨some (if opening = '\'' then .string s else .name s), opening :: (inside ++ [closing]), after⟩

/-- A name between brackets, in which no bracket is written twice. -/
def bracketPiece (rest : List Char) : Piece :=
  match rest.dropWhile (· ≠ ']') with
  | [] => ⟨some .unknown, '[' :: rest, []⟩
  | close :: after =>
    let inside := rest.takeWhile (· ≠ ']')
    ⟨some (.name (String.ofList inside)), '[' :: (inside ++ [close]), after⟩

/-- Whether a character is a hexadecimal digit. -/
def isHexDigit (c : Char) : Bool :=
  (Hex.value? c).isSome

/-- Whether every line below in a text stands between two digits; `after` tells whether a digit is
just before the text. -/
def isSeparated (isDigit : Char → Bool) : Bool → List Char → Bool
  | _, [] => true
  | after, c :: rest =>
    if c = '_' then after && rest.head?.any isDigit && isSeparated isDigit false rest
    else isSeparated isDigit (isDigit c) rest

/-- A number with the digits of its kind. A character of a word right after it makes it unknown. -/
def numberPiece (isDigit : Char → Bool) (taken rest : List Char) : Piece :=
  let lexeme :=
    if rest.head?.any isWordChar || !isSeparated isDigit false taken then Lexeme.unknown
    else .number
  .run (some lexeme) taken isWordChar rest

/-- A run of digits and lines, and what follows it. -/
def digitRun (text : List Char) : List Char × List Char :=
  text.span fun c => c.isDigit || c = '_'

/-- The exponent that a text starts with, if any, and what follows it. -/
def exponentRun : List Char → List Char × List Char
  | e :: c :: rest =>
    if e ≠ 'e' ∧ e ≠ 'E' then ([], e :: c :: rest)
    else if c.isDigit then
      let (ds, after) := digitRun rest
      (e :: c :: ds, after)
    else if (c = '+' ∨ c = '-') ∧ rest.head?.any Char.isDigit then
      let (ds, after) := digitRun rest
      (e :: c :: ds, after)
    else ([], e :: c :: rest)
  | text => ([], text)

/-- The number that a text starts with, in decimal digits. -/
def decimalPiece (text : List Char) : Piece :=
  let (whole, rest) := digitRun text
  let (fraction, rest) :=
    match rest with
    | '.' :: r =>
      let (ds, after) := digitRun r
      ('.' :: ds, after)
    | _ => ([], rest)
  let (exponent, rest) := exponentRun rest
  numberPiece Char.isDigit (whole ++ fraction ++ exponent) rest

/-- The number that a text starts with. -/
def numericPiece : List Char → Piece
  | '0' :: x :: d :: rest =>
    if (x = 'x' ∨ x = 'X') ∧ isHexDigit d then
      let (ds, after) := (d :: rest).span fun c => isHexDigit c || c = '_'
      numberPiece isHexDigit ('0' :: x :: ds) after
    else decimalPiece ('0' :: x :: d :: rest)
  | text => decimalPiece text

/-- Bytes, after the letter and the opening quote. -/
def blobPiece (letter : Char) (rest : List Char) : Piece :=
  let (ds, after) := rest.span isHexDigit
  match Hex.readBytes? ds, after with
  | some bytes, '\'' :: after => ⟨some (.blob bytes), letter :: '\'' :: (ds ++ ['\'']), after⟩
  | _, _ =>
    let (others, after) := after.span (· ≠ '\'')
    ⟨some .unknown, letter :: '\'' :: (ds ++ others ++ after.take 1), after.drop 1⟩

/-- The name of a parameter, after characters that were taken already. A name may end with
something between brackets, without blanks. -/
def parameterPiece (isNamed : Bool) : List Char → Piece
  | [] => ⟨some (if isNamed then .parameter else .unknown), [], []⟩
  | [c] =>
    if isWordChar c then ⟨some .parameter, [c], []⟩
    else if c = '(' && isNamed then ⟨some .unknown, [c], []⟩
    else ⟨some (if isNamed then .parameter else .unknown), [], [c]⟩
  | c :: d :: rest =>
    if isWordChar c then
      let p := parameterPiece true (d :: rest)
      { p with taken := c :: p.taken }
    else if c = ':' ∧ d = ':' then
      let p := parameterPiece isNamed rest
      { p with taken := c :: d :: p.taken }
    else if c = '(' && isNamed then
      let (inside, after) := (d :: rest).span fun e => !isAsciiBlank e && e ≠ ')'
      match after with
      | ')' :: after => ⟨some .parameter, c :: (inside ++ [')']), after⟩
      | _ => ⟨some .unknown, c :: inside, after⟩
    else ⟨some (if isNamed then .parameter else .unknown), [], c :: d :: rest⟩

/-- The symbols, longer ones before those that they start with. -/
def symbols : List String :=
  ["->>", "->", "==", "<=", "<>", "<<", ">=", ">>", "!=", "||", "=", "<", ">", "|", "-", "+", "*",
    "/", "%", "&", "~", "(", ")", ",", ";", "."]

/-- The symbol that a text starts with, or the character that is none. -/
def symbolPiece (c : Char) (rest : List Char) : Piece :=
  match symbols.find? fun s => s.toList.isPrefixOf (c :: rest) with
  | some s => ⟨some .symbol, s.toList, (c :: rest).drop s.length⟩
  | none => ⟨some .unknown, [c], rest⟩

/-- What a text starts with, from its first character on. -/
def piece (c : Char) (rest : List Char) : Piece :=
  let next := rest.head?
  if isFirstSpace c then .run none [c] isAsciiBlank rest
  else if c = '-' && next = some '-' then .run none [c] (· ≠ '\n') rest
  else if c = '/' && next = some '*' && !(rest.drop 1).isEmpty then
    let (taken, after) := throughComment (rest.drop 1)
    ⟨none, c :: '*' :: taken, after⟩
  else if c = '\'' || c = '"' || c = '\x60' then markedPiece c c rest
  else if c = '[' then bracketPiece rest
  else if c = '?' then .run (some .parameter) [c] Char.isDigit rest
  else if c = '$' || c = '@' || c = ':' || c = '#' then
    let p := parameterPiece false rest
    { p with taken := c :: p.taken }
  else if c.isDigit || (c = '.' && next.any Char.isDigit) then numericPiece (c :: rest)
  else if (c = 'x' || c = 'X') && next = some '\'' then blobPiece c (rest.drop 1)
  else if isWordChar c then .run (some .word) [c] isWordChar rest
  else symbolPiece c rest

/-! ## Splitting a statement -/

/-- The number of bytes of a text. -/
def byteCount (text : List Char) : Nat :=
  text.foldl (fun n c => n + c.utf8Size) 0

/-- The tokens of a text that starts at a place after some blanks, with the end of the text as the
last one. They are found in at most the given number of steps. -/
def tokensFrom : Nat → Nat → List Char → List Char → List Token
  | 0, offset, blanks, _ | _, offset, blanks, [] =>
    [⟨.finish, "", offset, String.ofList blanks⟩]
  | limit + 1, offset, blanks, c :: rest =>
    let p := piece c rest
    let after := offset + byteCount p.taken
    match p.lexeme with
    | none => tokensFrom limit after (blanks ++ p.taken) p.rest
    | some lexeme =>
      ⟨lexeme, String.ofList p.taken, offset, String.ofList blanks⟩ ::
        tokensFrom limit after [] p.rest

/-- The tokens of a text up to its first NUL. Every step takes a character at least. -/
def tokens (text : List Char) : List Token :=
  tokensFrom text.length 0 [] (text.takeWhile (· ≠ '\x00'))

namespace Token

/-- Whether a token is a certain symbol. -/
def isSymbol (t : Token) (symbol : String) : Bool :=
  t.lexeme = .symbol && t.text = symbol

/-- Whether a token is a certain word, in letters of either case. -/
def isWord (t : Token) (word : String) : Bool :=
  t.lexeme = .word && t.text.toList.map Char.toLower = word.toList

/-- The refusal of a token that does not fit. -/
def refusal (t : Token) : Refusal :=
  match t.lexeme with
  | .finish => .incomplete
  | .unknown => .unknownToken t.text t.offset
  | _ => .syntaxError t.text t.offset

end Token

end Statement
end VirtualTables
