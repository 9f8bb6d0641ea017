import VirtualTables.Decimal.Numeral
import VirtualTables.Text.Hex

/-!
# The tokens of a JSON text

A JSON text is a sequence of tokens with white space around them. Splitting a text into tokens
knows nothing of how values are nested, and writing a token knows nothing of what stands around it;
so a value written in different layouts is the same sequence of tokens.

In a string literal a quote, a backslash and the control characters below a space must be escaped;
everything else may stand as it is. A character beyond `U+FFFF` may be escaped as two surrogates.
-/

namespace VirtualTables

/-- A token of a JSON text. The text of a string literal is missing when its escapes leave a
surrogate unpaired. -/
inductive Token where
  | null
  | bool (b : Bool)
  | number (n : Numeral)
  | string (text : Option String)
  | openArray
  | closeArray
  | openObject
  | closeObject
  | comma
  | colon
  deriving DecidableEq, Repr

namespace Token

/-! ## Writing -/

/-- A character inside a string literal. -/
def escape (c : Char) : List Char :=
  if c = '"' then ['\\', '"']
  else if c = '\\' then ['\\', '\\']
  else if c = '\n' then ['\\', 'n']
  else if c = '\r' then ['\\', 'r']
  else if c = '\t' then ['\\', 't']
  else if c = '\x08' then ['\\', 'b']
  else if c = '\x0c' then ['\\', 'f']
  else if c.toNat < 0x20 then
    ['\\', 'u', '0', '0', Hex.digit (c.toNat / 16), Hex.digit (c.toNat % 16)]
  else [c]

/-- A string literal. One that stands for no text is written as an unpaired surrogate. -/
def quote : Option String → List Char
  | some s => '"' :: (s.toList.flatMap escape ++ ['"'])
  | none => ['"', '\\', 'u', 'd', '8', '0', '0', '"']

/-- A token as text. -/
def text : Token → List Char
  | null => ['n', 'u', 'l', 'l']
  | bool true => ['t', 'r', 'u', 'e']
  | bool false => ['f', 'a', 'l', 's', 'e']
  | number n => n.text
  | string s => quote s
  | openArray => ['[']
  | closeArray => [']']
  | openObject => ['{']
  | closeObject => ['}']
  | comma => [',']
  | colon => [':']

/-! ## Reading -/

/-- The white space that may stand around tokens. -/
def isSpace (c : Char) : Bool :=
  c = ' ' || c = '\n' || c = '\t' || c = '\r'

/-- The character that a short escape stands for. -/
def shortEscape? (c : Char) : Option Char :=
  if c = '"' then some '"'
  else if c = '\\' then some '\\'
  else if c = '/' then some '/'
  else if c = 'b' then some '\x08'
  else if c = 'f' then some '\x0c'
  else if c = 'n' then some '\n'
  else if c = 'r' then some '\r'
  else if c = 't' then some '\t'
  else none

/-- The codes in a string literal after its opening quote, and what follows the literal. -/
def readCodes : List Char → Option (List Nat × List Char)
  | [] => none
  | '"' :: rest => some ([], rest)
  | '\\' :: 'u' :: a :: b :: c :: d :: rest =>
    match Hex.read? [a, b, c, d] with
    | none => none
    | some code => (readCodes rest).map fun (codes, r) => (code :: codes, r)
  | '\\' :: e :: rest =>
    match shortEscape? e with
    | none => none
    | some c => (readCodes rest).map fun (codes, r) => (c.toNat :: codes, r)
  | c :: rest =>
    if c.toNat < 0x20 ∨ c = '\\' then none
    else (readCodes rest).map fun (codes, r) => (c.toNat :: codes, r)

/-- Whether a code is the first surrogate of a pair. -/
def isHighSurrogate (code : Nat) : Bool :=
  0xD800 ≤ code && code ≤ 0xDBFF

/-- Whether a code is the second surrogate of a pair. -/
def isLowSurrogate (code : Nat) : Bool :=
  0xDC00 ≤ code && code ≤ 0xDFFF

/-- The characters that codes stand for, unless a surrogate is unpaired. -/
def charsOfCodes : List Nat → Option (List Char)
  | [] => some []
  | high :: low :: rest =>
    if isHighSurrogate high then
      if isLowSurrogate low then
        (charsOfCodes rest).map
          (Char.ofNat (0x10000 + (high - 0xD800) * 0x400 + (low - 0xDC00)) :: ·)
      else none
    else if isLowSurrogate high then none
    else (charsOfCodes (low :: rest)).map (Char.ofNat high :: ·)
  | [code] =>
    if isHighSurrogate code || isLowSurrogate code then none else some [Char.ofNat code]

/-- A run of at least one digit, and what follows it. -/
def readDigits? (text : List Char) : Option (List Char × List Char) :=
  let ds := text.takeWhile Char.isDigit
  if ds = [] then none else some (ds, text.dropWhile Char.isDigit)

/-- The exponent of a numeral, if there is one, and what follows it. -/
def readExponent? : List Char → Option (Option Exponent × List Char)
  | mark :: rest =>
    if mark = 'e' ∨ mark = 'E' then
      let (sign, rest) :=
        match rest with
        | '+' :: r => (ExponentSign.plus, r)
        | '-' :: r => (ExponentSign.minus, r)
        | r => (ExponentSign.none, r)
      (readDigits? rest).map fun (ds, r) => (some ⟨sign, ds⟩, r)
    else some (none, mark :: rest)
  | [] => some (none, [])

/-- A numeral, and what follows it. More than one digit before the point may not start with a
zero, and a point needs a digit after it. -/
def readNumeral? (text : List Char) : Option (Numeral × List Char) :=
  let (negative, rest) :=
    match text with
    | '-' :: r => (true, r)
    | r => (false, r)
  match readDigits? rest with
  | none => none
  | some (whole, rest) =>
    if whole.head? = some '0' ∧ whole.length ≠ 1 then none
    else
      let afterPoint :=
        match rest with
        | '.' :: r => readDigits? r
        | r => some ([], r)
      match afterPoint with
      | none => none
      | some (fraction, rest) =>
        (readExponent? rest).map fun (exponent, r) => (⟨negative, whole, fraction, exponent⟩, r)

/-- The first token of a text that does not start with white space, and what follows it. -/
def read? : List Char → Option (Token × List Char)
  | '[' :: rest => some (openArray, rest)
  | ']' :: rest => some (closeArray, rest)
  | '{' :: rest => some (openObject, rest)
  | '}' :: rest => some (closeObject, rest)
  | ',' :: rest => some (comma, rest)
  | ':' :: rest => some (colon, rest)
  | '"' :: rest =>
    (readCodes rest).map fun (codes, r) => (string ((charsOfCodes codes).map String.ofList), r)
  | 'n' :: 'u' :: 'l' :: 'l' :: rest => some (null, rest)
  | 't' :: 'r' :: 'u' :: 'e' :: rest => some (bool true, rest)
  | 'f' :: 'a' :: 'l' :: 's' :: 'e' :: rest => some (bool false, rest)
  | text => (readNumeral? text).map fun (n, r) => (number n, r)

/-- The tokens of a text, found with at most `fuel` steps, each of which takes a character of white
space or a token. -/
def scanWithin : Nat → List Char → Option (List Token)
  | _, [] => some []
  | 0, _ => none
  | fuel + 1, c :: rest =>
    if isSpace c then scanWithin fuel rest
    else
      match read? (c :: rest) with
      | none => none
      | some (t, r) => (scanWithin fuel r).map (t :: ·)

/-- The tokens of a text. Every step takes at least one character, so the length of the text is
enough. -/
def scan (text : List Char) : Option (List Token) :=
  scanWithin text.length text

end Token

end VirtualTables
