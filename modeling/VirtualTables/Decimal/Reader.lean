import VirtualTables.Binary.Rounding
import VirtualTables.Decimal.Numeral

/-!
# Reading numbers from text

A decimal integer is an optional sign and at least one digit. A decimal number may also have a
point, with a digit on at least one side of it, and an exponent with at least one digit; or it is
one of the words `inf`, `infinity` and `nan` in letters of either case. Digits are the ten ASCII
digits, and nothing may stand before or after the number.
-/

namespace VirtualTables

/-- A leading sign, and what follows it. -/
def splitSign : List Char → Bool × List Char
  | '-' :: rest => (true, rest)
  | '+' :: rest => (false, rest)
  | text => (false, text)

/-- A natural number: at least one digit and nothing else. -/
def readNat? (text : List Char) : Option Nat :=
  if text ≠ [] ∧ text.all Char.isDigit then some (ofDigits text) else none

/-- An integer: an optional sign, then a natural number. -/
def readInt? (text : List Char) : Option Int :=
  let (negative, rest) := splitSign text
  (readNat? rest).map fun n => if negative then -(n : Int) else n

/-- A decimal number without a sign, as the `c` and `e` of `c * 10 ^ e`. -/
def readDecimal? (text : List Char) : Option (Nat × Int) :=
  let whole := text.takeWhile Char.isDigit
  let afterWhole := text.dropWhile Char.isDigit
  let (fraction, rest) :=
    match afterWhole with
    | '.' :: r => (r.takeWhile Char.isDigit, r.dropWhile Char.isDigit)
    | _ => ([], afterWhole)
  if whole.isEmpty && fraction.isEmpty then
    none
  else
    let exponent : Option Int :=
      match rest with
      | [] => some 0
      | mark :: r => if mark = 'e' ∨ mark = 'E' then readInt? r else none
    exponent.map fun e =>
      (ofDigits (whole ++ fraction), e - fraction.length)

namespace Binary

/-- The number of the format `k` nearest to `± c * 10 ^ e`. An exponent beyond 400 on either side,
counted from the leading digit of `c`, is out of reach of both formats and settled at once. -/
def ofDecimal (k : FloatKind) (negative : Bool) (c : Nat) (e : Int) : Binary k :=
  if c = 0 then zero k negative
  else if 400 ≤ e then infinity k negative
  else if e + c.log2 + 400 ≤ 0 then zero k negative
  else ofRatio k negative (c * 10 ^ e.toNat) (10 ^ (-e).toNat)

/-- The number of the format `k` that a text stands for. -/
def read? (k : FloatKind) (text : List Char) : Option (Binary k) :=
  let (negative, rest) := splitSign text
  let word := rest.map Char.toLower
  if word = ['n', 'a', 'n'] then some (nan k)
  else if word = ['i', 'n', 'f'] ∨ word = ['i', 'n', 'f', 'i', 'n', 'i', 't', 'y'] then
    some (infinity k negative)
  else (readDecimal? rest).map fun (c, e) => ofDecimal k negative c e

end Binary

end VirtualTables
