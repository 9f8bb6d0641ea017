import VirtualTables.Decimal.Reader
import VirtualTables.Engine.Text
import VirtualTables.Text.Blank

/-!
# Engine values as numbers

An engine takes every value for a number where one is needed. A text or bytes stand for the number
that they begin with, and for zero if they begin with none; a number that is written without a point
and an exponent is an integer if it is not too large.
-/

namespace VirtualTables
namespace EngineValue

/-- An integer, or the nearest floating point number if it is too large. -/
def ofInt (n : Int) : EngineValue :=
  match Ranged.ofInt? .int8 n with
  | some n => integer n
  | none => real (.ofInt .float8 n)

/-- The exponent that a text starts with, if there is one, and what follows it. -/
def exponentIn (text : List Char) : Option Int × List Char :=
  match text with
  | e :: rest =>
    let (negative, afterSign) := splitSign rest
    let (ds, after) := afterSign.span Char.isDigit
    if (e = 'e' ∨ e = 'E') ∧ ds ≠ [] then
      (some (if negative then -(ofDigits ds : Int) else ofDigits ds), after)
    else (none, text)
  | [] => (none, [])

/-- The number that a text begins with, and whether nothing but blanks follows it. -/
def numberIn (text : List Char) : EngineValue × Bool :=
  let (negative, rest) := splitSign (text.dropWhile isAsciiBlank)
  let (whole, rest) := rest.span Char.isDigit
  let (fraction, afterPoint) :=
    match rest with
    | '.' :: r => r.span Char.isDigit
    | _ => ([], rest)
  if whole ++ fraction = [] then (integer (.wrap .int8 0), false)
  else
    let (exponent, after) := exponentIn afterPoint
    let isInteger := exponent.isNone && afterPoint.length = rest.length
    let n := ofDigits (whole ++ fraction)
    let value :=
      if isInteger then ofInt (if negative then -(n : Int) else n)
      else real (.ofDecimal .float8 negative n (exponent.getD 0 - fraction.length))
    (value, after.all isAsciiBlank)

/-- Bytes as characters, one for each, so that numbers can be read. -/
def characterCodes (bytes : List UInt8) : List Char :=
  bytes.map fun b => Char.ofNat b.toNat

/-- The number that a whole text is, if it is one. -/
def numberOfText? (bytes : List UInt8) : Option EngineValue :=
  match numberIn (characterCodes bytes) with
  | (value, true) => some value
  | (_, false) => none

/-- The number that a value stands for; null stands for none. -/
def number : EngineValue → EngineValue
  | text b | blob b => (numberIn (characterCodes b)).1
  | v => v

/-- The floating point number that a value stands for, if it is not null. -/
def float? (v : EngineValue) : Option (Binary .float8) :=
  match v.number with
  | integer n => some (.ofInt .float8 n.val)
  | real x => some x
  | _ => none

/-- The integer that a value stands for, if it is not null: that before the point, or the nearest
one that is not too large. In a text it ends before a point or an exponent. -/
def integer? : EngineValue → Option (Ranged .int8)
  | null => none
  | integer n => some n
  | real x =>
    match x.reading with
    | .infinite negative => some (.clamp .int8 (if negative then -2 ^ 63 else 2 ^ 63))
    | r => some (.clamp .int8 (r.truncate?.getD 0))
  | text b | blob b =>
    let (negative, rest) := splitSign ((characterCodes b).dropWhile isAsciiBlank)
    let n : Int := ofDigits (rest.takeWhile Char.isDigit)
    some (.clamp .int8 (if negative then -n else n))

/-- Whether a value counts as true; null counts as neither. -/
def isTrue? (v : EngineValue) : Option Bool :=
  match v with
  | integer n => some (n.val ≠ 0)
  | v => v.float?.map fun x => !x.isZero

/-- The value of a truth value; unknown is null. -/
def ofTruth : Option Bool → EngineValue
  | none => null
  | some b => integer (.wrap .int8 b.toNat)

/-- The text of a value as bytes. Null has no text. -/
def textBytes? : EngineValue → Option (List UInt8)
  | text b | blob b => some b
  | v => v.characters?.map Utf8.encode

end EngineValue
end VirtualTables
