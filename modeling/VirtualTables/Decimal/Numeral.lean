/-!
# Written numbers

A numeral is a number as it stands in a text: its sign, the digits before and after the point, and
the exponent. Writing one is putting its parts together; what number it stands for depends on the
format that reads it.
-/

namespace VirtualTables

/-- The digits of a natural number, most significant first. -/
def digits (n : Nat) : List Char :=
  Nat.toDigits 10 n

/-- The text of an integer: its digits, after a minus sign when it is below zero. -/
def integerText (n : Int) : List Char :=
  if n < 0 then '-' :: digits n.natAbs else digits n.natAbs

/-- The natural number that digits stand for. -/
def ofDigits (ds : List Char) : Nat :=
  Nat.ofDigitChars 10 ds 0

/-- The sign of a written exponent. -/
inductive ExponentSign where
  | none
  | plus
  | minus
  deriving DecidableEq, Repr

/-- The text of a sign. -/
def ExponentSign.text : ExponentSign → List Char
  | none => []
  | plus => ['+']
  | minus => ['-']

/-- A written exponent: a sign and digits. -/
structure Exponent where
  sign : ExponentSign
  digits : List Char
  deriving DecidableEq, Repr

/-- The number an exponent stands for. -/
def Exponent.value (e : Exponent) : Int :=
  if e.sign = .minus then -(ofDigits e.digits : Int) else ofDigits e.digits

/-- A number as it is written. Without a fraction there is no point. -/
structure Numeral where
  negative : Bool
  whole : List Char
  fraction : List Char
  exponent : Option Exponent
  deriving DecidableEq, Repr

namespace Numeral

/-- A numeral as text. -/
def text (n : Numeral) : List Char :=
  (if n.negative then ['-'] else []) ++ n.whole ++
    (if n.fraction = [] then [] else '.' :: n.fraction) ++
    match n.exponent with
    | none => []
    | some e => 'e' :: (e.sign.text ++ e.digits)

/-- The numeral of an integer. -/
def ofInt (n : Int) : Numeral where
  negative := n < 0
  whole := digits n.natAbs
  fraction := []
  exponent := none

/-- The integer a numeral stands for: it has neither fraction nor exponent. Zero with a minus sign
is not an integer. -/
def toInteger? (n : Numeral) : Option Int :=
  let magnitude := ofDigits n.whole
  if n.fraction = [] ∧ n.exponent = none ∧ ¬(n.negative ∧ magnitude = 0) then
    some (if n.negative then -(magnitude : Int) else magnitude)
  else
    none

end Numeral

end VirtualTables
