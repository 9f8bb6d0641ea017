import VirtualTables.Decimal.Layout
import VirtualTables.Engine.Value

/-!
# Engine values as text

An engine matches patterns against the text of a value. A floating point number is written with at
most fifteen digits and always with a point; very large and very small ones with an exponent of at
least two digits.
-/

namespace VirtualTables
namespace EngineValue

/-- The first fifteen digits of the number `m * 2 ^ e`, rounded, without zeros at the end, and its
point. -/
def significantDigits (m : Nat) (e : Int) : List Char × Int :=
  let d := Decimal.shortest .float8 .up m e
  let point : Int := (digits d.coefficient).length + d.exponent
  let scale : Int := 15 - point
  let num := m * 2 ^ e.toNat * 10 ^ scale.toNat
  let den := 2 ^ (-e).toNat * 10 ^ (-scale).toNat
  let ds := digits ((2 * num + den) / (2 * den))
  ((ds.reverse.dropWhile (· = '0')).reverse, if ds.length = 16 then point + 1 else point)

/-- Engines write numbers without an exponent from `0.0001` to below `10 ^ 15`. -/
def realLayout : Layout where
  leastPoint := some (-3)
  greatestPoint := some 15
  keepsPoint := true
  plusSign := .plus
  tie := .up

/-- A numeral with an exponent, with a digit after the point and two digits in the exponent. -/
def widen (n : Numeral) : Numeral :=
  { n with
    fraction := if n.fraction = [] then ['0'] else n.fraction
    exponent := n.exponent.map fun e =>
      { e with digits := List.replicate (2 - e.digits.length) '0' ++ e.digits } }

/-- The text of a floating point number. Zero has no sign. -/
def realText : Reading → List Char
  | .nan => []
  | .infinite negative => if negative then ['-', 'I', 'n', 'f'] else ['I', 'n', 'f']
  | .finite negative m e =>
    if m = 0 then ['0', '.', '0']
    else
      let (ds, point) := significantDigits m e
      if realLayout.isPositional point then (realLayout.positional negative ds point).text
      else (widen (realLayout.scientific negative ds point)).text

/-- The characters that a pattern is matched against: those of the text of a value up to the first
NUL. Null has no text. -/
def characters? : EngineValue → Option (List Char)
  | null => none
  | integer n => some (integerText n.val)
  | real x => some (realText x.reading)
  | text b | blob b => some ((Utf8.decodeLossy b).takeWhile (· ≠ '\x00'))

end EngineValue
end VirtualTables
