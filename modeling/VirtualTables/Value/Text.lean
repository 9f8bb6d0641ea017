import VirtualTables.Decimal.Layout
import VirtualTables.Text.Hex
import VirtualTables.Value.Basic

/-!
# The text of a value

The text of a value is what messages show and what a conversion to text gives. Numbers are written
in decimal and never with an exponent, bytes in hexadecimal after `0x`.
-/

namespace VirtualTables
namespace Value

/-- Floating point numbers in text are written without an exponent, however long that makes them,
and a whole number without a point. -/
def textLayout : Layout where
  leastPoint := none
  greatestPoint := none
  keepsPoint := false
  plusSign := .none
  tie := .up

/-- The text of a floating point number. -/
def floatText (k : FloatKind) : Reading → List Char
  | .nan => ['N', 'a', 'N']
  | .infinite negative => (if negative then ['-'] else []) ++ ['i', 'n', 'f']
  | .finite negative m e => (textLayout.numeral k negative m e).text

/-- The text of a value. -/
def text : Value → String
  | undefined => "undefined"
  | boolean b => if b then "true" else "false"
  | float k x => String.ofList (floatText k x.reading)
  | integer _ n => String.ofList (integerText n.val)
  | utf8 s => s
  | blob b => String.ofList ('0' :: 'x' :: Hex.bytes b)

end Value
end VirtualTables
