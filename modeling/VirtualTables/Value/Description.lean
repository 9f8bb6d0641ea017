import VirtualTables.Text.Quoted
import VirtualTables.Value.Text

/-!
# Values in descriptions

A description shows a value together with its type: the name of the type, and between parentheses
the content, text between double quotes and bytes as numbers. Numbers with a fraction keep their
point, and very large and very small ones are written with an exponent; statements write them in the
same way.
-/

namespace VirtualTables
namespace Value

/-- Floating point numbers in descriptions and statements are written without an exponent from
`0.0001` to below `10 ^ 16`, and with their point. -/
def describedLayout : Layout where
  leastPoint := some (-3)
  greatestPoint := some 16
  keepsPoint := true
  plusSign := .none
  tie := .up

/-- A floating point number in a description. -/
def describeFloat (k : FloatKind) : Reading → String
  | .nan => "NaN"
  | .infinite negative => if negative then "-inf" else "inf"
  | .finite negative m e => String.ofList (describedLayout.numeral k negative m e).text

/-- A value in a description. -/
def describe (v : Value) : String :=
  let content :=
    match v with
    | undefined => ""
    | boolean b => if b then "(true)" else "(false)"
    | float k x => "(" ++ describeFloat k x.reading ++ ")"
    | integer _ n => "(" ++ String.ofList (integerText n.val) ++ ")"
    | utf8 s => "(" ++ Quoted.quote s ++ ")"
    | blob b =>
      "([" ++ ", ".intercalate (b.map fun byte => String.ofList (digits byte.toNat)) ++ "])"
  v.type.name ++ content

end Value
end VirtualTables
