import VirtualTables.Decimal.Numeral
import VirtualTables.Decimal.Shortest

/-!
# Written forms of floating point numbers

A written form of a number is its shortest decimal, laid out. The layouts differ in which numbers
are written with an exponent and in whether a whole number keeps its point; those choices are the
fields of a `Layout`, and each format that writes numbers has one `Layout` value.
-/

namespace VirtualTables

/-- The choices a format makes for writing floating point numbers. The *point* of a decimal is the
number of its digits before the point, so `0.01` has the point `-1` and `123.0` the point `3`. -/
structure Layout where
  /-- The least point written without an exponent, if there is one. -/
  leastPoint : Option Int
  /-- The greatest point written without an exponent, if there is one. -/
  greatestPoint : Option Int
  /-- Whether a whole number written without an exponent ends in `.0`. -/
  keepsPoint : Bool
  /-- The sign of an exponent that is not negative. -/
  plusSign : ExponentSign
  tie : TieRule
  deriving DecidableEq, Repr

namespace Layout

/-- Whether a decimal with this point is written without an exponent. -/
def isPositional (l : Layout) (point : Int) : Bool :=
  l.leastPoint.all (· ≤ point) && l.greatestPoint.all (point ≤ ·)

/-- Digits with the point put after the first `point` of them, zeros filling the gap. -/
def positional (l : Layout) (negative : Bool) (ds : List Char) (point : Int) : Numeral where
  negative := negative
  whole :=
    if point ≤ 0 then ['0']
    else ds.take point.toNat ++ List.replicate (point.toNat - ds.length) '0'
  fraction :=
    if point ≤ 0 then List.replicate (-point).toNat '0' ++ ds
    else if ds.length ≤ point.toNat then (if l.keepsPoint then ['0'] else [])
    else ds.drop point.toNat
  exponent := none

/-- Digits with the point after the first of them, and the exponent. -/
def scientific (l : Layout) (negative : Bool) (ds : List Char) (point : Int) : Numeral where
  negative := negative
  whole := ds.take 1
  fraction := ds.drop 1
  exponent := some
    { sign := if point ≤ 0 then .minus else l.plusSign
      digits := digits (point - 1).natAbs }

/-- The numeral of the finite number `± m * 2 ^ e` of the format `k`. Zero keeps its sign. -/
def numeral (l : Layout) (k : FloatKind) (negative : Bool) (m : Nat) (e : Int) : Numeral :=
  if m = 0 then
    l.positional negative ['0'] 1
  else
    let d := Decimal.shortest k l.tie m e
    let ds := digits d.coefficient
    let point := ds.length + d.exponent
    if l.isPositional point then l.positional negative ds point
    else l.scientific negative ds point

end Layout

end VirtualTables
