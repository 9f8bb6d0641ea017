import VirtualTables.Binary.Basic

/-!
# The shortest decimal that reads back

Every finite number of a binary format has an interval of reals that round to it, and a decimal
*reads back* as the number when it lies in that interval. This module finds the decimal with the
fewest digits that reads back, and among those of that length the one nearest to the number.

The search walks the decimal grids `10 ^ p` from the coarsest that can matter to finer ones. On
each grid only the two points next to the number can be the nearest, and if any point of the grid
lies in the interval then one of these two does.
-/

namespace VirtualTables

/-- The decimal number `coefficient * 10 ^ exponent`. -/
structure Decimal where
  coefficient : Nat
  exponent : Int
  deriving DecidableEq, Repr

/-- Which of two decimals to take when the number lies halfway between them. -/
inductive TieRule where
  /-- The larger one. -/
  | up
  /-- The one whose last digit is even. -/
  | even
  deriving DecidableEq, Repr

namespace Decimal

/-- The order of `a * 2 ^ e` and `d * 10 ^ p`. -/
def compareScaled (a : Nat) (e : Int) (d : Nat) (p : Int) : Ordering :=
  compare (a * 2 ^ e.toNat * 10 ^ (-p).toNat) (d * 10 ^ p.toNat * 2 ^ (-e).toNat)

/-- A number with the ends of the interval that rounds to it, all three counted in units of
`2 ^ exponent`. The ends belong to the interval exactly when `closed` holds. -/
structure Interval where
  low : Nat
  middle : Nat
  high : Nat
  exponent : Int
  closed : Bool
  deriving DecidableEq, Repr

/-- The interval of the number `m * 2 ^ e` of the format `k`. Both neighbours are one unit in the
last place away, except that the one below the smallest significand with a leading bit is half as
far; a real halfway to a neighbour rounds to the even significand of the two. -/
def Interval.ofNumber (k : FloatKind) (m : Nat) (e : Int) : Interval where
  low := if m = 2 ^ k.fractionBits ∧ k.minExponent < e then 4 * m - 1 else 4 * m - 2
  middle := 4 * m
  high := 4 * m + 2
  exponent := e - 2
  closed := m % 2 = 0

/-- Whether the decimal `d * 10 ^ p` lies in the interval. -/
def Interval.holds (i : Interval) (d : Nat) (p : Int) : Bool :=
  match compareScaled i.low i.exponent d p, compareScaled i.high i.exponent d p with
  | .lt, .gt => true
  | .eq, _ | _, .eq => i.closed
  | _, _ => false

/-- The better of the two points `d * 10 ^ p` and `(d + 1) * 10 ^ p` around the middle, if one of
them lies in the interval. -/
def Interval.nearestOnGrid (i : Interval) (tie : TieRule) (p : Int) : Option Decimal :=
  let d := i.middle * 2 ^ i.exponent.toNat * 10 ^ (-p).toNat /
    (10 ^ p.toNat * 2 ^ (-i.exponent).toNat)
  match i.holds d p, i.holds (d + 1) p with
  | true, false => some ⟨d, p⟩
  | false, true => some ⟨d + 1, p⟩
  | false, false => none
  | true, true =>
    -- the side of the halfway point that the middle lies on
    match compareScaled (2 * i.middle) i.exponent (2 * d + 1) p with
    | .lt => some ⟨d, p⟩
    | .gt => some ⟨d + 1, p⟩
    | .eq => if tie = .even ∧ d % 2 = 0 then some ⟨d, p⟩ else some ⟨d + 1, p⟩

/-- The shortest decimal that reads back as the number `m * 2 ^ e` of the format `k`, which is not
zero. The first grid lies above the number; seventeen digits below its leading digit some point
reads back, so the search never runs out. -/
def shortest (k : FloatKind) (tie : TieRule) (m : Nat) (e : Int) : Decimal :=
  let i := Interval.ofNumber k m e
  let top : Int := (m.log2 + e) * 30103 / 100000 + 2
  ((List.range 21).findSome? fun (n : Nat) => i.nearestOnGrid tie (top - n)).getD ⟨0, 0⟩

end Decimal

end VirtualTables
