import VirtualTables.Binary.Rounding
import VirtualTables.Decimal.Layout
import VirtualTables.Decimal.Reader
import VirtualTables.Json.Basic

/-!
# Floating point numbers in JSON

A finite number is written with the fewest digits that read back, without an exponent while the
point stays near the digits, and always with a point or an exponent so that it cannot be taken for
an integer. What is not finite is written as null.

Reading is faster than it is exact: the digits are gathered in a 64-bit significand, digits that no
longer fit are dropped, and the significand is scaled by one rounded power of ten. A short numeral
is therefore read exactly and a long one only nearly so.
-/

namespace VirtualTables
namespace Json

/-- Numbers near one are written without an exponent; the narrower format changes to an exponent at
smaller numbers. -/
def floatLayout (k : FloatKind) : Layout where
  leastPoint := some (if k = .float4 then -5 else -4)
  greatestPoint := some (if k = .float4 then 13 else 16)
  keepsPoint := true
  plusSign := .plus
  tie := .even

/-- The JSON of a floating point number. -/
def float {k : FloatKind} (x : Binary k) : Json :=
  match x.reading with
  | .finite negative m e => .number ((floatLayout k).numeral k negative m e)
  | _ => .null

/-- Appends digits to a significand while it stays below `2 ^ 64`; the result is the significand
and the number of digits that did not fit. -/
def gather : Nat → List Char → Nat × Nat
  | significand, [] => (significand, 0)
  | significand, d :: ds =>
    let next := significand * 10 + (d.toNat - '0'.toNat)
    if next < 2 ^ 64 then gather next ds else (significand, ds.length + 1)

/-- A number times a power of ten, unless it leaves the range of the format. Powers of ten beyond
the range are divided by in steps, the result of each step rounded. -/
def scale : Nat → Binary .float8 → Int → Option (Binary .float8)
  | 0, x, _ => some x
  | fuel + 1, x, e =>
    if e.natAbs ≤ 308 then
      let power := Binary.ofDecimal .float8 false 1 e.natAbs
      if 0 ≤ e then
        let y := x.mul power
        if y.truncate?.isSome then some y else none
      else some (x.div power)
    else if x.isZero then some x
    else if 0 ≤ e then none
    else scale fuel (x.div (.ofDecimal .float8 false 1 308)) (e + 308)

/-- The 8-byte floating point number a numeral is read as, unless it is out of range. -/
def readFloat? (n : Numeral) : Option (Binary .float8) :=
  let (whole, dropped) := gather 0 n.whole
  let (significand, skipped) := gather whole n.fraction
  let shift : Int := dropped - ((n.fraction.length : Int) - skipped)
  let magnitude : Option (Binary .float8) :=
    match n.exponent with
    | none => scale 4 (.ofInt .float8 significand) shift
    | some e =>
      if ofDigits e.digits < 2 ^ 31 then
        let total := max (-2 ^ 31) (min (2 ^ 31 - 1) (shift + e.value))
        scale 4 (.ofInt .float8 significand) total
      else if significand ≠ 0 ∧ e.sign ≠ .minus then none
      else some (.zero .float8 false)
  magnitude.map fun x => if n.negative then x.neg else x

/-- The floating point number of the format `k` that a numeral is read as. An integer of at most
8 bytes is rounded to the format directly; any other numeral is read in the wider format first. -/
def toBinary? (k : FloatKind) (n : Numeral) : Option (Binary k) :=
  match n.toInteger? with
  | some i =>
    if -2 ^ 63 ≤ i ∧ i < 2 ^ 64 then some (.ofInt k i) else (readFloat? n).map (·.convert k)
  | none => (readFloat? n).map (·.convert k)

end Json
end VirtualTables
