/-!
# Binary floating point numbers as bit patterns

A floating point number is kept as the bit pattern of its interchange format, so that every
operation on it is exact arithmetic on integers and open to proof.

## What is here

* `FloatKind` — the two formats a value may have, of 4 and of 8 bytes.
* `Binary k` — a bit pattern of the format `k`.
* `Binary.reading` — what the pattern stands for: not a number, an infinity, or
  `± significand * 2 ^ exponent`.
* `Binary.truncate?`, `Binary.compare?`, `Binary.isZero` — the questions asked of a number.
-/

namespace VirtualTables

-- Powers of numbers are the built-in ones, also where there is a theory of monoids with its own.
attribute [instance (1100), default_instance 20000] instPowNat

/-- The floating point formats: 4 bytes and 8 bytes wide. -/
inductive FloatKind where
  | float4
  | float8
  deriving DecidableEq, Repr

namespace FloatKind

/-- Width of the exponent field. -/
def exponentBits : FloatKind → Nat
  | float4 => 8
  | float8 => 11

/-- Width of the fraction field. -/
def fractionBits : FloatKind → Nat
  | float4 => 23
  | float8 => 52

/-- Width of the whole pattern: sign, exponent and fraction. -/
def width (k : FloatKind) : Nat :=
  1 + k.exponentBits + k.fractionBits

/-- The exponent field that marks infinities and patterns that are not a number. -/
def topExponent (k : FloatKind) : Nat :=
  2 ^ k.exponentBits - 1

/-- The exponent of the last place of the smallest numbers. -/
def minExponent (k : FloatKind) : Int :=
  2 - 2 ^ (k.exponentBits - 1) - k.fractionBits

end FloatKind

/-- A floating point number of the format `k`, as its bit pattern. -/
structure Binary (k : FloatKind) where
  bits : BitVec k.width
  deriving DecidableEq, Repr

/-- What a bit pattern stands for. A finite pattern stands for
`± significand * 2 ^ exponent`. -/
inductive Reading where
  | nan
  | infinite (negative : Bool)
  | finite (negative : Bool) (significand : Nat) (exponent : Int)
  deriving DecidableEq, Repr

namespace Binary

variable {k : FloatKind}

/-- The sign bit. -/
def negative (x : Binary k) : Bool :=
  x.bits.msb

/-- The exponent field. -/
def exponentField (x : Binary k) : Nat :=
  x.bits.toNat / 2 ^ k.fractionBits % 2 ^ k.exponentBits

/-- The fraction field. -/
def fractionField (x : Binary k) : Nat :=
  x.bits.toNat % 2 ^ k.fractionBits

/-- The meaning of the pattern. The exponent field zero holds the numbers without a leading bit;
they share their last place with the field one. -/
def reading (x : Binary k) : Reading :=
  if x.exponentField = k.topExponent then
    if x.fractionField = 0 then .infinite x.negative else .nan
  else if x.exponentField = 0 then
    .finite x.negative x.fractionField k.minExponent
  else
    .finite x.negative (2 ^ k.fractionBits + x.fractionField) (k.minExponent + x.exponentField - 1)

/-- The pattern with the given sign whose exponent and fraction fields together are `magnitude`. -/
def ofMagnitude (k : FloatKind) (negative : Bool) (magnitude : Nat) : Binary k :=
  ⟨BitVec.ofNat k.width ((if negative then 2 ^ (k.width - 1) else 0) + magnitude)⟩

/-- Zero, of either sign. -/
def zero (k : FloatKind) (negative : Bool) : Binary k :=
  ofMagnitude k negative 0

/-- The infinity of the given sign. -/
def infinity (k : FloatKind) (negative : Bool) : Binary k :=
  ofMagnitude k negative (k.topExponent * 2 ^ k.fractionBits)

/-- The one pattern used for a result that is not a number: quiet, positive, no payload. -/
def nan (k : FloatKind) : Binary k :=
  ofMagnitude k false (k.topExponent * 2 ^ k.fractionBits + 2 ^ (k.fractionBits - 1))

/-- Whether the pattern is not a number. -/
def isNaN (x : Binary k) : Bool :=
  x.reading = .nan

/-- Whether the number is zero, of either sign. -/
def isZero (x : Binary k) : Bool :=
  match x.reading with
  | .finite _ 0 _ => true
  | _ => false

end Binary

namespace Reading

/-- The integer nearest to a finite number on the side of zero. -/
def truncate? : Reading → Option Int
  | .finite negative m e =>
    let n : Nat := if 0 ≤ e then m * 2 ^ e.toNat else m / 2 ^ (-e).toNat
    some (if negative then -(n : Int) else n)
  | _ => none

/-- Whether the number lies below zero. -/
def isBelowZero : Reading → Bool
  | .nan => false
  | .infinite negative => negative
  | .finite negative m _ => negative && m != 0

/-- The order of two numbers; `none` when either is not a number. Zeros of either sign are the
same number. -/
def compare? (a b : Reading) : Option Ordering :=
  match a, b with
  | .nan, _ | _, .nan => none
  | .infinite s, .infinite t => some (compare t.toNat s.toNat)
  | .infinite s, .finite .. => some (if s then .lt else .gt)
  | .finite .., .infinite t => some (if t then .gt else .lt)
  | .finite s m e, .finite t n f =>
    let low := min e f
    let p : Int := m * 2 ^ (e - low).toNat
    let q : Int := n * 2 ^ (f - low).toNat
    some (compare (if s then -p else p) (if t then -q else q))

end Reading

namespace Binary

variable {k : FloatKind}

/-- The integer nearest to the number on the side of zero; `none` for an infinity and for a
pattern that is not a number. -/
def truncate? (x : Binary k) : Option Int :=
  x.reading.truncate?

/-- Equality of numbers: zeros of either sign are equal, and a pattern that is not a number equals
nothing, itself included. -/
def equal (x y : Binary k) : Bool :=
  x.reading.compare? y.reading = some .eq

end Binary

end VirtualTables
