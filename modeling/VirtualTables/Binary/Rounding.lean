import VirtualTables.Binary.Basic

/-!
# Rounding to a binary floating point number

Every result that a format cannot hold is rounded to the nearest number of the format, and a value
halfway between two of them goes to the one whose significand is even. The work is done once, on a
quotient of two natural numbers (`Binary.ofRatio`); integers, scaled numbers, other formats and
products are quotients of this kind.
-/

namespace VirtualTables

/-- The natural number nearest to `num / den`; a value halfway between two goes to the even one. -/
def roundHalfEven (num den : Nat) : Nat :=
  let q := num / den
  let r := num % den
  if den < 2 * r ∨ (2 * r = den ∧ q % 2 = 1) then q + 1 else q

namespace Binary

/-- The exponent `e` at which `num / den` has its leading bit in the place that the significand of
a normal number of format `k` starts with: `2 ^ fractionBits ≤ num / den / 2 ^ e`, and less than
twice that. -/
def leadingExponent (k : FloatKind) (num den : Nat) : Int :=
  let e : Int := (num.log2 : Int) - den.log2 - k.fractionBits
  if num * 2 ^ (-e).toNat < den * 2 ^ e.toNat * 2 ^ k.fractionBits then e - 1 else e

/-- The number of format `k` nearest to `± num / den`. A magnitude that rounds beyond the largest
number becomes infinite. -/
def ofRatio (k : FloatKind) (negative : Bool) (num den : Nat) : Binary k :=
  if num = 0 then
    zero k negative
  else
    let e := max (leadingExponent k num den) k.minExponent
    let significand := roundHalfEven (num * 2 ^ (-e).toNat) (den * 2 ^ e.toNat)
    let magnitude := (e - k.minExponent).toNat * 2 ^ k.fractionBits + significand
    if k.topExponent * 2 ^ k.fractionBits ≤ magnitude then infinity k negative
    else ofMagnitude k negative magnitude

/-- The number of format `k` nearest to `± m * 2 ^ e`. -/
def ofScaled (k : FloatKind) (negative : Bool) (m : Nat) (e : Int) : Binary k :=
  ofRatio k negative (m * 2 ^ e.toNat) (2 ^ (-e).toNat)

/-- The number of format `k` nearest to an integer. -/
def ofInt (k : FloatKind) (n : Int) : Binary k :=
  ofRatio k (n < 0) n.natAbs 1

/-- The number of format `k` that a reading of another format rounds to. -/
def ofReading (k : FloatKind) : Reading → Binary k
  | .nan => nan k
  | .infinite negative => infinity k negative
  | .finite negative m e => ofScaled k negative m e

/-- The number in another format, rounded where that format is narrower. -/
def convert {j : FloatKind} (k : FloatKind) (x : Binary j) : Binary k :=
  ofReading k x.reading

variable {k : FloatKind}

/-- The sum, rounded once. Numbers that cancel give the zero without a sign. -/
def add (x y : Binary k) : Binary k :=
  match x.reading, y.reading with
  | .nan, _ | _, .nan => nan k
  | .infinite s, .infinite t => if s = t then infinity k s else nan k
  | .infinite s, .finite .. | .finite .., .infinite s => infinity k s
  | .finite s m e, .finite t n f =>
    let low := min e f
    let p : Int := m * 2 ^ (e - low).toNat
    let q : Int := n * 2 ^ (f - low).toNat
    let sum := (if s then -p else p) + (if t then -q else q)
    if sum = 0 then zero k (s && t) else ofScaled k (sum < 0) sum.natAbs low

/-- The product, rounded once. -/
def mul (x y : Binary k) : Binary k :=
  match x.reading, y.reading with
  | .nan, _ | _, .nan => nan k
  | .infinite s, .infinite t => infinity k (s != t)
  | .infinite s, .finite t n _ => if n = 0 then nan k else infinity k (s != t)
  | .finite s m _, .infinite t => if m = 0 then nan k else infinity k (s != t)
  | .finite s m e, .finite t n f => ofScaled k (s != t) (m * n) (e + f)

/-- The quotient, rounded once. Division of a number other than zero by zero is infinite. -/
def div (x y : Binary k) : Binary k :=
  match x.reading, y.reading with
  | .nan, _ | _, .nan => nan k
  | .infinite _, .infinite _ => nan k
  | .infinite s, .finite t _ _ => infinity k (s != t)
  | .finite s _ _, .infinite t => zero k (s != t)
  | .finite s m e, .finite t n f =>
    if n = 0 then
      if m = 0 then nan k else infinity k (s != t)
    else
      ofRatio k (s != t) (m * 2 ^ (e - f).toNat) (n * 2 ^ (f - e).toNat)

/-- The number with its sign turned. -/
def neg (x : Binary k) : Binary k :=
  match x.reading with
  | .nan => x
  | .infinite s => infinity k !s
  | .finite s m e => ofScaled k (!s) m e

end Binary

end VirtualTables
