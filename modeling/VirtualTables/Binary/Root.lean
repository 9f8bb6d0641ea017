import VirtualTables.Binary.Rounding

/-!
# Square roots

The square root of a binary floating point number is computed on its significand, with 64 bits more
than any format keeps, and rounded once. One more bit says whether the root is exact, so that a root
just above the middle of two numbers is not taken for the middle.
-/

namespace VirtualTables

/-- The natural number whose square is the greatest one up to `n`, by Newton's iteration from
above. -/
def natRoot (n : Nat) : Nat :=
  descend (n.log2 + 2) (2 ^ (n.log2 / 2 + 1))
where
  /-- Improves an estimate that is not below the root, at most the given number of times. -/
  descend : Nat → Nat → Nat
    | 0, guess => guess
    | steps + 1, guess =>
      let better := (guess + n / guess) / 2
      if better < guess then descend steps better else guess

namespace Binary

variable {k : FloatKind}

/-- The square root, rounded once. The root of a number below zero is not a number, and a zero is
its own root. -/
def sqrt (x : Binary k) : Binary k :=
  match x.reading with
  | .nan => nan k
  | .infinite negative => if negative then nan k else x
  | .finite negative m e =>
    if m = 0 then x
    else if negative then nan k
    else
      let square := m * 2 ^ (128 + (e % 2).toNat)
      let root := natRoot square
      let inexact : Nat := if root * root = square then 0 else 1
      ofScaled k false (2 * root + inexact) (e / 2 - 65)

end Binary

end VirtualTables
