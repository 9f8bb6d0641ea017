import VirtualTables.Engine.Number

/-!
# Arithmetic of an engine

Integers give an integer where it is not too large, and everything else is done with floating point
numbers. Nothing is known of a result with null, of a division by zero, and of what is not a number.
Bits are those of integers; a shift by a number below zero goes the other way.
-/

namespace VirtualTables

/-- What is done with two numbers. -/
inductive Arithmetic where
  | add
  | subtract
  | multiply
  | divide
  | remainder
  | bitAnd
  | bitOr
  | shiftLeft
  | shiftRight
  deriving DecidableEq, Repr

namespace Arithmetic

/-- The result with integers. There is none for a division by zero. -/
def onIntegers? (a b : Int) : Arithmetic → Option Int
  | add => some (a + b)
  | subtract => some (a - b)
  | multiply => some (a * b)
  | divide => if b = 0 then none else some (a.tdiv b)
  | remainder => if b = 0 then none else some (a.tmod b)
  | bitAnd => some (BitVec.ofInt 64 a &&& BitVec.ofInt 64 b).toInt
  | bitOr => some (BitVec.ofInt 64 a ||| BitVec.ofInt 64 b).toInt
  | shiftLeft => some (shifted a b)
  | shiftRight => some (shifted a (-b))
where
  /-- The bits of `a` moved up by `b` places. -/
  shifted (a b : Int) : Int :=
    if 0 ≤ b then (BitVec.ofInt 64 a <<< (min b 64).toNat).toInt
    else ((BitVec.ofInt 64 a).sshiftRight (min (-b) 64).toNat).toInt

/-- The result with floating point numbers. There is none for a division by zero. -/
def onFloats? (x y : Binary .float8) : Arithmetic → Option (Binary .float8)
  | add => some (x.add y)
  | subtract => some (x.add y.neg)
  | multiply => some (x.mul y)
  | divide => if y.isZero then none else some (x.div y)
  | _ => none

/-- Whether only the integers that values stand for matter. -/
def isOnBits : Arithmetic → Bool
  | bitAnd | bitOr | shiftLeft | shiftRight => true
  | _ => false

/-- The result with any values. -/
def apply (how : Arithmetic) (a b : EngineValue) : EngineValue :=
  match a.number, b.number, a.integer?, b.integer? with
  | .integer m, .integer n, some i, some j =>
    let (i, j) := if how.isOnBits then (i, j) else (m, n)
    match how.onIntegers? i.val j.val with
    | none => .null
    | some r =>
      match Ranged.ofInt? .int8 r with
      | some r => .integer r
      | none => inexact how a b
  | _, _, some i, some j =>
    if how.isOnBits then ((how.onIntegers? i.val j.val).map .ofInt).getD .null
    else if how = remainder then
      match how.onIntegers? i.val j.val with
      | none => .null
      | some r => .real (.ofInt .float8 r)
    else inexact how a b
  | _, _, _, _ => .null
where
  /-- The result with the floating point numbers that values stand for. -/
  inexact (how : Arithmetic) (a b : EngineValue) : EngineValue :=
    match a.float?, b.float? with
    | some x, some y => ((how.onFloats? x y).map .ofFloat).getD .null
    | _, _ => .null

end Arithmetic

end VirtualTables
