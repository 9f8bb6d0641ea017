import VirtualTables.Proofs.Value.Coercion

/-!
# Integers are taken exactly

There are eight kinds of integers, and a value of one kind may be asked for as a value of any other.
What can go wrong is well known: the bits are kept and the number is not, or the number is moved to
the end of a range.  Neither happens here.  A coercion goes by way of the integer that a value
denotes, whatever the width and the sign of its kind, and it gives the value of the new kind that
denotes the same integer, or nothing (`coercion_of_integers`).

So a coercion that has not lost the value has lost nothing: what comes out can be coerced on in
place of what went in.  That is true of texts and of floating point numbers as well, of which
nothing but the integer that they stand for is ever asked.
-/

namespace VirtualTables
namespace Value

/-- The value denotes the integer: a truth value counts as zero or one. -/
inductive Denotes : Value → Int → Prop
  | no : Denotes (.boolean false) 0
  | yes : Denotes (.boolean true) 1
  | integer {k : IntKind} (n : Ranged k) : Denotes (.integer k n) n.val

theorem Denotes.toInteger? {v : Value} {n : Int} (h : v.Denotes n) : v.toInteger? = some n := by
  cases h with
  | no | yes | integer => rfl

/-- No value denotes two integers. -/
theorem Denotes.unique {v : Value} {m n : Int} (hm : v.Denotes m) (hn : v.Denotes n) : m = n :=
  Option.some_inj.1 (hm.toInteger?.symm.trans hn.toInteger?)

section Target

variable {v : Value} {n : Int} {j : IntKind}

theorem coerce_integer_of_holds (hv : v.toInteger? = some n) (h : j.Holds n) :
    v.coerce (.integer j) = .integer j ⟨n, h⟩ := by
  rw [coerce_integer_eq, hv, Option.bind_some, Ranged.ofInt?_of_holds h]
  rfl

theorem coerce_integer_of_not_holds (hv : v.toInteger? = some n) (h : ¬j.Holds n) :
    v.coerce (.integer j) = .undefined := by
  rw [coerce_integer_eq, hv, Option.bind_some, Ranged.ofInt?_of_not_holds h]
  rfl

/-- A value that has an integer of some kind stands for this integer. -/
theorem exists_toInteger?_of_coerce (h : v.coerce (.integer j) ≠ .undefined) :
    ∃ (n : Int) (hn : j.Holds n), v.toInteger? = some n ∧
      v.coerce (.integer j) = .integer j ⟨n, hn⟩ := by
  cases hv : v.toInteger? with
  | none =>
    rw [coerce_integer_eq, hv] at h
    exact absurd rfl h
  | some n =>
    by_cases hn : j.Holds n
    · exact ⟨n, hn, rfl, coerce_integer_of_holds hv hn⟩
    · exact absurd (coerce_integer_of_not_holds hv hn) h

end Target

/-- **An integer is coerced to itself, or to nothing.**  If a value denotes an integer and a kind
holds this integer, then what comes out is the value of the kind that denotes it.  If the kind does
not hold it, the value is missing, and so nothing that comes out denotes another integer.  Whatever
a value stands for, a coercion to one kind that has not lost it makes no difference to a coercion to
another kind after it. -/
theorem coercion_of_integers :
    (∀ (v : Value) (n : Int), v.Denotes n → ∀ k : IntKind,
        (∀ h : k.Holds n, v.coerce (.integer k) = .integer k ⟨n, h⟩) ∧
          (¬k.Holds n → v.coerce (.integer k) = .undefined) ∧
          ∀ m, (v.coerce (.integer k)).Denotes m → m = n) ∧
      ∀ (v : Value) (s t : IntKind), v.coerce (.integer s) ≠ .undefined →
        (v.coerce (.integer s)).coerce (.integer t) = v.coerce (.integer t) := by
  refine ⟨fun v n hn k ↦ ⟨coerce_integer_of_holds hn.toInteger?,
    coerce_integer_of_not_holds hn.toInteger?, fun m hm ↦ ?_⟩, fun v s t hs ↦ ?_⟩
  · by_cases h : k.Holds n
    · rw [coerce_integer_of_holds hn.toInteger? h] at hm
      exact hm.unique (.integer ⟨n, h⟩)
    · rw [coerce_integer_of_not_holds hn.toInteger? h] at hm
      cases hm
  · obtain ⟨n, hn, hv, hcoerced⟩ := exists_toInteger?_of_coerce hs
    rw [hcoerced, coerce_integer_eq, coerce_integer_eq, hv]
    rfl

/-- The greatest unsigned integer is no signed one, and it fits no kind that is narrower.  An
integer below zero is no unsigned one, and a truth value is a number of every kind. -/
theorem coercion_of_extremes :
    (integer .uint8 (.wrap .uint8 (2 ^ 64 - 1))).coerce (.integer .int8) = .undefined ∧
      (integer .uint8 (.wrap .uint8 (2 ^ 64 - 1))).coerce (.integer .uint4) = .undefined ∧
      (integer .int1 (.wrap .int1 (-1))).coerce (.integer .uint1) = .undefined ∧
      (∀ k, ∃ h : k.Holds 1, (boolean true).coerce (.integer k) = .integer k ⟨1, h⟩) ∧
      ((utf8 "-7").coerce (.integer .int8)).coerce (.integer .int1) =
        (utf8 "-7").coerce (.integer .int1) := by
  obtain ⟨hexact, htwice⟩ := coercion_of_integers
  refine ⟨(hexact _ _ (.integer _) .int8).2.1 (by decide),
    (hexact _ _ (.integer _) .uint4).2.1 (by decide),
    (hexact _ _ (.integer _) .uint1).2.1 (by decide), fun k ↦ ?_, htwice _ _ _ ?_⟩
  · have hone : k.Holds 1 := by
      cases k with
      | int1 | int2 | int4 | int8 | uint1 | uint2 | uint4 | uint8 => decide
    exact ⟨hone, (hexact _ _ .yes k).1 hone⟩
  · decide +kernel

end Value
end VirtualTables
