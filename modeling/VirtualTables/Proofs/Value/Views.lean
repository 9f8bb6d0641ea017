import VirtualTables.Proofs.Value.Integers

/-!
# Views of integers

There are two ways to an integer of 8 bytes.  A coercion takes the integer that a value stands for,
exactly or not at all; a view always gives one if the value is a number, and it clamps or keeps bits
where the number does not fit.  Where a coercion gives an integer, one expects a view to give the
same.

The signed view does.  The unsigned view is made of the bits of the signed one.  Nothing is lost on
this way as long as the signed view keeps the bits, but of a floating point number it does not: from
`2 ^ 63` on, the number is clamped to the signed range although it has its place in the unsigned one
(`views_of_coercion`).
-/

namespace VirtualTables

namespace Ranged

variable {k : IntKind} {n : Int}

/-- An integer in range is the nearest one in range. -/
theorem clamp_val_of_holds (h : k.Holds n) : (clamp k n).val = n := by
  obtain ⟨hleast, hgreatest⟩ := h
  change max k.least (min k.greatest n) = n
  omega

/-- A natural number is clamped to the signed range at its upper end only. -/
theorem clamp_int8_val (h : 0 ≤ n) : (clamp .int8 n).val = min n (2 ^ 63 - 1) := by
  change max (-2 ^ 63) (min (2 ^ 63 - 1) n) = min n (2 ^ 63 - 1)
  omega

/-- An unsigned integer of 8 bytes comes back from its bits as a signed one. -/
theorem wrap_wrap_val (n : Ranged .uint8) : wrap .uint8 (wrap .int8 n.val).val = n := by
  obtain ⟨n, hleast, hgreatest⟩ := n
  ext
  simp only [wrap, IntKind.least, IntKind.greatest, IntKind.signed, IntKind.bits, if_true,
    Bool.false_eq_true, if_false, Int.bmod] at hleast hgreatest ⊢
  omega

end Ranged

namespace Value

variable {v : Value} {n : Int}

/-- The signed view clamps the integer that a floating point number stands for. -/
theorem asSigned?_float {k : FloatKind} {x : Binary k} (h : x.truncate? = some n) :
    (float k x).asSigned? = some (.clamp .int8 n) := by
  rw [asSigned?]
  cases hreading : x.reading with
  | nan | infinite negative =>
    rw [Binary.truncate?, hreading] at h
    cases h
  | finite negative m e => simp only [h, Option.map_some]

/-- The signed view of a value without text that stands for an integer. -/
theorem asSigned?_of_toInteger? (htext : v.type ≠ .utf8) (h : v.toInteger? = some n) :
    v.asSigned? = some (if v.type.isFloat = true then .clamp .int8 n else .wrap .int8 n) := by
  cases v with
  | undefined | blob b => cases h
  | boolean b | integer k m =>
    obtain rfl := Option.some_inj.1 h
    rfl
  | float k x => exact asSigned?_float h
  | utf8 s => exact absurd rfl htext

/-- **The unsigned view is the bits of the signed one.**  This is true of unsigned integers of 8
bytes as well, although they need no detour. -/
theorem asUnsigned?_eq (v : Value) :
    v.asUnsigned? = v.asSigned?.map fun n ↦ .wrap .uint8 n.val := by
  cases v with
  | integer k n =>
    cases k with
    | uint8 => exact congrArg some n.wrap_wrap_val.symm
    | int1 | int2 | int4 | int8 | uint1 | uint2 | uint4 => rfl
  | undefined | boolean | float | utf8 | blob => rfl

/-- What a coercion to a kind of integers gives is the integer that the value stands for. -/
theorem toInteger?_of_coerce {k : IntKind} {n : Ranged k}
    (h : v.coerce (.integer k) = .integer k n) : v.toInteger? = some n.val := by
  obtain ⟨m, hm, htoInteger, hcoerce⟩ :=
    exists_toInteger?_of_coerce (v := v) (j := k) (h ▸ Value.noConfusion)
  obtain rfl := eq_of_heq (integer.inj (h.symm.trans hcoerce)).2
  exact htoInteger

/-- The unsigned view of a value without text that stands for an unsigned integer. -/
theorem exists_asUnsigned? (htext : v.type ≠ .utf8) {n : Ranged .uint8}
    (h : v.toInteger? = some n.val) :
    ∃ m, v.asUnsigned? = some m ∧
      m.val = if v.type.isFloat = true then min n.val (2 ^ 63 - 1) else n.val := by
  rw [asUnsigned?_eq, asSigned?_of_toInteger? htext h, Option.map_some]
  refine ⟨_, rfl, ?_⟩
  by_cases hfloat : v.type.isFloat = true
  · rw [if_pos hfloat, if_pos hfloat]
    have hleast : 0 ≤ n.val := n.holds.1
    have hholds : IntKind.uint8.Holds (min n.val (2 ^ 63 - 1)) :=
      ⟨Int.le_min.2 ⟨hleast, by decide⟩, Int.le_trans (Int.min_le_left _ _) n.holds.2⟩
    rw [Ranged.clamp_int8_val hleast, Ranged.wrap_val_of_holds hholds]
  · rw [if_neg hfloat, if_neg hfloat, Ranged.wrap_wrap_val]

/-- **Where a coercion gives an integer, so does the view**, but for wide floating point numbers.
Of a value that is no text, the signed view is the signed integer that it is coerced to.  The
unsigned view is the unsigned integer that it is coerced to if and only if this is not `2 ^ 63` or
more, or the value is no floating point number; it is the greatest signed integer otherwise. -/
theorem views_of_coercion (htext : v.type ≠ .utf8) :
    (∀ n : Ranged .int8, v.coerce (.integer .int8) = .integer .int8 n → v.asSigned? = some n) ∧
      ∀ n : Ranged .uint8, v.coerce (.integer .uint8) = .integer .uint8 n →
        (v.asUnsigned? = some n ↔ (v.type.isFloat = true → n.val < 2 ^ 63)) ∧
          ∃ m, v.asUnsigned? = some m ∧
            m.val = if v.type.isFloat = true then min n.val (2 ^ 63 - 1) else n.val := by
  refine ⟨fun n hn ↦ ?_, fun n hn ↦ ?_⟩
  · have hview := asSigned?_of_toInteger? htext (toInteger?_of_coerce hn)
    rw [hview, Option.some_inj]
    ext
    split
    · exact Ranged.clamp_val_of_holds n.holds
    · exact Ranged.wrap_val_of_holds n.holds
  · obtain ⟨m, hview, hm⟩ := exists_asUnsigned? htext (toInteger?_of_coerce hn)
    refine ⟨?_, m, hview, hm⟩
    rw [hview, Option.some_inj, Ranged.ext_iff, hm]
    by_cases hfloat : v.type.isFloat = true
    · simp only [hfloat, if_true, forall_const]
      omega
    · simp [hfloat]

end Value

/-! ### Numbers around the greatest signed integer -/

namespace Sample

/-- The floating point number `2 ^ 63`. -/
def wide : Value :=
  .float .float8 ⟨0x43E0000000000000⟩

/-- The greatest floating point number below it. -/
def belowWide : Value :=
  .float .float8 ⟨0x43DFFFFFFFFFFFFF⟩

/-- Below `2 ^ 63` both views of a floating point number are what it is coerced to. -/
theorem views_below_wide :
    belowWide.coerce (.integer .int8) = .integer .int8 (.wrap .int8 (2 ^ 63 - 1024)) ∧
      belowWide.asSigned? = some (.wrap .int8 (2 ^ 63 - 1024)) ∧
      belowWide.coerce (.integer .uint8) = .integer .uint8 (.wrap .uint8 (2 ^ 63 - 1024)) ∧
      belowWide.asUnsigned? = some (.wrap .uint8 (2 ^ 63 - 1024)) := by
  have hint : belowWide.coerce (.integer .int8) = .integer .int8 (.wrap .int8 (2 ^ 63 - 1024)) := by
    decide +kernel
  have huint :
      belowWide.coerce (.integer .uint8) = .integer .uint8 (.wrap .uint8 (2 ^ 63 - 1024)) := by
    decide +kernel
  obtain ⟨hsigned, hunsigned⟩ := Value.views_of_coercion (v := belowWide) (by decide)
  exact ⟨hint, hsigned _ hint, huint, (hunsigned _ huint).1.2 fun _ ↦ by decide⟩

/-- **A wide floating point number is seen as another integer.**  It is coerced to `2 ^ 63`, which
is an unsigned integer of 8 bytes, and its unsigned view is one less. -/
theorem wide_view_is_clamped :
    wide.type ≠ .utf8 ∧
      wide.coerce (.integer .uint8) = .integer .uint8 (.wrap .uint8 (2 ^ 63)) ∧
      wide.asUnsigned? ≠ some (.wrap .uint8 (2 ^ 63)) ∧
      wide.asUnsigned? = some (.wrap .uint8 (2 ^ 63 - 1)) := by
  decide +kernel

end Sample
end VirtualTables
