import VirtualTables.Engine.Value
import VirtualTables.Proofs.Function.Arguments
import VirtualTables.Proofs.Text.Utf8
import VirtualTables.Sample.Functions

/-!
# Values on their way through an engine

An engine holds a value in one of its own few types, and whoever gets it back has to take it to the
type that it had.  Nothing is lost on this way but for two reasons: an engine has one format of
floating point numbers, and its integers are signed.  An unsigned integer of 8 bytes keeps its bits,
so from `2 ^ 63` on it comes back as a number below zero, which no unsigned type can hold.

`round_trip_of_representation` says so of all values without floating point numbers, and what it
means for a function that is called with the representation of a value.
-/

namespace VirtualTables

/-! ## Integers -/

/-- Only unsigned integers of 8 bytes go beyond the integers of an engine. -/
theorem Ranged.int8_holds_iff {k : IntKind} (n : Ranged k) :
    IntKind.int8.Holds n.val ↔ (k = .uint8 → n.val < 2 ^ 63) := by
  obtain ⟨n, hleast, hgreatest⟩ := n
  cases k <;>
    simp only [IntKind.Holds, IntKind.least, IntKind.greatest, IntKind.signed, IntKind.bits,
      if_true, Bool.false_eq_true, if_false, reduceCtorEq, false_implies, iff_true,
      forall_const] at hleast hgreatest ⊢ <;>
    omega

namespace EngineValue

/-- An integer comes back if an engine can hold it, and is lost if not. -/
theorem coerce_toValue_integer {k : IntKind} (n : Ranged k) :
    (ofValue (.integer k n)).toValue.coerce (.integer k) =
      if IntKind.int8.Holds n.val then .integer k n else .undefined := by
  rw [ofValue, toValue, Value.coerce_integer]
  by_cases h : IntKind.int8.Holds n.val
  · rw [if_pos h, Ranged.wrap_val_of_holds h, Ranged.ofInt?_val]
    rfl
  · -- the bits are those of a number below zero
    have hwide : ¬(k = .uint8 → n.val < 2 ^ 63) := fun hn ↦ h (n.int8_holds_iff.2 hn)
    rw [Classical.not_imp] at hwide
    obtain ⟨rfl, hwide⟩ := hwide
    have hbits : ¬IntKind.uint8.Holds (Ranged.wrap .int8 n.val).val := by
      obtain ⟨n, hleast, hgreatest⟩ := n
      simp only [IntKind.Holds, IntKind.least, IntKind.greatest, IntKind.signed, IntKind.bits,
        Ranged.wrap, if_true, Bool.false_eq_true, if_false, Int.bmod] at hgreatest hwide ⊢
      omega
    rw [if_neg h, Ranged.ofInt?_of_not_holds hbits]
    rfl

/-- Texts come back as they were. -/
theorem toValue_ofValue_utf8 (s : String) : (ofValue (.utf8 s)).toValue = .utf8 s := by
  rw [ofValue, toValue, Utf8.decodeLossy_encode, String.ofList_toList]

/-- **What comes back**: every value but floating point numbers and wide unsigned integers. -/
theorem coerce_toValue_iff {v : Value} (hfloat : v.type.isFloat = false) :
    (ofValue v).toValue.coerce v.type = v ↔
      ∀ n : Ranged .uint8, v = .integer .uint8 n → n.val < 2 ^ 63 := by
  cases v with
  | undefined => exact iff_of_true (Value.coerce_undefined _) (by rintro n ⟨⟩)
  | boolean b => exact iff_of_true (by cases b <;> rfl) (by rintro n ⟨⟩)
  | float k x => cases hfloat
  | integer k n =>
    have hnarrow : IntKind.int8.Holds n.val ↔
        ∀ m : Ranged .uint8, Value.integer k n = .integer .uint8 m → m.val < 2 ^ 63 := by
      rw [n.int8_holds_iff]
      constructor
      · rintro h m ⟨⟩
        exact h rfl
      · rintro h rfl
        exact h n rfl
    rw [Value.type, coerce_toValue_integer, ← hnarrow]
    by_cases h : IntKind.int8.Holds n.val
    · rw [if_pos h]
      exact iff_of_true rfl h
    · rw [if_neg h]
      exact iff_of_false (by rintro ⟨⟩) h
  | utf8 s =>
    rw [toValue_ofValue_utf8, Value.coerce_type]
    exact iff_of_true rfl (by rintro n ⟨⟩)
  | blob b => exact iff_of_true (Value.coerce_type _) (by rintro n ⟨⟩)

end EngineValue

/-! ## Functions -/

/-- A function accepts what comes back. -/
theorem ScalarFunction.accept?_representation {v : Value}
    (h : (EngineValue.ofValue v).toValue.coerce v.type = v) :
    accept? v.type (EngineValue.ofValue v).toValue = some v := by
  cases v with
  | undefined => exact accept?_undefined _
  | _ => exact accept?_of_coerce h (by rintro ⟨⟩)

/-- **A value without floating point numbers comes back exactly if it is no unsigned integer from
`2 ^ 63` on.**  A function that declares the type of a value that comes back, and is called with
what stands for it, receives the value, or fails because of the number of the arguments or because
of another one.  If it has no other arguments, it does receive the value. -/
theorem round_trip_of_representation {v : Value} (hfloat : v.type.isFloat = false) :
    ((EngineValue.ofValue v).toValue.coerce v.type = v ↔
        ∀ n : Ranged .uint8, v = .integer .uint8 n → n.val < 2 ^ 63) ∧
      ((∀ n : Ranged .uint8, v = .integer .uint8 n → n.val < 2 ^ 63) → ∀ f : ScalarFunction,
        (∀ (args : List EngineValue) (i : Nat), f.expected[i]? = some v.type →
          args[i]? = some (.ofValue v) →
            (∃ received, f.call (args.map (·.toValue)) = f.body received ∧
              received[i]? = some v) ∨
            (args.length ≠ f.expected.length ∧ f.call (args.map (·.toValue)) =
              .error (FunctionError.arity f.name f.expected.length args.length).diagnostic) ∨
            ∃ j t actual, j ≠ i ∧ f.call (args.map (·.toValue)) =
              .error (FunctionError.argumentType f.name j t actual).diagnostic) ∧
          (f.expected = [v.type] → f.call [(EngineValue.ofValue v).toValue] = f.body [v])) := by
  have hiff := EngineValue.coerce_toValue_iff hfloat
  refine ⟨hiff, fun hnarrow f ↦ ?_⟩
  have haccept := ScalarFunction.accept?_representation (hiff.2 hnarrow)
  refine ⟨fun args i ht harg ↦ ?_, fun hexpected ↦ ?_⟩
  · have hvalue : (args.map (·.toValue))[i]? = some (EngineValue.ofValue v).toValue := by
      rw [List.getElem?_map, harg, Option.map_some]
    rcases f.arguments_cases (args.map (·.toValue)) with
      ⟨received, hreceived, hcall⟩ | ⟨hlen, hrefused⟩ | ⟨j, t, arg, hj, hjarg, hnone, hrefused⟩
    · obtain ⟨w, hw, hat⟩ := ScalarFunction.getElem?_of_arguments hreceived ht hvalue
      obtain rfl : v = w := Option.some_inj.1 (haccept.symm.trans hw)
      exact .inl ⟨received, hcall, hat⟩
    · rw [List.length_map] at hlen hrefused
      exact .inr (.inl ⟨hlen, ScalarFunction.call_of_error hrefused⟩)
    · refine .inr (.inr ⟨j, t, arg.type, ?_, ScalarFunction.call_of_error hrefused⟩)
      rintro rfl
      obtain rfl : t = v.type := Option.some_inj.1 (hj.symm.trans ht)
      obtain rfl : arg = (EngineValue.ofValue v).toValue :=
        Option.some_inj.1 (hjarg.symm.trans hvalue)
      rw [haccept] at hnone
      cases hnone
  · have harguments : f.arguments [(EngineValue.ofValue v).toValue] = .ok [v] := by
      have hlen : [(EngineValue.ofValue v).toValue].length = [v.type].length := rfl
      rw [ScalarFunction.arguments, hexpected, if_neg (not_not_intro hlen),
        ScalarFunction.acceptAll_cons_of_some haccept]
      rfl
    exact ScalarFunction.call_of_ok harguments

/-! ### A function of an unsigned integer -/

namespace Sample

/-- The function that gives its argument, an unsigned integer of 8 bytes. -/
def take : ScalarFunction :=
  Recipe.function "take" [.integer .uint8] (.argument 0)

def unsigned (n : Int) : Value :=
  .integer .uint8 (.wrap .uint8 n)

/-- The greatest integer that an engine can hold comes back, and the function receives it. -/
theorem round_trip_of_greatest_signed :
    (EngineValue.ofValue (unsigned (2 ^ 63 - 1))).toValue.coerce (.integer .uint8) =
        unsigned (2 ^ 63 - 1) ∧
      take.call [(EngineValue.ofValue (unsigned (2 ^ 63 - 1))).toValue] =
        .ok (unsigned (2 ^ 63 - 1)) := by
  have hnarrow : ∀ n : Ranged .uint8, unsigned (2 ^ 63 - 1) = .integer .uint8 n →
      n.val < 2 ^ 63 := by
    intro n hn
    obtain rfl := (Value.integer.inj hn).2
    decide
  obtain ⟨hback, hfunction⟩ := round_trip_of_representation (v := unsigned (2 ^ 63 - 1)) rfl
  exact ⟨hback.2 hnarrow, (hfunction hnarrow take).2 rfl⟩

/-- **The greatest unsigned integer does not come back.**  It stands in an engine as `-1`, and a
function of unsigned integers refuses that. -/
theorem greatest_unsigned_is_lost :
    (unsigned (2 ^ 64 - 1)).type.isFloat = false ∧
      (EngineValue.ofValue (unsigned (2 ^ 64 - 1))).toValue.coerce (.integer .uint8) ≠
        unsigned (2 ^ 64 - 1) ∧
      (EngineValue.ofValue (unsigned (2 ^ 64 - 1))).toValue.coerce (.integer .uint8) =
        .undefined ∧
      take.call [(EngineValue.ofValue (unsigned (2 ^ 64 - 1))).toValue] =
        .error
          (FunctionError.argumentType "take" 0 (.integer .uint8) (.integer .int8)).diagnostic := by
  have hlost : (EngineValue.ofValue (unsigned (2 ^ 64 - 1))).toValue.coerce (.integer .uint8) =
      .undefined := rfl
  refine ⟨rfl, ?_, hlost, rfl⟩
  rw [hlost]
  rintro ⟨⟩

end Sample

end VirtualTables
