import VirtualTables.Value.Coercion

/-!
# Coercion

Coercion between kinds of integers is a question of range: a value that stands for an integer is
taken to the same integer of another kind if this kind holds it, and to the missing value if not.
Nothing wraps, so that what comes out depends on the integer alone and not on the kind it had.

Of all coercions it is true that what comes out has the type that was asked for or is missing
(`Value.type_coerce`).  So a second coercion to the same type has nothing to do, whatever the first
one had to go through, and who receives a coerced value need not ask for its type.  Bytes stand
apart from all other values: nothing but a text is taken to bytes, and bytes to nothing but a text
(`Value.coercion_of_types`).
-/

namespace VirtualTables

namespace Ranged

variable {k : IntKind}

@[ext]
theorem ext {m n : Ranged k} (h : m.val = n.val) : m = n := by
  cases m
  cases n
  cases h
  rfl

theorem ofInt?_of_holds {n : Int} (h : k.Holds n) : ofInt? k n = some ⟨n, h⟩ :=
  dif_pos h

theorem ofInt?_of_not_holds {n : Int} (h : ¬k.Holds n) : ofInt? k n = none :=
  dif_neg h

@[simp]
theorem ofInt?_val (n : Ranged k) : ofInt? k n.val = some n :=
  ofInt?_of_holds n.holds

/-- An integer in range has its own low bits. -/
theorem wrap_val_of_holds {n : Int} (h : k.Holds n) : (wrap k n).val = n := by
  obtain ⟨hleast, hgreatest⟩ := h
  cases k <;>
    simp only [wrap, IntKind.least, IntKind.greatest, IntKind.signed, IntKind.bits, if_true,
      Bool.false_eq_true, if_false, Int.bmod] at hleast hgreatest ⊢ <;>
    omega

end Ranged

namespace Value

section Target

variable {v : Value} {t : DataType}

/-- A value is left as it is if it has the type already, or if a value of any type will do. -/
theorem coerce_of_same (h : t = .any ∨ t = v.type) : v.coerce t = v :=
  if_pos h

/-- For any other type it matters what the value stands for. -/
theorem coerce_of_other (h : ¬(t = .any ∨ t = v.type)) :
    v.coerce t = (v.convert? t).getD undefined :=
  if_neg h

end Target

@[simp]
theorem coerce_type (v : Value) : v.coerce v.type = v :=
  coerce_of_same (.inr rfl)

theorem isUndefined_iff {v : Value} : v.isUndefined = true ↔ v = .undefined := by
  cases v with
  | undefined => exact iff_of_true rfl rfl
  | boolean | float | integer | utf8 | blob => exact iff_of_false nofun nofun

/-- No value is of any type: each has a type of its own. -/
theorem type_ne_any (v : Value) : v.type ≠ .any := by
  cases v <;> exact DataType.noConfusion

/-- A value of another type, if there is one, has this type. -/
theorem type_of_convert? {v v' : Value} {t : DataType} (ht : t ≠ .any)
    (h : v.convert? t = some v') : v'.type = t := by
  cases t with
  | any => exact absurd rfl ht
  | undefined => cases h
  | boolean | float | integer | utf8 | blob =>
    obtain ⟨x, -, rfl⟩ := Option.map_eq_some_iff.1 h
    rfl

/-- **A coerced value has the type that it is coerced to, or is missing.** -/
theorem type_coerce (v : Value) {t : DataType} (ht : t ≠ .any) :
    (v.coerce t).type = t ∨ v.coerce t = .undefined := by
  by_cases hsame : t = .any ∨ t = v.type
  · rw [coerce_of_same hsame]
    exact .inl (hsame.resolve_left ht).symm
  · rw [coerce_of_other hsame]
    cases hconvert : v.convert? t with
    | none => exact .inr rfl
    | some v' => exact .inl (type_of_convert? ht hconvert)

/-- What is missing stays missing. -/
theorem coerce_undefined (t : DataType) : Value.undefined.coerce t = .undefined := by
  cases t <;> rfl

/-- **Coercion to a kind of integers** sees nothing of a value but the integer it stands for. -/
theorem coerce_integer_eq (v : Value) (j : IntKind) :
    v.coerce (.integer j) =
      ((v.toInteger?.bind (Ranged.ofInt? j)).map (integer j)).getD undefined := by
  by_cases htype : v.type = .integer j
  · -- a value of the kind itself is left as it is, and it stands for an integer in range
    cases v with
    | integer k n =>
      obtain rfl : k = j := DataType.integer.inj htype
      rw [toInteger?, Option.bind_some, Ranged.ofInt?_val]
      exact coerce_type (integer k n)
    | undefined | boolean | float | utf8 | blob => cases htype
  · have hsame : ¬(DataType.integer j = .any ∨ DataType.integer j = v.type) := by
      rintro (h | h)
      · cases h
      · exact htype h.symm
    rw [coerce_of_other hsame, convert?]

/-- Coercion between kinds of integers takes an integer to itself, or loses it. -/
theorem coerce_integer {k : IntKind} (n : Ranged k) (j : IntKind) :
    (integer k n).coerce (.integer j) =
      ((Ranged.ofInt? j n.val).map (integer j)).getD undefined :=
  coerce_integer_eq (integer k n) j

/-! ## All types -/

/-- Coercing once more to the same type makes no difference. -/
theorem coerce_coerce (v : Value) (t : DataType) : (v.coerce t).coerce t = v.coerce t := by
  by_cases ht : t = .any
  · exact coerce_of_same (.inl ht)
  · rcases type_coerce v ht with htype | hmissing
    · exact coerce_of_same (.inr htype.symm)
    · rw [hmissing, coerce_undefined]

/-- Bytes stand for no truth value and for no number. -/
theorem target_of_coerce_bytes {bytes : List UInt8} {t : DataType}
    (h : (blob bytes).coerce t ≠ undefined) : t = .any ∨ t = .blob ∨ t = .utf8 := by
  cases t with
  | any => exact .inl rfl
  | blob => exact .inr (.inl rfl)
  | utf8 => exact .inr (.inr rfl)
  | undefined | boolean | float => exact absurd rfl h
  | integer k => exact absurd (coerce_integer_eq _ k) h

/-- Texts are what has bytes, besides bytes themselves. -/
theorem coerce_blob_ne_undefined_iff {v : Value} :
    v.coerce .blob ≠ undefined ↔ v.type = .utf8 ∨ v.type = .blob := by
  cases v with
  | utf8 s => exact iff_of_true nofun (.inl rfl)
  | blob b => exact iff_of_true (coerce_type (blob b) ▸ nofun) (.inr rfl)
  | undefined | boolean | float | integer => exact iff_of_false (not_not_intro rfl) nofun

/-- **What comes out of a coercion.**  It is the value itself if it has the type already or any type
will do, and otherwise a value of the type that was asked for, or nothing; what is missing stays
missing.  Coercing again changes nothing.  Bytes are taken only to a text, and only a text is taken
to bytes, if neither is to stay what it is. -/
theorem coercion_of_types (v : Value) (t : DataType) :
    (t = .any ∨ t = v.type → v.coerce t = v) ∧
      (¬(t = .any ∨ t = v.type) → (v.coerce t).type = t ∨ v.coerce t = undefined) ∧
      Value.undefined.coerce t = undefined ∧
      (v.coerce t).coerce t = v.coerce t ∧
      (v.type = .blob → v.coerce t ≠ undefined → t = .any ∨ t = .blob ∨ t = .utf8) ∧
      (v.coerce .blob ≠ undefined ↔ v.type = .utf8 ∨ v.type = .blob) := by
  refine ⟨coerce_of_same, fun hother ↦ ?_, coerce_undefined t, coerce_coerce v t,
    fun hbytes h ↦ ?_, coerce_blob_ne_undefined_iff⟩
  · exact type_coerce v fun ht ↦ hother (.inl ht)
  · cases v with
    | blob bytes => exact target_of_coerce_bytes h
    | undefined | boolean | float | integer | utf8 => cases hbytes

/-- A text with a number in it becomes an integer, and a byte that is a letter becomes a text. -/
theorem coercion_of_letter :
    (utf8 " 42 ").coerce .any = utf8 " 42 " ∧
      (((utf8 " 42 ").coerce (.integer .int1)).type = .integer .int1 ∨
        (utf8 " 42 ").coerce (.integer .int1) = undefined) ∧
      (blob [0x41]).coerce .utf8 ≠ undefined ∧
      (DataType.utf8 = .any ∨ DataType.utf8 = .blob ∨ DataType.utf8 = .utf8) := by
  have hletter : (blob [0x41]).coerce .utf8 ≠ undefined := by decide +kernel
  obtain ⟨-, -, -, -, htarget, -⟩ := coercion_of_types (blob [0x41]) .utf8
  exact ⟨(coercion_of_types _ _).1 (.inl rfl), (coercion_of_types _ _).2.1 (by decide), hletter,
    htarget rfl hletter⟩

end Value

end VirtualTables
