import Mathlib.Data.List.TakeWhile
import VirtualTables.Proofs.Value.Coercion

/-!
# Integers in text

An integer that is taken to a text and then to a kind of integers is where it would be without the
text: it is itself if the kind holds it, and missing if not.  The text is the one that a person
would write, and so it may come back with white space around it, or a number that is not below zero
with a plus sign or with zeros in front.  None of this makes a difference (`coercion_through_text`).

A text that is not read as an integer is read once more as a floating point number, which would not
do, as that loses all digits but the first ones.  It does not come to this: the reader of integers
has no bound, and it reads every text that is spoken of here (`Spells.readInt?_eq`).
-/

namespace VirtualTables

/-! ## White space -/

section Blank

variable {text before after : List Char}

theorem dropWhile_of_not_blank (h : ∀ c ∈ text, isBlank c = false) :
    text.dropWhile isBlank = text := by
  cases text with
  | nil => rfl
  | cons c text => rw [List.dropWhile_cons_of_neg (by simp [h c List.mem_cons_self])]

/-- White space around a text that holds none is trimmed away, and nothing else. -/
theorem trimBlanks_surrounded (htext : ∀ c ∈ text, isBlank c = false)
    (hbefore : ∀ c ∈ before, isBlank c = true) (hafter : ∀ c ∈ after, isBlank c = true) :
    trimBlanks (before ++ text ++ after) = text := by
  have hreversed : ∀ c ∈ text.reverse, isBlank c = false :=
    fun c hc ↦ htext c (List.mem_reverse.1 hc)
  have hbehind : ∀ c ∈ after.reverse, isBlank c = true :=
    fun c hc ↦ hafter c (List.mem_reverse.1 hc)
  rw [trimBlanks, List.append_assoc, List.dropWhile_append_of_pos hbefore, List.dropWhile_append,
    dropWhile_of_not_blank htext]
  by_cases hnone : text = []
  · simp [hnone, List.dropWhile_eq_nil_iff.2 hafter]
  · rw [if_neg (by simp [hnone]), List.reverse_append, List.dropWhile_append_of_pos hbehind,
      dropWhile_of_not_blank hreversed, List.reverse_reverse]

end Blank

/-- A digit is no white space. -/
theorem isBlank_of_isDigit {c : Char} (h : c.isDigit = true) : isBlank c = false := by
  rw [Char.isDigit_iff_toNat] at h
  change 48 ≤ c.toNat ∧ c.toNat ≤ 57 at h
  simp only [isBlank, loneBlanks, List.contains_eq_mem, List.mem_cons, List.not_mem_nil, or_false,
    Bool.or_eq_false_iff, Bool.and_eq_false_iff, decide_eq_false_iff_not]
  omega

/-! ## Digits -/

theorem readNat?_of_digits {text : List Char} (hne : text ≠ [])
    (h : ∀ c ∈ text, c.isDigit = true) : readNat? text = some (ofDigits text) :=
  if_pos ⟨hne, List.all_eq_true.2 h⟩

/-- The digits of a number, with zeros in front. -/
def padded (zeros n : Nat) : List Char :=
  List.replicate zeros '0' ++ digits n

theorem isDigit_of_mem_padded {zeros n : Nat} {c : Char} (h : c ∈ padded zeros n) :
    c.isDigit = true := by
  rcases List.mem_append.1 h with hzero | hdigit
  · rw [List.eq_of_mem_replicate hzero]
    decide
  · exact Nat.isDigit_of_mem_toDigits (by decide) (by decide) hdigit

theorem padded_ne_nil (zeros n : Nat) : padded zeros n ≠ [] := by
  simp [padded, digits, Nat.toDigits_ne_nil]

/-- Zeros in front make no difference. -/
theorem readNat?_padded (zeros n : Nat) : readNat? (padded zeros n) = some n := by
  rw [readNat?_of_digits (padded_ne_nil zeros n) fun c ↦ isDigit_of_mem_padded, padded, digits,
    ofDigits, Nat.ofDigitChars_append, Nat.ofDigitChars_replicate_zero, Nat.mul_zero,
    Nat.ofDigitChars_ten_toDigits]

/-- The digits of a number start with no sign. -/
theorem splitSign_padded (zeros n : Nat) :
    splitSign (padded zeros n) = (false, padded zeros n) := by
  obtain ⟨d, ds, hpadded⟩ := List.exists_cons_of_ne_nil (padded_ne_nil zeros n)
  have hd : d.isDigit = true := isDigit_of_mem_padded (hpadded ▸ List.mem_cons_self)
  rw [hpadded, splitSign]
  · rintro rest ⟨⟩
    exact absurd hd (by decide)
  · rintro rest ⟨⟩
    exact absurd hd (by decide)

/-! ## Integers -/

/-- The ways to write an integer in decimal: the digits of a natural number with any zeros in front,
alone or behind a plus sign for the number itself, and behind a minus sign for its negative. -/
inductive Spells : List Char → Int → Prop
  | plain (zeros n : Nat) : Spells (padded zeros n) n
  | plus (zeros n : Nat) : Spells ('+' :: padded zeros n) n
  | minus (zeros n : Nat) : Spells ('-' :: padded zeros n) (-n)

namespace Spells

variable {text before after : List Char} {n : Int}

/-- **Every spelling of an integer is read as this integer.** -/
theorem readInt?_eq (h : Spells text n) : readInt? text = some n := by
  cases h with
  | plain zeros n => simp [readInt?, splitSign_padded, readNat?_padded]
  | plus zeros n => simp [readInt?, splitSign, readNat?_padded]
  | minus zeros n => simp [readInt?, splitSign, readNat?_padded]

/-- There is no white space in it. -/
theorem not_blank (h : Spells text n) : ∀ c ∈ text, isBlank c = false := by
  have hpadded (zeros n : Nat) : ∀ c ∈ padded zeros n, isBlank c = false :=
    fun c hc ↦ isBlank_of_isDigit (isDigit_of_mem_padded hc)
  cases h with
  | plain zeros n => exact hpadded zeros n
  | plus zeros n => exact List.forall_mem_cons.2 ⟨by decide, hpadded zeros n⟩
  | minus zeros n => exact List.forall_mem_cons.2 ⟨by decide, hpadded zeros n⟩

/-- A text stands for the integer that it spells, also with white space around. -/
theorem toInteger?_eq (h : Spells text n) (hbefore : ∀ c ∈ before, isBlank c = true)
    (hafter : ∀ c ∈ after, isBlank c = true) :
    (Value.utf8 (String.ofList (before ++ text ++ after))).toInteger? = some n := by
  rw [Value.toInteger?, String.toList_ofList, trimBlanks_surrounded h.not_blank hbefore hafter,
    h.readInt?_eq, Option.some_or]

end Spells

/-- The text of an integer spells it. -/
theorem spells_integerText (n : Int) : Spells (integerText n) n := by
  rw [integerText]
  split
  · have h := Spells.minus 0 n.natAbs
    rwa [show -(n.natAbs : Int) = n by omega] at h
  · have h := Spells.plain 0 n.natAbs
    rwa [show (n.natAbs : Int) = n by omega] at h

/-- So does the text of an integer that is not below zero with a plus sign or zeros in front. -/
theorem spells_signed {n : Int} (hn : 0 ≤ n) {sign : List Char} (hsign : sign = [] ∨ sign = ['+'])
    (zeros : Nat) : Spells (sign ++ (List.replicate zeros '0' ++ integerText n)) n := by
  obtain ⟨n, rfl⟩ := Int.eq_ofNat_of_zero_le hn
  rw [integerText, if_neg (by omega), Int.natAbs_natCast]
  rcases hsign with rfl | rfl
  · exact .plain zeros n
  · exact .plus zeros n

/-! ## Values -/

namespace Value

variable {k : IntKind}

theorem coerce_utf8_integer (n : Ranged k) :
    (integer k n).coerce .utf8 = utf8 (String.ofList (integerText n.val)) := rfl

/-- What stands for the same integer becomes the same value. -/
theorem coerce_integer_congr {v w : Value} (h : v.toInteger? = w.toInteger?) (s : IntKind) :
    v.coerce (.integer s) = w.coerce (.integer s) := by
  rw [coerce_integer_eq, coerce_integer_eq, h]

/-- **Integers survive a detour through text.**  Taken to a text and from there to a kind of
integers, an integer becomes what it becomes without the text.  So it does if there is white space
around the text, and, if the integer is not below zero, if a plus sign or zeros are put in front. -/
theorem coercion_through_text (n : Ranged k) (s : IntKind) :
    (integer k n).coerce .utf8 = utf8 (String.ofList (integerText n.val)) ∧
      ((integer k n).coerce .utf8).coerce (.integer s) = (integer k n).coerce (.integer s) ∧
      ∀ before after : List Char, (∀ c ∈ before, isBlank c = true) →
        (∀ c ∈ after, isBlank c = true) →
        (utf8 (String.ofList (before ++ integerText n.val ++ after))).coerce (.integer s) =
            (integer k n).coerce (.integer s) ∧
          (0 ≤ n.val → ∀ (sign : List Char) (zeros : Nat), sign = [] ∨ sign = ['+'] →
            (utf8 (String.ofList (before ++ (sign ++ (List.replicate zeros '0' ++
                integerText n.val)) ++ after))).coerce (.integer s) =
              (integer k n).coerce (.integer s)) := by
  have hspelled {text before after : List Char} (h : Spells text n.val)
      (hbefore : ∀ c ∈ before, isBlank c = true) (hafter : ∀ c ∈ after, isBlank c = true) :
      (utf8 (String.ofList (before ++ text ++ after))).coerce (.integer s) =
        (integer k n).coerce (.integer s) :=
    coerce_integer_congr (h.toInteger?_eq hbefore hafter) s
  refine ⟨coerce_utf8_integer n, ?_, fun before after hbefore hafter ↦ ⟨?_, ?_⟩⟩
  · have h : (utf8 (String.ofList ([] ++ integerText n.val ++ []))).coerce (.integer s) =
        (integer k n).coerce (.integer s) :=
      hspelled (spells_integerText n.val) nofun nofun
    rwa [List.nil_append, List.append_nil] at h
  · exact hspelled (spells_integerText n.val) hbefore hafter
  · intro hn sign zeros hsign
    exact hspelled (spells_signed hn hsign zeros) hbefore hafter

/-- The least integer of all comes back with a blank before it and a line end behind, and so does a
small one with a plus sign and zeros. -/
theorem coercion_of_padded_text :
    (utf8 (String.ofList (' ' :: integerText (-2 ^ 63) ++ ['\n']))).coerce (.integer .int8) =
        integer .int8 (.wrap .int8 (-2 ^ 63)) ∧
      (utf8 (String.ofList ['\t', '+', '0', '0', '7', '\u00A0'])).coerce (.integer .uint1) =
        integer .uint1 (.wrap .uint1 7) := by
  have hblank {c : Char} (h : isBlank c = true) : ∀ d ∈ [c], isBlank d = true :=
    List.forall_mem_singleton.2 h
  obtain ⟨-, -, hleast⟩ := coercion_through_text (.wrap .int8 (-2 ^ 63)) .int8
  obtain ⟨-, -, hseven⟩ := coercion_through_text (.wrap .uint1 7) .uint1
  constructor
  · exact (hleast [' '] ['\n'] (hblank rfl) (hblank rfl)).1.trans (coerce_type _)
  · have hsigned := (hseven ['\t'] ['\u00A0'] (hblank rfl) (hblank rfl)).2 (by decide)
    exact (hsigned ['+'] 2 (.inr rfl)).trans (coerce_type _)

end Value

end VirtualTables
