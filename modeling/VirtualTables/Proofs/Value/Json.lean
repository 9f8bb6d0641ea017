import VirtualTables.Proofs.Json.Compact
import VirtualTables.Proofs.Json.Record
import VirtualTables.Proofs.Table.Summary
import VirtualTables.Proofs.Value.Coercion
import VirtualTables.Value.Json

/-!
# Reading values back

A value is written under the name of its type, and so its content is read as it was written: an
integer as one of the same kind, bytes as bytes.  Integers are the only numbers in it, if it is no
floating point number, and they come back for two reasons.  Their digits start with no zero, which
is what a numeral in a JSON text may not do (`Numeral.wellFormed_ofInt`); and zero has no sign, so
that none of them is taken for a floating point number (`Numeral.toInteger?_ofInt`).

* `Value.jsonText` — the text of a value, said without going through JSON.
* `Value.parse?_compact_toJson` — this is the text that is written, and nothing is lost in it.
* `Value.parse?_compact_of_not_finite` — some floating point numbers are lost, which is why they are
  left out.
-/

namespace VirtualTables

/-! ## Integers -/

/-- The digits of a number start with a zero only if it is zero. -/
theorem eq_zero_of_head?_digits {n : Nat} (h : (digits n).head? = some '0') : n = 0 := by
  induction n using Nat.strongRecOn with
  | ind n ih =>
    by_cases hlt : n < 10
    · have hfirst : ∀ n < 10, n.digitChar = '0' → n = 0 := by decide
      rw [digits, Nat.toDigits_of_lt_base hlt, List.head?_cons, Option.some_inj] at h
      exact hfirst n hlt h
    · -- the first digit is that of a tenth
      rw [digits, Nat.toDigits_of_base_le (by decide) (Nat.le_of_not_lt hlt),
        List.head?_append_of_ne_nil _ Nat.toDigits_ne_nil] at h
      have htenth := ih (n / 10) (by omega) h
      omega

namespace Numeral

theorem wellFormed_ofInt (n : Int) : (ofInt n).WellFormed where
  whole_ne_nil := Nat.toDigits_ne_nil
  whole_digits _ hc := Nat.isDigit_of_mem_toDigits (by decide) (by decide) hc
  whole_zero h := by
    have hzero : n.natAbs = 0 := eq_zero_of_head?_digits h
    rw [ofInt, hzero]
    rfl
  fraction_digits := List.forall_mem_nil _
  exponent_digits := nofun

/-- **An integer is read back from its numeral.** -/
theorem toInteger?_ofInt (n : Int) : (ofInt n).toInteger? = some n := by
  have hmagnitude : ofDigits (digits n.natAbs) = n.natAbs := Nat.ofDigitChars_ten_toDigits
  have hsign : ¬(decide (n < 0) = true ∧ n.natAbs = 0) := by
    rw [decide_eq_true_eq]
    omega
  have hvalue : (if decide (n < 0) = true then -(n.natAbs : Int) else n.natAbs) = n := by
    simp only [decide_eq_true_eq]
    omega
  simp only [toInteger?, ofInt, hmagnitude, hvalue]
  exact if_pos ⟨trivial, trivial, hsign⟩

theorem text_ofInt (n : Int) : (ofInt n).text = integerText n := by
  by_cases hneg : n < 0 <;> simp [text, ofInt, integerText, hneg]

end Numeral

theorem Json.wellFormed_integer (n : Int) : (integer n).WellFormed := by
  intro t ht
  rw [integer, tokens, List.mem_singleton] at ht
  exact ht ▸ Numeral.wellFormed_ofInt n

theorem Json.compactChars_integer (n : Int) : (integer n).compactChars = integerText n := by
  rw [integer, compactChars, Token.text, Numeral.text_ofInt]

/-- There is nothing to escape in the name of a type. -/
theorem DataType.quote_name (t : DataType) :
    Token.quote (some t.name) = '"' :: (t.name.toList ++ ['"']) := by
  cases t with
  | float k => cases k <;> decide
  | integer k => cases k <;> decide
  | _ => decide

namespace Value

theorem readInteger?_integer {k : IntKind} (n : Ranged k) :
    readInteger? k (.integer n.val) = some n := by
  rw [readInteger?, Json.integer, Json.numeral?, Option.bind_some, Numeral.toInteger?_ofInt,
    Option.bind_some, Ranged.ofInt?_val]

theorem readByte?_integer (b : UInt8) : readByte? (.integer b.toNat) = some b := by
  have hholds : IntKind.uint1.Holds b.toNat := by
    have hlt := b.toNat_lt
    simp only [IntKind.Holds, IntKind.least, IntKind.greatest, IntKind.signed, IntKind.bits,
      Bool.false_eq_true, if_false]
    omega
  have hread : readInteger? .uint1 (.integer b.toNat) = some ⟨b.toNat, hholds⟩ :=
    readInteger?_integer ⟨b.toNat, hholds⟩
  rw [readByte?, hread, Option.map_some, Int.toNat_natCast]
  exact congrArg some UInt8.ofNat_toNat

/-! ## Values -/

variable {v : Value}

theorem wellFormed_contentJson (h : v.type.isFloat = false) : v.contentJson.WellFormed := by
  cases v with
  | undefined | boolean b => simp [contentJson, Json.WellFormed, Json.tokens, Token.WellFormed]
  | float k x => exact absurd h (by simp [type, DataType.isFloat])
  | integer k n => exact Json.wellFormed_integer n.val
  | utf8 s => exact Json.wellFormed_text s
  | blob b => exact Json.wellFormed_array_map (fun byte ↦ Json.wellFormed_integer byte.toNat) b

theorem wellFormed_toJson (h : v.type.isFloat = false) : v.toJson.WellFormed := by
  rw [toJson]
  split
  · exact Json.wellFormed_text _
  · rw [Json.wellFormed_record, List.forall_mem_singleton]
    exact wellFormed_contentJson h

/-- The content of a value is read back as one of its type. -/
theorem ofContent?_contentJson (hfloat : v.type.isFloat = false) (hv : v.isUndefined = false) :
    ofContent? v.type v.contentJson = some v := by
  cases v with
  | undefined => exact absurd hv (by decide)
  | float k x => exact absurd hfloat (by simp [type, DataType.isFloat])
  | boolean b => rfl
  | integer k n => rw [type, contentJson, ofContent?, readInteger?_integer, Option.map_some]
  | utf8 s => rfl
  | blob b => rw [type, contentJson, ofContent?, Json.list?_map readByte?_integer, Option.map_some]

/-- What is not missing is read from its content, by the type that the content is named for. -/
theorem ofJson?_record (hv : v.isUndefined = false) (content : Json) :
    ofJson? (.record [(v.type.name, content)]) = ofContent? v.type content := by
  have hchoice : Json.choice? (.record [(v.type.name, content)]) =
      some (v.type.name, some content) := rfl
  rw [ofJson?, hchoice]
  simp only [Option.bind_eq_bind, Option.bind_some, DataType.ofName?_name]
  cases v with
  | undefined => exact absurd hv (by decide)
  | _ => rfl

/-- **A value is read back from its JSON.** -/
theorem ofJson?_toJson (hfloat : v.type.isFloat = false) : ofJson? v.toJson = some v := by
  cases hv : v.isUndefined with
  | true =>
    obtain rfl : v = undefined := by
      cases v with
      | undefined => rfl
      | _ => exact absurd hv (by simp [isUndefined, type])
    rfl
  | false =>
    rw [toJson, hv, if_neg Bool.false_ne_true, ofJson?_record hv,
      ofContent?_contentJson hfloat hv]

/-! ## Texts -/

/-- The content of a value as it is written; the missing value has none. -/
def contentText : Value → List Char
  | undefined => []
  | boolean b => if b then ['t', 'r', 'u', 'e'] else ['f', 'a', 'l', 's', 'e']
  | float _ x => (Json.float x).compactChars
  | integer _ n => integerText n.val
  | utf8 s => '"' :: (s.toList.flatMap Token.escape ++ ['"'])
  | blob b => '[' :: ([','].intercalate (b.map fun byte ↦ digits byte.toNat) ++ [']'])

/-- A value as it is written: the missing value as the name of its type, and any other value as an
object of one member, which has this name. -/
def jsonText (v : Value) : List Char :=
  let name := '"' :: (v.type.name.toList ++ ['"'])
  if v.isUndefined then name else '{' :: (name ++ ':' :: (v.contentText ++ ['}']))

theorem compactChars_contentJson (hv : v.isUndefined = false) :
    v.contentJson.compactChars = v.contentText := by
  cases v with
  | undefined => exact absurd hv (by decide)
  | boolean b => cases b <;> rfl
  | float k x => rfl
  | integer k n => exact Json.compactChars_integer n.val
  | utf8 s => rfl
  | blob b =>
    have hbytes : (b.map fun byte ↦ Json.integer byte.toNat).map Json.compactChars =
        b.map fun byte ↦ digits byte.toNat := by
      rw [List.map_map]
      exact List.map_congr_left fun byte _ ↦ Json.compactChars_integer byte.toNat
    rw [contentJson, Json.compactChars_array, hbytes, contentText]

/-- **The text of a value** is the one that is described above. -/
theorem toList_compact_toJson (v : Value) : v.toJson.compact.toList = v.jsonText := by
  rw [toJson, Json.compact, String.toList_ofList, jsonText, ← DataType.quote_name]
  cases hv : v.isUndefined with
  | true => rfl
  | false => rw [← compactChars_contentJson hv]; rfl

/-- **Nothing is lost in the text of a value.**  Every value but a floating point number is read
back from its compact JSON text: the missing value, both truth values, each integer of each kind,
each text whatever characters are in it, and any bytes.  It is the same value, and it is equal to
what it was in the eyes of a query. -/
theorem parse?_compact_toJson (v : Value) (h : v.type.isFloat = false) :
    v.toJson.compact.toList = v.jsonText ∧ parse? v.toJson.compact = some v ∧
      v.equal v = true := by
  refine ⟨v.toList_compact_toJson, ?_, ?_⟩
  · rw [parse?, Json.parse?_compact (wellFormed_toJson h), Option.bind_some, ofJson?_toJson h]
  · cases v with
    | float k x => exact absurd h (by simp [type, DataType.isFloat])
    | _ => simp [equal]

/-- What is not finite is written as null, and then it is lost. -/
theorem parse?_compact_of_not_finite {k : FloatKind} {x : Binary k}
    (hx : ∀ negative m e, x.reading ≠ .finite negative m e) :
    parse? (float k x).toJson.compact = none := by
  have hnull : (float k x).contentJson = .null := by
    rw [contentJson, Json.float]
    split
    · rename_i negative m e hfinite
      exact absurd hfinite (hx negative m e)
    · rfl
  have hvalue : (float k x).isUndefined = false := by simp [isUndefined, type]
  have hwritten : (float k x).toJson = .record [((float k x).type.name, .null)] := by
    rw [toJson, hvalue, if_neg Bool.false_ne_true, hnull]
  have hwell : (Json.record [((float k x).type.name, .null)]).WellFormed := by
    rw [Json.wellFormed_record, List.forall_mem_singleton]
    simp [Json.WellFormed, Json.tokens, Token.WellFormed]
  rw [hwritten, parse?, Json.parse?_compact hwell, Option.bind_some, ofJson?_record hvalue]
  rfl

/-! ### Extreme values -/

/-- A text with a quote, a backslash, a line break, two control characters of which only the first
is escaped, and characters of two, three and four bytes. -/
def trickyText : Value :=
  .utf8 "\"\\\n\x1f\x7fé€😀"

/-- The text, the least and the greatest integer of any kind, the least and the greatest byte, and
the missing value. -/
def extremes : List Value :=
  [trickyText, .integer .int8 (.clamp .int8 (-2 ^ 63)),
    .integer .uint8 (.clamp .uint8 (2 ^ 64 - 1)), .blob [0, 255], .undefined]

/-- They are all read back.  In the text each character is escaped that has to be, and no other. -/
theorem parse?_of_extremes :
    trickyText.toJson.compact = "\x7b\"Utf8\":\"\\\"\\\\\\n\\u001f\x7fé€😀\"\x7d" ∧
      ∀ v ∈ extremes, v.type.isFloat = false ∧ v.toJson.compact.toList = v.jsonText ∧
        parse? v.toJson.compact = some v ∧ v.equal v = true := by
  have hfloat : ∀ v ∈ extremes, v.type.isFloat = false := by decide
  refine ⟨by decide +kernel, fun v hv ↦ ?_⟩
  exact ⟨hfloat v hv, parse?_compact_toJson v (hfloat v hv)⟩

end Value
end VirtualTables
