import VirtualTables.Proofs.Text.WellFormed
import VirtualTables.Proofs.Value.Coercion

/-!
# Text as bytes and back

A text can be asked for as bytes, and bytes as a text.  The one always works and the other only if
the bytes are well-formed, as the standard has it (`Utf8.WellFormed`).  Neither changes anything: no
ill-formed piece is replaced or left out, and so what comes out can be taken back to what went in.
-/

namespace VirtualTables
namespace Value

variable {bytes : List UInt8}

/-- Every text has bytes. -/
theorem coerce_blob (s : String) : (utf8 s).coerce .blob = blob (Utf8.encode s.toList) := rfl

/-- Bytes have the text that they are read as. -/
theorem coerce_utf8_bytes (bytes : List UInt8) :
    (blob bytes).coerce .utf8 =
      ((Utf8.decode? bytes).map fun text ↦ utf8 (String.ofList text)).getD undefined := by
  rw [coerce_of_other (by simp [type]), convert?, toText?, Option.map_map]
  rfl

theorem coerce_utf8_encode (text : List Char) :
    (blob (Utf8.encode text)).coerce .utf8 = utf8 (String.ofList text) := by
  rw [coerce_utf8_bytes, Utf8.decode?_encode]
  rfl

theorem coerce_utf8_of_not_wellFormed (h : ¬Utf8.WellFormed bytes) :
    (blob bytes).coerce .utf8 = undefined := by
  rw [coerce_utf8_bytes, Utf8.decode?_eq_none_iff.2 h]
  rfl

/-- **Text and bytes are converted without loss.**  A text that is taken to bytes and back is the
same text.  Bytes stand for a text if and only if they are well-formed, and then the bytes of this
text are the same bytes. -/
theorem coercion_of_bytes :
    (∀ s : String, ((utf8 s).coerce .blob).coerce .utf8 = utf8 s) ∧
      ∀ bytes : List UInt8,
        ((blob bytes).coerce .utf8 = undefined ↔ ¬Utf8.WellFormed bytes) ∧
          (Utf8.WellFormed bytes → ((blob bytes).coerce .utf8).coerce .blob = blob bytes) := by
  refine ⟨fun s ↦ ?_, fun bytes ↦ ?_⟩
  · rw [coerce_blob, coerce_utf8_encode, String.ofList_toList]
  · by_cases hwell : Utf8.WellFormed bytes
    · obtain ⟨text, rfl⟩ := Utf8.wellFormed_iff.1 hwell
      rw [coerce_utf8_encode, coerce_blob, String.toList_ofList]
      exact ⟨iff_of_false nofun (not_not_intro hwell), fun _ ↦ rfl⟩
    · exact ⟨iff_of_true (coerce_utf8_of_not_wellFormed hwell) hwell, fun h ↦ absurd h hwell⟩

/-- Four bytes of one character come back.  Refused are a zero in two bytes, a surrogate, a code
beyond the last character and a character that lacks its last byte. -/
theorem coercion_of_ill_formed :
    Utf8.WellFormed [0xF0, 0x9F, 0x98, 0x80] ∧
      ((blob [0xF0, 0x9F, 0x98, 0x80]).coerce .utf8).coerce .blob = blob [0xF0, 0x9F, 0x98, 0x80] ∧
      ¬Utf8.WellFormed [0xC0, 0x80] ∧ ¬Utf8.WellFormed [0xED, 0xA0, 0x80] ∧
      ¬Utf8.WellFormed [0xF4, 0x90, 0x80, 0x80] ∧ ¬Utf8.WellFormed [0xF0, 0x9F, 0x98] := by
  obtain ⟨-, hbytes⟩ := coercion_of_bytes
  have hcarries : Utf8.Carries [0xF0, 0x9F, 0x98, 0x80] 0x1F600 :=
    .four (a := 0) (b := 0x1F) (c := 0x18) (d := 0) (by decide) (by decide) (by decide) (by decide)
  have hwell : Utf8.WellFormed [0xF0, 0x9F, 0x98, 0x80] :=
    .append ⟨hcarries, by decide, by decide, by decide⟩ .nil
  exact ⟨hwell, (hbytes _).2 hwell, (hbytes _).1.1 rfl, (hbytes _).1.1 rfl, (hbytes _).1.1 rfl,
    (hbytes _).1.1 rfl⟩

end Value
end VirtualTables
