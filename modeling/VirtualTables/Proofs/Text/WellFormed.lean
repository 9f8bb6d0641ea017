import VirtualTables.Proofs.Text.Utf8

/-!
# Which bytes are text

Not every string of bytes is a text in UTF-8.  What the standard asks for is said here without a
scan (`Utf8.WellFormed`): the bytes fall into characters, and every character has a first byte that
tells the number of its bytes, as many further bytes as that, and a code that is no surrogate, does
not lie beyond `U+10FFFF` and could not have been written with fewer bytes.

* `IsCharacter.eq_encodeChar` and `isCharacter_encodeChar` — such bytes are what a character is
  written with, so that the well-formed bytes are those of the texts (`wellFormed_iff`).
* `decode?_eq_some_iff` — **a scan accepts nothing else.**  It has no notion of a surrogate or of a
  code with too many bytes; all it has are the bounds that a first byte sets to the byte behind it.
  That these bounds are the right ones is the content of `exists_character`.
-/

namespace VirtualTables
namespace Utf8

/-! ## Well-formed bytes -/

/-- The bytes carry the code: the first one by the bits that its mark leaves free, every further one
by six bits. -/
inductive Carries : List UInt8 → Nat → Prop
  | one {a : Nat} : a < 0x80 → Carries [.ofNat a] a
  | two {a b : Nat} : a < 0x20 → b < 0x40 →
    Carries [.ofNat (a + 0xC0), .ofNat (b + 0x80)] (a * 0x40 + b)
  | three {a b c : Nat} : a < 0x10 → b < 0x40 → c < 0x40 →
    Carries [.ofNat (a + 0xE0), .ofNat (b + 0x80), .ofNat (c + 0x80)] ((a * 0x40 + b) * 0x40 + c)
  | four {a b c d : Nat} : a < 0x8 → b < 0x40 → c < 0x40 → d < 0x40 →
    Carries [.ofNat (a + 0xF0), .ofNat (b + 0x80), .ofNat (c + 0x80), .ofNat (d + 0x80)]
      (((a * 0x40 + b) * 0x40 + c) * 0x40 + d)

/-- The least code that needs the given number of bytes. -/
def leastCode : Nat → Nat
  | 0 | 1 => 0
  | 2 => 0x80
  | 3 => 0x800
  | _ => 0x10000

/-- The bytes are those of one character. -/
structure IsCharacter (bytes : List UInt8) (v : Nat) : Prop where
  carries : Carries bytes v
  /-- The code could not have been written with fewer bytes. -/
  not_overlong : leastCode bytes.length ≤ v
  not_surrogate : ¬(0xD800 ≤ v ∧ v ≤ 0xDFFF)
  not_beyond : v ≤ 0x10FFFF

/-- The bytes are those of characters, one behind the other. -/
inductive WellFormed : List UInt8 → Prop
  | nil : WellFormed []
  | append {bytes rest : List UInt8} {v : Nat} :
    IsCharacter bytes v → WellFormed rest → WellFormed (bytes ++ rest)

/-! ## The bytes of a character -/

/-- The bytes that a character is written with are those of one character, with its code. -/
theorem isCharacter_encodeChar (c : Char) : IsCharacter (String.utf8EncodeChar c) c.toNat := by
  have hvalid : c.toNat < 0xD800 ∨ 0xDFFF < c.toNat ∧ c.toNat < 0x110000 := c.valid
  have hcarries : Carries (String.utf8EncodeChar c) c.toNat ∧
      leastCode (String.utf8EncodeChar c).length ≤ c.toNat := by
    rw [String.utf8EncodeChar, show c.val.toNat = c.toNat from rfl]
    generalize c.toNat = v at hvalid
    split_ifs with hone htwo hthree
    · exact ⟨.one (Nat.lt_succ_of_le hone), Nat.zero_le v⟩
    · have h := Carries.two (a := v / 0x40 % 0x20) (b := v % 0x40) (by omega) (by omega)
      rw [two_digits htwo] at h
      exact ⟨h, Nat.lt_of_not_le hone⟩
    · have h := Carries.three (a := v / 0x1000 % 0x10) (b := v / 0x40 % 0x40) (c := v % 0x40)
        (by omega) (by omega) (by omega)
      rw [three_digits hthree] at h
      exact ⟨h, Nat.lt_of_not_le htwo⟩
    · have h := Carries.four (a := v / 0x40000 % 0x8) (b := v / 0x1000 % 0x40)
        (c := v / 0x40 % 0x40) (d := v % 0x40) (by omega) (by omega) (by omega) (by omega)
      rw [four_digits (by omega)] at h
      exact ⟨h, Nat.lt_of_not_le hthree⟩
  exact ⟨hcarries.1, hcarries.2, by omega, by omega⟩

theorem toNat_ofNat_of_valid {v : Nat} (h : v.isValidChar) : (Char.ofNat v).toNat = v := by
  rw [Char.ofNat, dif_pos h]
  rfl

theorem IsCharacter.valid {bytes : List UInt8} {v : Nat} (h : IsCharacter bytes v) :
    v.isValidChar := by
  have hsurrogate := h.not_surrogate
  have hbeyond := h.not_beyond
  rw [Nat.isValidChar]
  omega

/-- The bytes of one character are what the character with their code is written with. -/
theorem IsCharacter.eq_encodeChar {bytes : List UInt8} {v : Nat} (h : IsCharacter bytes v) :
    bytes = String.utf8EncodeChar (Char.ofNat v) := by
  have hv : (Char.ofNat v).val.toNat = v := toNat_ofNat_of_valid h.valid
  obtain ⟨hcarries, hleast, -, hbeyond⟩ := h
  rw [String.utf8EncodeChar, hv]
  cases hcarries with
  | one ha => rw [if_pos (by omega)]
  | @two a b ha hb =>
    change 0x80 ≤ a * 0x40 + b at hleast
    have htop : (a * 0x40 + b) / 0x40 % 0x20 = a := by omega
    have hlast : (a * 0x40 + b) % 0x40 = b := by omega
    rw [if_neg (by omega), if_pos (by omega), htop, hlast]
  | @three a b c ha hb hc =>
    change 0x800 ≤ (a * 0x40 + b) * 0x40 + c at hleast
    have htop : ((a * 0x40 + b) * 0x40 + c) / 0x1000 % 0x10 = a := by omega
    have hnext : ((a * 0x40 + b) * 0x40 + c) / 0x40 % 0x40 = b := by omega
    have hlast : ((a * 0x40 + b) * 0x40 + c) % 0x40 = c := by omega
    rw [if_neg (by omega), if_neg (by omega), if_pos (by omega), htop, hnext, hlast]
  | @four a b c d ha hb hc hd =>
    change 0x10000 ≤ ((a * 0x40 + b) * 0x40 + c) * 0x40 + d at hleast
    have htop : (((a * 0x40 + b) * 0x40 + c) * 0x40 + d) / 0x40000 % 0x8 = a := by omega
    have hsecond : (((a * 0x40 + b) * 0x40 + c) * 0x40 + d) / 0x1000 % 0x40 = b := by omega
    have hthird : (((a * 0x40 + b) * 0x40 + c) * 0x40 + d) / 0x40 % 0x40 = c := by omega
    have hlast : (((a * 0x40 + b) * 0x40 + c) * 0x40 + d) % 0x40 = d := by omega
    rw [if_neg (by omega), if_neg (by omega), if_neg (by omega), htop, hsecond, hthird, hlast]

theorem encode_cons (c : Char) (text : List Char) :
    encode (c :: text) = String.utf8EncodeChar c ++ encode text :=
  List.flatMap_cons

/-- **The well-formed bytes are those of the texts.** -/
theorem wellFormed_iff {bytes : List UInt8} : WellFormed bytes ↔ ∃ text, bytes = encode text := by
  constructor
  · intro h
    induction h with
    | nil => exact ⟨[], rfl⟩
    | @append char rest v hchar _ ih =>
      obtain ⟨text, rfl⟩ := ih
      exact ⟨Char.ofNat v :: text, by rw [encode_cons, ← hchar.eq_encodeChar]⟩
  · rintro ⟨text, rfl⟩
    induction text with
    | nil => exact .nil
    | cons c text ih =>
      rw [encode_cons]
      exact .append (isCharacter_encodeChar c) ih

/-! ## What a scan accepts -/

/-- The bytes that continue a character, and `C0` and `C1`, begin none. -/
theorem lead_below : ∀ x < 0x42, lead (UInt8.ofNat (x + 0x80)) = .none := by
  decide

/-- The last bytes begin no character. -/
theorem lead_above : ∀ x < 0xB, lead (UInt8.ofNat (x + 0xF5)) = .none := by
  decide

/-- What a byte that begins a character is like. -/
theorem lead_cases {b : UInt8} (h : lead b ≠ .none) :
    (∃ v < 0x80, b = .ofNat v) ∨ (∃ x < 0x20, 2 ≤ x ∧ b = .ofNat (x + 0xC0)) ∨
      (∃ x < 0x10, b = .ofNat (x + 0xE0)) ∨ ∃ x < 5, b = .ofNat (x + 0xF0) := by
  have hb : b.toNat < 0x100 := b.toNat_lt
  have hof (n : Nat) (hn : n ≤ b.toNat) : b = .ofNat (b.toNat - n + n) := by
    rw [Nat.sub_add_cancel hn, UInt8.ofNat_toNat]
  by_cases h80 : b.toNat < 0x80
  · exact .inl ⟨b.toNat, h80, UInt8.ofNat_toNat.symm⟩
  by_cases hC2 : b.toNat < 0xC2
  · exact absurd (hof 0x80 (by omega) ▸ lead_below (b.toNat - 0x80) (by omega)) h
  by_cases hE0 : b.toNat < 0xE0
  · exact .inr (.inl ⟨b.toNat - 0xC0, by omega, by omega, hof 0xC0 (by omega)⟩)
  by_cases hF0 : b.toNat < 0xF0
  · exact .inr (.inr (.inl ⟨b.toNat - 0xE0, by omega, hof 0xE0 (by omega)⟩))
  by_cases hF5 : b.toNat < 0xF5
  · exact .inr (.inr (.inr ⟨b.toNat - 0xF0, by omega, hof 0xF0 (by omega)⟩))
  · exact absurd (hof 0xF5 (by omega) ▸ lead_above (b.toNat - 0xF5) (by omega)) h

variable {low high : UInt8} {owed bits : Nat} {bytes : List UInt8} {c : Char}
  {tail : List (Option Char)}

/-- Inside a character the next byte is a digit within its bounds, or nothing is read. -/
theorem exists_digit (hlow : 0x80 ≤ low) (hhigh : high ≤ 0xBF)
    (h : scan (.inside owed low high bits) bytes = some c :: tail) :
    ∃ y rest, bytes = .ofNat (y + 0x80) :: rest ∧ y < 0x40 ∧ Between low high y := by
  cases bytes with
  | nil => simp [scan] at h
  | cons b rest =>
    by_cases hb : low ≤ b ∧ b ≤ high
    · obtain ⟨hleast, hgreatest⟩ := hb
      rw [UInt8.le_iff_toNat_le] at hlow hhigh hleast hgreatest
      change 0x80 ≤ low.toNat at hlow
      change high.toNat ≤ 0xBF at hhigh
      have hbyte : b.toNat - 0x80 + 0x80 = b.toNat := by omega
      refine ⟨b.toNat - 0x80, rest, ?_, by omega, ?_⟩
      · rw [hbyte, UInt8.ofNat_toNat]
      · rw [Between, hbyte]
        exact ⟨hleast, hgreatest⟩
    · simp [scan, hb] at h

/-- The last digit completes the character that is read. -/
theorem exists_last_digit (hlow : 0x80 ≤ low) (hhigh : high ≤ 0xBF)
    (h : scan (.inside 0 low high bits) bytes = some c :: tail) :
    ∃ y rest, bytes = .ofNat (y + 0x80) :: rest ∧ y < 0x40 ∧ Between low high y ∧
      c = Char.ofNat (bits * 0x40 + y) ∧ scan .start rest = tail := by
  obtain ⟨y, rest, rfl, hy, hbetween⟩ := exists_digit hlow hhigh h
  rw [scan_last hy hbetween, List.cons.injEq, Option.some.injEq] at h
  exact ⟨y, rest, rfl, hy, hbetween, h.1.symm, h.2⟩

/-- With any other digit the scan stays inside the character, and has more of its bits. -/
theorem exists_further_digit (hlow : 0x80 ≤ low) (hhigh : high ≤ 0xBF)
    (h : scan (.inside (owed + 1) low high bits) bytes = some c :: tail) :
    ∃ y rest, bytes = .ofNat (y + 0x80) :: rest ∧ y < 0x40 ∧ Between low high y ∧
      scan (.inside owed 0x80 0xBF (bits * 0x40 + y)) rest = some c :: tail := by
  obtain ⟨y, rest, rfl, hy, hbetween⟩ := exists_digit hlow hhigh h
  rw [scan_digit hy hbetween] at h
  exact ⟨y, rest, rfl, hy, hbetween, h⟩

/-- A bound that a first byte sets on a condition is kept. -/
theorem Between.of_ite {p q : Prop} [Decidable p] [Decidable q] {y : Nat}
    (h : Between (if p then low else 0x80) (if q then high else 0xBF) y) :
    (p → low.toNat ≤ y + 0x80) ∧ (q → y + 0x80 ≤ high.toNat) := by
  obtain ⟨hleast, hgreatest⟩ := h
  constructor
  · intro hp
    rwa [if_pos hp] at hleast
  · intro hq
    rwa [if_pos hq] at hgreatest

/-- **What is read as a character is one**: the bytes before the rest are those of a character, and
it is read with their code. -/
theorem exists_character (h : scan .start bytes = some c :: tail) :
    ∃ char v rest, bytes = char ++ rest ∧ IsCharacter char v ∧ c = Char.ofNat v ∧
      scan .start rest = tail := by
  cases bytes with
  | nil => simp [scan] at h
  | cons b rest =>
    have hlead : lead b ≠ .none := by
      intro hnone
      simp [scan, hnone] at h
    -- by the number of bytes: the bounds of the second one make the code long enough, and keep it
    -- away from the surrogates and from what lies beyond the last character
    rcases lead_cases hlead with ⟨v, hv, rfl⟩ | ⟨x, hx, htwo, rfl⟩ | ⟨x, hx, rfl⟩ | ⟨x, hx, rfl⟩
    · have hchar : IsCharacter [.ofNat v] v := ⟨.one hv, Nat.zero_le v, by omega, by omega⟩
      have hread := scan_one (toNat_ofNat_of_valid hchar.valid) (Nat.le_of_lt_succ hv) rest
      rw [hread, List.cons.injEq, Option.some.injEq] at h
      exact ⟨_, v, rest, rfl, hchar, h.1.symm, h.2⟩
    · rw [scan, lead_two x hx htwo] at h
      obtain ⟨y, rest, rfl, hy, -, hc, htail⟩ := exists_last_digit (by decide) (by decide) h
      have hleast : 0x80 ≤ x * 0x40 + y := by omega
      exact ⟨[_, _], _, rest, rfl, ⟨.two hx hy, hleast, by omega, by omega⟩, hc, htail⟩
    · rw [scan, lead_three x hx] at h
      obtain ⟨y, rest, rfl, hy, hbetween, h⟩ :=
        exists_further_digit (by split <;> decide) (by split <;> decide) h
      obtain ⟨z, rest, rfl, hz, -, hc, htail⟩ := exists_last_digit (by decide) (by decide) h
      obtain ⟨hlow, hhigh⟩ := hbetween.of_ite
      change x = 0 → 0xA0 ≤ y + 0x80 at hlow
      change x = 0xD → y + 0x80 ≤ 0x9F at hhigh
      have hleast : 0x800 ≤ (x * 0x40 + y) * 0x40 + z := by omega
      exact ⟨[_, _, _], _, rest, rfl, ⟨.three hx hy hz, hleast, by omega, by omega⟩, hc, htail⟩
    · rw [scan, lead_four x hx] at h
      obtain ⟨y, rest, rfl, hy, hbetween, h⟩ :=
        exists_further_digit (by split <;> decide) (by split <;> decide) h
      obtain ⟨z, rest, rfl, hz, -, h⟩ := exists_further_digit (by decide) (by decide) h
      obtain ⟨w, rest, rfl, hw, -, hc, htail⟩ := exists_last_digit (by decide) (by decide) h
      obtain ⟨hlow, hhigh⟩ := hbetween.of_ite
      change x = 0 → 0x90 ≤ y + 0x80 at hlow
      change x = 4 → y + 0x80 ≤ 0x8F at hhigh
      have hfirst : x < 8 := by omega
      have hleast : 0x10000 ≤ ((x * 0x40 + y) * 0x40 + z) * 0x40 + w := by omega
      exact ⟨[_, _, _, _], _, rest, rfl, ⟨.four hfirst hy hz hw, hleast, by omega, by omega⟩, hc,
        htail⟩

/-- A character that is begun is read, or reported. -/
theorem scan_inside_ne_nil : scan (.inside owed low high bits) bytes ≠ [] := by
  induction bytes generalizing owed low high bits with
  | nil => simp [scan]
  | cons b rest ih =>
    by_cases hb : low ≤ b ∧ b ≤ high
    · cases owed with
      | zero => simp [scan, hb]
      | succ owed => simpa [scan, hb] using ih
    · simp [scan, hb]

theorem lead_ne_opens_start (b : UInt8) : lead b ≠ .opens .start := by
  rw [lead]
  split_ifs <;> simp

theorem scan_start_eq_nil_iff : scan .start bytes = [] ↔ bytes = [] := by
  cases bytes with
  | nil => simp [scan]
  | cons b rest =>
    refine iff_of_false ?_ (by simp)
    cases hlead : lead b with
    | whole c => simp [scan, hlead]
    | none => simp [scan, hlead]
    | opens s =>
      cases s with
      | start => exact absurd hlead (lead_ne_opens_start b)
      | inside owed low high bits => simpa [scan, hlead] using scan_inside_ne_nil

/-- Bytes that are scanned as a text are the bytes of this text. -/
theorem eq_encode_of_scan {text : List Char} (h : scan .start bytes = text.map some) :
    bytes = encode text := by
  induction text generalizing bytes with
  | nil => exact scan_start_eq_nil_iff.1 h
  | cons c text ih =>
    obtain ⟨char, v, rest, rfl, hchar, rfl, hrest⟩ := exists_character h
    rw [encode_cons, ← hchar.eq_encodeChar, ← ih hrest]

/-- What can be collected from a list is all of it. -/
theorem eq_map_some_of_mapM {α : Type} {l : List (Option α)} {xs : List α}
    (h : l.mapM id = some xs) : l = xs.map some := by
  induction l generalizing xs with
  | nil =>
    obtain rfl : [] = xs := by simpa using h
    rfl
  | cons x l ih =>
    obtain ⟨y, rfl, ys, hys, rfl⟩ : ∃ y, x = some y ∧ ∃ ys, l.mapM id = some ys ∧ y :: ys = xs := by
      simpa [List.mapM_cons, Option.bind_eq_some_iff] using h
    rw [ih hys, List.map_cons]

/-- **Bytes are accepted as a text if and only if they are its bytes.** -/
theorem decode?_eq_some_iff {text : List Char} :
    decode? bytes = some text ↔ bytes = encode text := by
  constructor
  · intro h
    exact eq_encode_of_scan (eq_map_some_of_mapM h)
  · rintro rfl
    exact decode?_encode text

/-- Bytes are refused if and only if they are not well-formed. -/
theorem decode?_eq_none_iff : decode? bytes = none ↔ ¬WellFormed bytes := by
  rw [Option.eq_none_iff_forall_ne_some, wellFormed_iff, not_exists]
  exact forall_congr' fun text ↦ not_congr decode?_eq_some_iff

end Utf8
end VirtualTables
