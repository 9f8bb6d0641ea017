import Mathlib.Tactic.SplitIfs
import VirtualTables.Text.Utf8

/-!
# Reading back the bytes of a text

The bytes of a text are well-formed: a scan splits them into the characters that they were written
for, and finds no ill-formed piece (`Utf8.scan_encode`).  So both ways to read bytes give the text
back, the strict one and the one that replaces what it cannot read.

The argument is about one character with any bytes behind it.  Its code is cut into digits of six
bits; the first byte carries the top digit and says how many are to follow, and every further byte
adds one digit to the bits that a scan has collected.
-/

namespace VirtualTables
namespace Utf8

/-! ## First bytes -/

/-- The first of two bytes. -/
theorem lead_two : ∀ x < 0x20, 2 ≤ x →
    lead (UInt8.ofNat (x + 0xC0)) = .opens (.inside 0 0x80 0xBF x) := by
  decide

/-- The first of three bytes.  The next digit has a bound if the top one is the least, or if it is
that of the surrogates. -/
theorem lead_three : ∀ x < 0x10,
    lead (UInt8.ofNat (x + 0xE0)) =
      .opens (.inside 1 (if x = 0 then 0xA0 else 0x80) (if x = 0xD then 0x9F else 0xBF) x) := by
  decide

/-- The first of four bytes.  The next digit has a bound if the top one is the least, or if it is
the greatest. -/
theorem lead_four : ∀ x < 5,
    lead (UInt8.ofNat (x + 0xF0)) =
      .opens (.inside 2 (if x = 0 then 0x90 else 0x80) (if x = 4 then 0x8F else 0xBF) x) := by
  decide

/-! ## Digits -/

section Code

variable {v : Nat}

/-- A code of two digits is put together from them. -/
theorem two_digits (h : v ≤ 0x7FF) : v / 0x40 % 0x20 * 0x40 + v % 0x40 = v := by
  omega

/-- A code of three digits is put together from them. -/
theorem three_digits (h : v ≤ 0xFFFF) :
    (v / 0x1000 % 0x10 * 0x40 + v / 0x40 % 0x40) * 0x40 + v % 0x40 = v := by
  omega

/-- A code of four digits is put together from them. -/
theorem four_digits (h : v ≤ 0x10FFFF) :
    ((v / 0x40000 % 0x8 * 0x40 + v / 0x1000 % 0x40) * 0x40 + v / 0x40 % 0x40) * 0x40 +
      v % 0x40 = v := by
  omega

end Code

/-- The byte of a digit lies between two bounds. -/
def Between (low high : UInt8) (y : Nat) : Prop :=
  low.toNat ≤ y + 0x80 ∧ y + 0x80 ≤ high.toNat

variable {low high : UInt8} {bits y : Nat}

theorem between_digit (hy : y < 0x40) : Between 0x80 0xBF y :=
  ⟨Nat.le_add_left _ _, Nat.add_le_add_right (Nat.le_of_lt_succ hy) 0x80⟩

/-- A first byte may set one bound or the other, on a condition. -/
theorem between_ite {p q : Prop} [Decidable p] [Decidable q] (hy : y < 0x40)
    (hlow : p → low.toNat ≤ y + 0x80) (hhigh : q → y + 0x80 ≤ high.toNat) :
    Between (if p then low else 0x80) (if q then high else 0xBF) y := by
  constructor
  · split
    · exact hlow ‹p›
    · exact (between_digit hy).1
  · split
    · exact hhigh ‹q›
    · exact (between_digit hy).2

theorem toNat_digit (hy : y < 0x40) : (UInt8.ofNat (y + 0x80)).toNat = y + 0x80 := by
  rw [UInt8.toNat_ofNat', Nat.mod_eq_of_lt (by omega)]

theorem Between.le_and_le (h : Between low high y) (hy : y < 0x40) :
    low ≤ UInt8.ofNat (y + 0x80) ∧ UInt8.ofNat (y + 0x80) ≤ high := by
  rw [UInt8.le_iff_toNat_le, UInt8.le_iff_toNat_le, toNat_digit hy]
  exact h

/-- The last digit completes a character. -/
theorem scan_last (hy : y < 0x40) (h : Between low high y) (rest : List UInt8) :
    scan (.inside 0 low high bits) (UInt8.ofNat (y + 0x80) :: rest) =
      some (Char.ofNat (bits * 0x40 + y)) :: scan .start rest := by
  rw [scan, if_pos (h.le_and_le hy), toNat_digit hy, Nat.add_sub_cancel]

/-- Any other digit is added to the bits. -/
theorem scan_digit {owed : Nat} (hy : y < 0x40) (h : Between low high y) (rest : List UInt8) :
    scan (.inside (owed + 1) low high bits) (UInt8.ofNat (y + 0x80) :: rest) =
      scan (.inside owed 0x80 0xBF (bits * 0x40 + y)) rest := by
  rw [scan, if_pos (h.le_and_le hy), toNat_digit hy, Nat.add_sub_cancel]

/-! ## One character -/

section Character

variable {c : Char} {v : Nat}

theorem scan_one (hv : c.toNat = v) (h : v ≤ 0x7F) (rest : List UInt8) :
    scan .start (UInt8.ofNat v :: rest) = some c :: scan .start rest := by
  have hbyte : (UInt8.ofNat v).toNat = v := by
    rw [UInt8.toNat_ofNat', Nat.mod_eq_of_lt (by omega)]
  have hle : UInt8.ofNat v ≤ 0x7F := by
    rw [UInt8.le_iff_toNat_le, hbyte]
    exact h
  have hlead : lead (UInt8.ofNat v) = .whole c := by
    rw [lead, if_pos hle, hbyte, ← hv, Char.ofNat_toNat]
  rw [scan, hlead]

theorem scan_two (hv : c.toNat = v) (hleast : 0x7F < v) (hgreatest : v ≤ 0x7FF)
    (rest : List UInt8) :
    scan .start (UInt8.ofNat (v / 0x40 % 0x20 + 0xC0) :: UInt8.ofNat (v % 0x40 + 0x80) :: rest) =
      some c :: scan .start rest := by
  have hdigit : v % 0x40 < 0x40 := Nat.mod_lt _ (by decide)
  rw [scan, lead_two _ (by omega) (by omega)]
  dsimp only
  rw [scan_last hdigit (between_digit hdigit), two_digits hgreatest, ← hv, Char.ofNat_toNat]

/-- Below `0x800` there would be two bytes, and the surrogates are no characters. -/
theorem scan_three (hv : c.toNat = v) (hleast : 0x7FF < v) (hgreatest : v ≤ 0xFFFF)
    (hsurrogate : v < 0xD800 ∨ 0xDFFF < v) (rest : List UInt8) :
    scan .start (UInt8.ofNat (v / 0x1000 % 0x10 + 0xE0) ::
        UInt8.ofNat (v / 0x40 % 0x40 + 0x80) :: UInt8.ofNat (v % 0x40 + 0x80) :: rest) =
      some c :: scan .start rest := by
  have hnext : v / 0x40 % 0x40 < 0x40 := Nat.mod_lt _ (by decide)
  have hdigit : v % 0x40 < 0x40 := Nat.mod_lt _ (by decide)
  have hlow : v / 0x1000 % 0x10 = 0 → 0xA0 ≤ v / 0x40 % 0x40 + 0x80 := by omega
  have hhigh : v / 0x1000 % 0x10 = 0xD → v / 0x40 % 0x40 + 0x80 ≤ 0x9F := by omega
  rw [scan, lead_three _ (by omega)]
  dsimp only
  rw [scan_digit hnext (between_ite hnext hlow hhigh), scan_last hdigit (between_digit hdigit),
    three_digits hgreatest, ← hv, Char.ofNat_toNat]

/-- Below `0x10000` there would be three bytes, and there is no character above `0x10FFFF`. -/
theorem scan_four (hv : c.toNat = v) (hleast : 0xFFFF < v) (hgreatest : v ≤ 0x10FFFF)
    (rest : List UInt8) :
    scan .start (UInt8.ofNat (v / 0x40000 % 0x8 + 0xF0) ::
        UInt8.ofNat (v / 0x1000 % 0x40 + 0x80) :: UInt8.ofNat (v / 0x40 % 0x40 + 0x80) ::
        UInt8.ofNat (v % 0x40 + 0x80) :: rest) =
      some c :: scan .start rest := by
  have hsecond : v / 0x1000 % 0x40 < 0x40 := Nat.mod_lt _ (by decide)
  have hthird : v / 0x40 % 0x40 < 0x40 := Nat.mod_lt _ (by decide)
  have hdigit : v % 0x40 < 0x40 := Nat.mod_lt _ (by decide)
  have hlow : v / 0x40000 % 0x8 = 0 → 0x90 ≤ v / 0x1000 % 0x40 + 0x80 := by omega
  have hhigh : v / 0x40000 % 0x8 = 4 → v / 0x1000 % 0x40 + 0x80 ≤ 0x8F := by omega
  rw [scan, lead_four _ (by omega)]
  dsimp only
  rw [scan_digit hsecond (between_ite hsecond hlow hhigh), scan_digit hthird (between_digit hthird),
    scan_last hdigit (between_digit hdigit), four_digits hgreatest, ← hv, Char.ofNat_toNat]

/-- **The bytes of a character are scanned as this character**, whatever is behind them. -/
theorem scan_encodeChar (c : Char) (rest : List UInt8) :
    scan .start (String.utf8EncodeChar c ++ rest) = some c :: scan .start rest := by
  have hvalid : c.toNat < 0xD800 ∨ 0xDFFF < c.toNat ∧ c.toNat < 0x110000 := c.valid
  have hv : c.toNat = c.val.toNat := rfl
  rw [String.utf8EncodeChar]
  split_ifs with hone htwo hthree
  · exact scan_one hv hone rest
  · exact scan_two hv (by omega) htwo rest
  · exact scan_three hv (by omega) hthree (by omega) rest
  · exact scan_four hv (by omega) (by omega) rest

end Character

/-! ## Texts -/

/-- **The bytes of a text are scanned as its characters.** -/
theorem scan_encode (text : List Char) : scan .start (encode text) = text.map some := by
  induction text with
  | nil => rw [encode, List.flatMap_nil, scan, List.map_nil]
  | cons c rest ih =>
    rw [encode, List.flatMap_cons, scan_encodeChar, List.map_cons]
    exact congrArg (some c :: ·) ih

/-- The bytes of a text are well-formed. -/
theorem decode?_encode (text : List Char) : decode? (encode text) = some text := by
  rw [decode?, scan_encode, List.mapM_map]
  have hread : text.mapM (pure ∘ id) = some (text.map id) := List.mapM_pure
  rwa [List.map_id] at hread

/-- Nothing is replaced in the bytes of a text. -/
theorem decodeLossy_encode (text : List Char) : decodeLossy (encode text) = text := by
  rw [decodeLossy, scan_encode, List.map_map]
  exact List.map_id text

end Utf8
end VirtualTables
