import VirtualTables.Json.Token

/-!
# Reading tokens back

A token that is written and then read is the same token, and what stands behind it is left as it is
(`Token.read?_text`).  For a string literal this goes character by character: every character has
one escape, and reading the escape gives its code (`Token.readCodes_escape`).  For a numeral it is a
matter of where it ends: digits that follow it, or a point, or the mark of an exponent, would be
taken for a part of it, so a numeral is read back only before a text that `Delimits` it.

`Token.Spells` is what makes the layout of a text unimportant: the tokens of a text are those that
it spells, whatever white space stands between them (`Token.scan_of_spells`).
-/

namespace VirtualTables

namespace Token

/-! ## String literals -/

theorem read?_hex_of_lt {n : Nat} (h : n < 0x20) :
    Hex.read? ['0', '0', Hex.digit (n / 16), Hex.digit (n % 16)] = some n := by
  have hall : ∀ n < 0x20,
      Hex.read? ['0', '0', Hex.digit (n / 16), Hex.digit (n % 16)] = some n := by
    decide
  exact hall n h

/-- What the escape of a character looks like: two characters, a code, or the character itself. -/
theorem escape_cases (c : Char) :
    (∃ e, escape c = ['\\', e] ∧ e ≠ 'u' ∧ shortEscape? e = some c) ∨
      (c.toNat < 0x20 ∧ escape c =
        ['\\', 'u', '0', '0', Hex.digit (c.toNat / 16), Hex.digit (c.toNat % 16)]) ∨
      (escape c = [c] ∧ c ≠ '"' ∧ c ≠ '\\' ∧ ¬c.toNat < 0x20) := by
  by_cases hshort : c ∈ ['"', '\\', '\n', '\r', '\t', '\x08', '\x0c']
  · simp only [List.mem_cons, List.not_mem_nil, or_false] at hshort
    rcases hshort with rfl | rfl | rfl | rfl | rfl | rfl | rfl <;>
      exact .inl ⟨_, rfl, by decide, rfl⟩
  · simp only [List.mem_cons, List.not_mem_nil, or_false, not_or] at hshort
    obtain ⟨hquote, hslash, hline, hreturn, htab, hback, hfeed⟩ := hshort
    rw [escape, if_neg hquote, if_neg hslash, if_neg hline, if_neg hreturn, if_neg htab,
      if_neg hback, if_neg hfeed]
    by_cases hcontrol : c.toNat < 0x20
    · exact .inr (.inl ⟨hcontrol, if_pos hcontrol⟩)
    · exact .inr (.inr ⟨if_neg hcontrol, hquote, hslash, hcontrol⟩)

/-- **Reading the escape of a character gives its code.** -/
theorem readCodes_escape (c : Char) (rest : List Char) :
    readCodes (escape c ++ rest) =
      (readCodes rest).map fun (codes, r) ↦ (c.toNat :: codes, r) := by
  obtain ⟨e, he, hne, hshort⟩ | ⟨hcontrol, he⟩ | ⟨he, hquote, hslash, hcode⟩ := escape_cases c
  · rw [he, List.cons_append, List.cons_append, List.nil_append, readCodes, hshort]
    · rintro _ _ _ _ _ rfl
      exact absurd rfl hne
  · rw [he]
    simp only [List.cons_append, List.nil_append, readCodes, read?_hex_of_lt hcontrol]
  · rw [he, List.cons_append, List.nil_append, readCodes, if_neg (by simp [hslash, hcode])]
    · rintro rfl
      exact hquote rfl
    · rintro _ _ _ _ _ rfl
      exact absurd rfl hslash
    · rintro _ _ rfl
      exact absurd rfl hslash

theorem readCodes_escaped (chars rest : List Char) :
    readCodes (chars.flatMap escape ++ '"' :: rest) = some (chars.map Char.toNat, rest) := by
  induction chars with
  | nil => rfl
  | cons c chars ih =>
    rw [List.flatMap_cons, List.append_assoc, readCodes_escape, ih, Option.map_some, List.map_cons]

/-- The code of a character is no surrogate. -/
theorem isSurrogate_toNat (c : Char) :
    isHighSurrogate c.toNat = false ∧ isLowSurrogate c.toNat = false := by
  have hvalid : c.toNat < 0xD800 ∨ 0xDFFF < c.toNat ∧ c.toNat < 0x110000 := c.valid
  simp only [isHighSurrogate, isLowSurrogate, Bool.and_eq_false_iff, decide_eq_false_iff_not]
  omega

theorem charsOfCodes_map_toNat (chars : List Char) :
    charsOfCodes (chars.map Char.toNat) = some chars := by
  induction chars with
  | nil => rfl
  | cons c chars ih =>
    obtain ⟨hhigh, hlow⟩ := isSurrogate_toNat c
    cases chars with
    | nil => simp [charsOfCodes, hhigh, hlow]
    | cons d chars =>
      rw [List.map_cons, List.map_cons, charsOfCodes]
      rw [List.map_cons] at ih
      simp [hhigh, hlow, ih]

/-! ## Numerals -/

/-- A text that cannot be taken for more of a numeral that stands before it. -/
def Delimits (rest : List Char) : Prop :=
  ∀ c ∈ rest.head?, c.isDigit = false ∧ c ≠ '.' ∧ c ≠ 'e' ∧ c ≠ 'E'

theorem delimits_nil : Delimits [] := by
  simp [Delimits]

theorem delimits_cons {c : Char} {rest : List Char} :
    Delimits (c :: rest) ↔ c.isDigit = false ∧ c ≠ '.' ∧ c ≠ 'e' ∧ c ≠ 'E' := by
  simp [Delimits]

theorem readDigits?_append {ds rest : List Char} (hne : ds ≠ [])
    (hds : ∀ c ∈ ds, c.isDigit = true) (hrest : ∀ c ∈ rest.head?, c.isDigit = false) :
    readDigits? (ds ++ rest) = some (ds, rest) := by
  have hend : rest.takeWhile Char.isDigit = [] ∧ rest.dropWhile Char.isDigit = rest := by
    cases rest with
    | nil => exact ⟨rfl, rfl⟩
    | cons c rest =>
      have hc : c.isDigit = false := hrest c rfl
      simp [hc]
  simp only [readDigits?, List.takeWhile_append_of_pos hds, List.dropWhile_append_of_pos hds, hend,
    List.append_nil, if_neg hne]

/-- The text of an exponent. -/
def exponentText : Option Exponent → List Char
  | none => []
  | some e => 'e' :: (e.sign.text ++ e.digits)

/-- The text of a fraction. -/
def fractionText (fraction : List Char) : List Char :=
  if fraction = [] then [] else '.' :: fraction

end Token

/-- What a numeral in a JSON text is like. -/
structure Numeral.WellFormed (n : Numeral) : Prop where
  whole_ne_nil : n.whole ≠ []
  whole_digits : ∀ c ∈ n.whole, c.isDigit = true
  /-- Only zero itself starts with a zero. -/
  whole_zero : n.whole.head? = some '0' → n.whole.length = 1
  fraction_digits : ∀ c ∈ n.fraction, c.isDigit = true
  exponent_digits : ∀ e ∈ n.exponent, e.digits ≠ [] ∧ ∀ c ∈ e.digits, c.isDigit = true

namespace Token

theorem text_numeral (n : Numeral) :
    n.text = (if n.negative then ['-'] else []) ++
      (n.whole ++ (fractionText n.fraction ++ exponentText n.exponent)) := by
  rw [Numeral.text, List.append_assoc, List.append_assoc]
  rfl

/-- Behind the digits of a numeral stands no digit and, if it has no fraction, no point. -/
theorem head?_exponentText (exponent : Option Exponent) {rest : List Char} (hrest : Delimits rest) :
    ∀ c ∈ (exponentText exponent ++ rest).head?, c.isDigit = false ∧ c ≠ '.' := by
  intro c hc
  cases exponent with
  | none => exact ⟨(hrest c hc).1, (hrest c hc).2.1⟩
  | some e =>
    obtain rfl : 'e' = c := Option.some_inj.1 hc
    decide

theorem readExponent?_text {exponent : Option Exponent} {rest : List Char} (hrest : Delimits rest)
    (hdigits : ∀ e ∈ exponent, e.digits ≠ [] ∧ ∀ c ∈ e.digits, c.isDigit = true) :
    readExponent? (exponentText exponent ++ rest) = some (exponent, rest) := by
  have hend : ∀ c ∈ rest.head?, c.isDigit = false := fun c hc ↦ (hrest c hc).1
  cases exponent with
  | none =>
    cases rest with
    | nil => rfl
    | cons c rest =>
      obtain ⟨-, -, he, hE⟩ := delimits_cons.1 hrest
      simp [exponentText, readExponent?, he, hE]
  | some e =>
    obtain ⟨sign, ds⟩ := e
    obtain ⟨hne, hds⟩ := hdigits _ rfl
    have hread := readDigits?_append hne hds hend
    cases sign with
    | plus => simp [exponentText, readExponent?, ExponentSign.text, hread]
    | minus => simp [exponentText, readExponent?, ExponentSign.text, hread]
    | none =>
      -- the first digit is not taken for a sign
      obtain ⟨d, ds, rfl⟩ := List.exists_cons_of_ne_nil hne
      have hd : d.isDigit = true := hds d List.mem_cons_self
      have hplus : d ≠ '+' := by rintro rfl; exact absurd hd (by decide)
      have hminus : d ≠ '-' := by rintro rfl; exact absurd hd (by decide)
      simp only [exponentText, readExponent?, ExponentSign.text, List.nil_append, List.cons_append]
        at hread ⊢
      simp [hplus, hminus, hread]

/-- A fraction is read after its point, or there is no point.  No digit stands in its place. -/
theorem fractionText_cases {fraction after : List Char}
    (hdigits : ∀ c ∈ fraction, c.isDigit = true)
    (hafter : ∀ c ∈ after.head?, c.isDigit = false ∧ c ≠ '.') :
    ((∃ r, fractionText fraction ++ after = '.' :: r ∧ readDigits? r = some (fraction, after)) ∨
      fraction = [] ∧ fractionText fraction ++ after = after ∧
        ∀ r, fractionText fraction ++ after ≠ '.' :: r) ∧
      ∀ c ∈ (fractionText fraction ++ after).head?, c.isDigit = false := by
  by_cases hnone : fraction = []
  · subst hnone
    refine ⟨.inr ⟨rfl, rfl, ?_⟩, fun c hc ↦ (hafter c hc).1⟩
    rintro r (rfl : after = '.' :: r)
    exact (hafter '.' rfl).2 rfl
  · rw [fractionText, if_neg hnone]
    refine ⟨.inl ⟨fraction ++ after, rfl, ?_⟩, ?_⟩
    · exact readDigits?_append hnone hdigits fun c hc ↦ (hafter c hc).1
    · rintro c ⟨⟩
      decide

/-- A numeral is read part by part, after a minus sign if there is one. -/
theorem readNumeral?_of_parts {negative : Bool} {whole fraction tail after rest : List Char}
    {exponent : Option Exponent} (hsign : ∀ r, whole ++ tail ≠ '-' :: r)
    (hwhole : readDigits? (whole ++ tail) = some (whole, tail))
    (hzero : ¬(whole.head? = some '0' ∧ whole.length ≠ 1))
    (hfraction : (∃ r, tail = '.' :: r ∧ readDigits? r = some (fraction, after)) ∨
      fraction = [] ∧ tail = after ∧ ∀ r, tail ≠ '.' :: r)
    (hexponent : readExponent? after = some (exponent, rest)) :
    readNumeral? ((if negative then ['-'] else []) ++ (whole ++ tail)) =
      some (⟨negative, whole, fraction, exponent⟩, rest) := by
  rcases hfraction with ⟨r, rfl, hr⟩ | ⟨rfl, rfl, hpoint⟩
  · cases negative <;> simp [readNumeral?, hwhole, hzero, hr, hexponent]
  · cases negative <;> simp [readNumeral?, hwhole, hzero, hexponent]

theorem readNumeral?_text {n : Numeral} (hn : n.WellFormed) {rest : List Char}
    (hrest : Delimits rest) : readNumeral? (n.text ++ rest) = some (n, rest) := by
  obtain ⟨hfraction, hhead⟩ :=
    fractionText_cases hn.fraction_digits (head?_exponentText n.exponent hrest)
  have hwhole := readDigits?_append hn.whole_ne_nil hn.whole_digits hhead
  have hexponent := readExponent?_text hrest hn.exponent_digits
  -- what stands behind the sign is a digit
  have hsign : ∀ r, n.whole ++ (fractionText n.fraction ++ (exponentText n.exponent ++ rest)) ≠
      '-' :: r := by
    intro r hr
    obtain ⟨d, ds, hdigits⟩ := List.exists_cons_of_ne_nil hn.whole_ne_nil
    rw [hdigits, List.cons_append, List.cons.injEq] at hr
    have hd := hn.whole_digits d (hdigits ▸ List.mem_cons_self)
    rw [hr.1] at hd
    exact absurd hd (by decide)
  rw [text_numeral, List.append_assoc, List.append_assoc, List.append_assoc]
  exact readNumeral?_of_parts hsign hwhole (fun h ↦ h.2 (hn.whole_zero h.1)) hfraction hexponent

/-- A numeral starts with a digit or a minus sign. -/
theorem exists_text_numeral {n : Numeral} (hn : n.WellFormed) :
    ∃ c cs, n.text = c :: cs ∧ (c.isDigit = true ∨ c = '-') := by
  obtain ⟨d, ds, hwhole⟩ := List.exists_cons_of_ne_nil hn.whole_ne_nil
  rw [text_numeral, hwhole]
  cases n.negative with
  | true => exact ⟨'-', _, rfl, .inr rfl⟩
  | false => exact ⟨d, _, rfl, .inl (hn.whole_digits d (hwhole ▸ List.mem_cons_self))⟩

/-- No other token starts like a numeral. -/
theorem read?_numeral {c : Char} (rest : List Char) (hc : c.isDigit = true ∨ c = '-') :
    read? (c :: rest) = (readNumeral? (c :: rest)).map fun (n, r) ↦ (number n, r) := by
  have hhead : c ∉ ['[', ']', '{', '}', ',', ':', '"', 'n', 't', 'f'] := by
    intro hmem
    simp only [List.mem_cons, List.not_mem_nil, or_false] at hmem
    rcases hmem with rfl | rfl | rfl | rfl | rfl | rfl | rfl | rfl | rfl | rfl <;>
      exact absurd hc (by decide)
  rw [read?.eq_def]
  split <;> simp_all

/-! ## All tokens -/

/-- Whether a token is such as a JSON text can hold. -/
def WellFormed : Token → Prop
  | number n => n.WellFormed
  | _ => True

/-- Whether a token ends where the text after it starts. -/
def EndsBefore : Token → List Char → Prop
  | number _, rest => Delimits rest
  | _, _ => True

/-- **A token is read back**, and the text after it is left. -/
theorem read?_text {t : Token} (ht : t.WellFormed) {rest : List Char} (hrest : t.EndsBefore rest) :
    read? (t.text ++ rest) = some (t, rest) := by
  cases t with
  | null | openArray | closeArray | openObject | closeObject | comma | colon => rfl
  | bool b => cases b <;> rfl
  | string s =>
    cases s with
    | none => rfl
    | some s =>
      rw [text, quote, List.cons_append, List.append_assoc, List.singleton_append, read?,
        readCodes_escaped]
      simp only [Option.map_some, charsOfCodes_map_toNat, String.ofList_toList]
  | number n =>
    obtain ⟨c, cs, htext, hc⟩ := exists_text_numeral ht
    have hread := readNumeral?_text ht hrest
    rw [text, htext, List.cons_append] at *
    rw [read?_numeral _ hc, hread, Option.map_some]

/-- A token has a text, and it does not start with white space. -/
theorem exists_text {t : Token} (ht : t.WellFormed) :
    ∃ c cs, t.text = c :: cs ∧ isSpace c = false := by
  cases t with
  | null | openArray | closeArray | openObject | closeObject | comma | colon =>
    exact ⟨_, _, rfl, rfl⟩
  | bool b => cases b <;> exact ⟨_, _, rfl, rfl⟩
  | string s => cases s <;> exact ⟨_, _, rfl, rfl⟩
  | number n =>
    obtain ⟨c, cs, htext, hc⟩ := exists_text_numeral ht
    refine ⟨c, cs, htext, ?_⟩
    have hspace : ¬(((c = ' ' ∨ c = '\n') ∨ c = '\t') ∨ c = '\r') := by
      rintro (((rfl | rfl) | rfl) | rfl) <;> exact absurd hc (by decide)
    simpa [isSpace] using hspace

/-! ## Whole texts -/

/-- A text spells tokens: it consists of theirs, with white space between them. -/
inductive Spells : List Char → List Token → Prop
  | done : Spells [] []
  | space {c : Char} {text : List Char} {tokens : List Token} :
    isSpace c = true → Spells text tokens → Spells (c :: text) tokens
  | token {t : Token} {text : List Char} {tokens : List Token} :
    t.EndsBefore text → Spells text tokens → Spells (t.text ++ text) (t :: tokens)

/-- **The tokens of a text are those that it spells.** -/
theorem scan_of_spells {text : List Char} {tokens : List Token} (h : Spells text tokens)
    (hwell : ∀ t ∈ tokens, t.WellFormed) : scan text = some tokens := by
  -- every step takes a character at least, so that fuel for all characters is enough
  have hwithin : ∀ fuel, text.length ≤ fuel → scanWithin fuel text = some tokens := by
    induction h with
    | done => intro fuel _; cases fuel <;> rfl
    | space hc _ ih =>
      intro fuel hfuel
      obtain ⟨fuel, rfl⟩ := Nat.exists_eq_add_of_le' (Nat.le_trans (Nat.le_add_left 1 _) hfuel)
      rw [scanWithin, if_pos hc]
      exact ih hwell fuel (Nat.le_of_succ_le_succ hfuel)
    | @token t text tokens hend _ ih =>
      intro fuel hfuel
      have ht := hwell t List.mem_cons_self
      have hread := read?_text ht hend
      obtain ⟨c, cs, htext, hc⟩ := exists_text ht
      rw [htext, List.cons_append] at hread hfuel ⊢
      obtain ⟨fuel, rfl⟩ := Nat.exists_eq_add_of_le' (Nat.le_trans (Nat.le_add_left 1 _) hfuel)
      have hrest : text.length ≤ fuel := by
        rw [List.length_cons, List.length_append] at hfuel
        omega
      have htokens := ih (fun t ht ↦ hwell t (List.mem_cons_of_mem _ ht)) fuel hrest
      rw [scanWithin, hc, if_neg Bool.false_ne_true, hread]
      simp only [htokens, Option.map_some]
  exact hwithin text.length (Nat.le_refl _)

end Token

end VirtualTables
