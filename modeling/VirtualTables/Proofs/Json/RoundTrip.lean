import VirtualTables.Json.Parser
import VirtualTables.Json.Printer
import VirtualTables.Proofs.Json.Token

/-!
# Reading written values back

Between a value and its text stand the tokens of the value (`Json.tokens`).  Writing only puts white
space between them (`Json.spells_prettyChars`), and reading groups them into the value again
(`Json.readValue_tokens`).  Both are proved by induction over the value, with anything that may
follow it left open, and come together in `Json.parse?_pretty`.

A value is read back whatever texts are in it; of its numbers it is asked that they are numerals
(`Json.WellFormed`).
-/

namespace VirtualTables
namespace Json

/-- A property of all values, if it passes from the items of an array and the members of an object
to the whole. -/
theorem induction {P : Json → Prop} (null : P .null) (bool : ∀ b, P (.bool b))
    (number : ∀ n, P (.number n)) (string : ∀ s, P (.string s))
    (array : ∀ items, (∀ j ∈ items, P j) → P (.array items))
    (object : ∀ members, (∀ m ∈ members, P m.2) → P (.object members)) (j : Json) : P j :=
  @Json.rec P (fun items ↦ ∀ j ∈ items, P j) (fun members ↦ ∀ m ∈ members, P m.2) (fun m ↦ P m.2)
    null bool number string array object
    (fun _ h ↦ absurd h List.not_mem_nil)
    (fun _ _ hj hitems ↦ List.forall_mem_cons.2 ⟨hj, hitems⟩)
    (fun _ h ↦ absurd h List.not_mem_nil)
    (fun _ _ hm hmembers ↦ List.forall_mem_cons.2 ⟨hm, hmembers⟩)
    (fun _ _ hj ↦ hj) j

/-! ## The tokens of a value -/

mutual

/-- The tokens that a value is written with. -/
def tokens : Json → List Token
  | null => [.null]
  | bool b => [.bool b]
  | number n => [.number n]
  | string s => [.string s]
  | array [] => [.openArray, .closeArray]
  | array (j :: items) => .openArray :: (tokens j ++ itemTokens items)
  | object [] => [.openObject, .closeObject]
  | object ((name, j) :: members) =>
    .openObject :: .string name :: .colon :: (tokens j ++ memberTokens members)

/-- The tokens of the items after the first, and of the end of the array. -/
def itemTokens : List Json → List Token
  | [] => [.closeArray]
  | j :: items => .comma :: (tokens j ++ itemTokens items)

/-- The tokens of the members after the first, and of the end of the object. -/
def memberTokens : List (Option String × Json) → List Token
  | [] => [.closeObject]
  | (name, j) :: members =>
    .comma :: .string name :: .colon :: (tokens j ++ memberTokens members)

end

/-- A value whose numbers are numerals. -/
def WellFormed (j : Json) : Prop :=
  ∀ t ∈ j.tokens, t.WellFormed

theorem wellFormed_text (s : String) : (text s).WellFormed := by
  simp [WellFormed, text, tokens, Token.WellFormed]

theorem wellFormed_textOrNull (s : Option String) : (textOrNull s).WellFormed := by
  cases s with
  | none => simp [WellFormed, textOrNull, tokens, Token.WellFormed]
  | some s => exact wellFormed_text s

theorem wellFormed_itemTokens {items : List Json} :
    (∀ t ∈ itemTokens items, t.WellFormed) ↔ ∀ j ∈ items, j.WellFormed := by
  induction items with
  | nil => simp [itemTokens, Token.WellFormed]
  | cons j items ih =>
    rw [itemTokens, List.forall_mem_cons, List.forall_mem_append, List.forall_mem_cons, ih]
    exact and_iff_right trivial

theorem wellFormed_array {items : List Json} :
    (array items).WellFormed ↔ ∀ j ∈ items, j.WellFormed := by
  cases items with
  | nil => simp [WellFormed, tokens, Token.WellFormed]
  | cons j items =>
    rw [WellFormed, tokens, List.forall_mem_cons, List.forall_mem_append, wellFormed_itemTokens,
      List.forall_mem_cons]
    exact and_iff_right trivial

theorem wellFormed_memberTokens {members : List (Option String × Json)} :
    (∀ t ∈ memberTokens members, t.WellFormed) ↔ ∀ m ∈ members, m.2.WellFormed := by
  induction members with
  | nil => simp [memberTokens, Token.WellFormed]
  | cons m members ih =>
    rw [memberTokens, List.forall_mem_cons, List.forall_mem_cons, List.forall_mem_cons,
      List.forall_mem_append, List.forall_mem_cons, ih]
    exact ⟨fun h ↦ h.2.2.2, fun h ↦ ⟨trivial, trivial, trivial, h⟩⟩

theorem wellFormed_object {members : List (Option String × Json)} :
    (object members).WellFormed ↔ ∀ m ∈ members, m.2.WellFormed := by
  cases members with
  | nil => simp [WellFormed, tokens, Token.WellFormed]
  | cons m members =>
    rw [WellFormed, tokens, List.forall_mem_cons, List.forall_mem_cons, List.forall_mem_cons,
      List.forall_mem_append, wellFormed_memberTokens, List.forall_mem_cons]
    exact ⟨fun h ↦ h.2.2.2, fun h ↦ ⟨trivial, trivial, trivial, h⟩⟩

/-- No value starts with the end of an array. -/
theorem exists_tokens (j : Json) : ∃ t ts, j.tokens = t :: ts ∧ t ≠ .closeArray := by
  cases j with
  | array items => cases items <;> exact ⟨_, _, by rw [tokens], by decide⟩
  | object members => cases members <;> exact ⟨_, _, by rw [tokens], by decide⟩
  | _ => exact ⟨_, _, by rw [tokens], by simp⟩

/-! ## Writing -/

section

open Token

variable {rest : List Char} {ts : List Token}

theorem spells_newLine (level : Nat) (h : Spells rest ts) : Spells (newLine level ++ rest) ts := by
  have hblanks (n : Nat) : Spells (List.replicate n ' ' ++ rest) ts := by
    induction n with
    | zero => exact h
    | succ n ih => exact .space rfl ih
  exact .space rfl (hblanks (2 * level))

theorem delimits_prettyItems (level : Nat) (items : List Json) (rest : List Char) :
    Delimits (prettyItems level items ++ rest) := by
  cases items <;> rw [prettyItems] <;> exact delimits_cons.2 (by decide)

theorem delimits_prettyMembers (level : Nat) (members : List (Option String × Json))
    (rest : List Char) : Delimits (prettyMembers level members ++ rest) := by
  cases members <;> rw [prettyMembers] <;> exact delimits_cons.2 (by decide)

/-- Before anything that delimits it, a value is written as its tokens with white space. -/
def WritesTokens (j : Json) : Prop :=
  ∀ (level : Nat) {rest : List Char} {ts : List Token}, Delimits rest → Spells rest ts →
    Spells (j.prettyChars level ++ rest) (j.tokens ++ ts)

theorem spells_prettyItems (level : Nat) {items : List Json} (hitems : ∀ j ∈ items, j.WritesTokens)
    (h : Spells rest ts) : Spells (prettyItems level items ++ rest) (itemTokens items ++ ts) := by
  induction items with
  | nil =>
    rw [prettyItems, itemTokens, List.append_assoc]
    exact spells_newLine level (.token (t := .closeArray) trivial h)
  | cons j items ih =>
    rw [List.forall_mem_cons] at hitems
    rw [prettyItems, itemTokens]
    simp only [List.cons_append, List.append_assoc]
    have hitem := hitems.1 (level + 1) (delimits_prettyItems level items rest) (ih hitems.2)
    exact .token (t := .comma) trivial (spells_newLine _ hitem)

theorem spells_member (level : Nat) (name : Option String) {j : Json} (hj : j.WritesTokens)
    (hrest : Delimits rest) (h : Spells rest ts) :
    Spells (quote name ++ ':' :: ' ' :: (j.prettyChars level ++ rest))
      (.string name :: .colon :: (j.tokens ++ ts)) := by
  have hvalue := hj level hrest h
  exact .token (t := .string name) trivial (.token (t := .colon) trivial (.space rfl hvalue))

theorem spells_prettyMembers (level : Nat) {members : List (Option String × Json)}
    (hmembers : ∀ m ∈ members, m.2.WritesTokens) (h : Spells rest ts) :
    Spells (prettyMembers level members ++ rest) (memberTokens members ++ ts) := by
  induction members with
  | nil =>
    rw [prettyMembers, memberTokens, List.append_assoc]
    exact spells_newLine level (.token (t := .closeObject) trivial h)
  | cons m members ih =>
    obtain ⟨name, j⟩ := m
    rw [List.forall_mem_cons] at hmembers
    rw [prettyMembers, memberTokens]
    simp only [List.cons_append, List.append_assoc]
    have hj : j.WritesTokens := hmembers.1
    have hmember := spells_member (level + 1) name hj (delimits_prettyMembers level members rest)
      (ih hmembers.2)
    exact .token (t := .comma) trivial (spells_newLine _ hmember)

/-- **A value is written as its tokens**, with white space between them. -/
theorem spells_prettyChars (j : Json) : j.WritesTokens := by
  induction j using induction with
  | null | bool b | string s =>
    intro level rest ts _ h
    rw [prettyChars, tokens]
    exact .token trivial h
  | number n =>
    intro level rest ts hrest h
    rw [prettyChars, tokens]
    exact .token hrest h
  | array items hitems =>
    intro level rest ts _ h
    cases items with
    | nil =>
      rw [prettyChars, tokens]
      exact .token (t := .openArray) trivial (.token (t := .closeArray) trivial h)
    | cons j items =>
      rw [List.forall_mem_cons] at hitems
      rw [prettyChars, tokens]
      simp only [List.cons_append, List.append_assoc]
      have hitem := hitems.1 (level + 1) (delimits_prettyItems level items rest)
        (spells_prettyItems level hitems.2 h)
      exact .token (t := .openArray) trivial (spells_newLine _ hitem)
  | object members hmembers =>
    intro level rest ts _ h
    cases members with
    | nil =>
      rw [prettyChars, tokens]
      exact .token (t := .openObject) trivial (.token (t := .closeObject) trivial h)
    | cons m members =>
      obtain ⟨name, j⟩ := m
      rw [List.forall_mem_cons] at hmembers
      rw [prettyChars, tokens]
      simp only [List.cons_append, List.append_assoc]
      have hj : j.WritesTokens := hmembers.1
      have hmember := spells_member (level + 1) name hj (delimits_prettyMembers level members rest)
        (spells_prettyMembers level hmembers.2 h)
      exact .token (t := .openObject) trivial (spells_newLine _ hmember)

end

/-! ## Reading -/

/-- The tokens of a value are grouped into the value, whatever comes after them. -/
def ReadsTokens (j : Json) : Prop :=
  ∀ (fuel : Nat) (rest : List Token), 2 * j.tokens.length ≤ fuel →
    readValue fuel (j.tokens ++ rest) = some (j, rest)

theorem readItems_tokens {j : Json} {items : List Json} (hj : j.ReadsTokens)
    (hitems : ∀ i ∈ items, i.ReadsTokens) (fuel : Nat) (rest : List Token)
    (hfuel : 2 * (j.tokens.length + (itemTokens items).length) < fuel) :
    readItems fuel (j.tokens ++ (itemTokens items ++ rest)) = some (j :: items, rest) := by
  induction items generalizing j fuel with
  | nil =>
    obtain ⟨fuel, rfl⟩ := Nat.exists_eq_add_one_of_ne_zero (Nat.ne_zero_of_lt hfuel)
    rw [readItems, hj fuel _ (by omega), itemTokens]
    rfl
  | cons i items ih =>
    obtain ⟨fuel, rfl⟩ := Nat.exists_eq_add_one_of_ne_zero (Nat.ne_zero_of_lt hfuel)
    rw [List.forall_mem_cons] at hitems
    rw [itemTokens, List.length_cons, List.length_append] at hfuel
    have hrest := ih hitems.1 hitems.2 fuel (by omega)
    rw [readItems, hj fuel _ (by omega), itemTokens, List.cons_append, List.append_assoc]
    simp only [hrest, Option.map_some]

theorem readMembers_tokens (name : Option String) {j : Json}
    {members : List (Option String × Json)} (hj : j.ReadsTokens)
    (hmembers : ∀ m ∈ members, m.2.ReadsTokens) (fuel : Nat) (rest : List Token)
    (hfuel : 2 * (j.tokens.length + (memberTokens members).length) < fuel) :
    readMembers fuel (.string name :: .colon :: (j.tokens ++ (memberTokens members ++ rest))) =
      some ((name, j) :: members, rest) := by
  induction members generalizing name j fuel with
  | nil =>
    obtain ⟨fuel, rfl⟩ := Nat.exists_eq_add_one_of_ne_zero (Nat.ne_zero_of_lt hfuel)
    rw [readMembers, hj fuel _ (by omega), memberTokens]
    rfl
  | cons m members ih =>
    obtain ⟨name', i⟩ := m
    obtain ⟨fuel, rfl⟩ := Nat.exists_eq_add_one_of_ne_zero (Nat.ne_zero_of_lt hfuel)
    rw [List.forall_mem_cons] at hmembers
    have hi : i.ReadsTokens := hmembers.1
    simp only [memberTokens, List.length_cons, List.length_append] at hfuel
    have hrest := ih name' hi hmembers.2 fuel (by omega)
    rw [readMembers, hj fuel _ (by omega), memberTokens, List.cons_append, List.cons_append,
      List.cons_append, List.append_assoc]
    simp only [hrest, Option.map_some]

/-- An array that has items is read item by item: none of them starts with the end of the array. -/
theorem readValue_openArray (fuel : Nat) (j : Json) (rest : List Token) :
    readValue (fuel + 1) (.openArray :: (j.tokens ++ rest)) =
      (readItems fuel (j.tokens ++ rest)).map fun (items, r) ↦ (.array items, r) := by
  obtain ⟨t, ts, htokens, ht⟩ := j.exists_tokens
  rw [htokens, List.cons_append, readValue]
  rintro rest ⟨⟩
  exact ht rfl

/-- **The tokens of a value are grouped into the value.** -/
theorem readValue_tokens (j : Json) : j.ReadsTokens := by
  induction j using induction with
  | null | bool b | number n | string s =>
    intro fuel rest hfuel
    obtain ⟨fuel, rfl⟩ := Nat.exists_eq_add_one_of_ne_zero (Nat.ne_zero_of_lt hfuel)
    rw [tokens, List.singleton_append, readValue]
  | array items hitems =>
    intro fuel rest hfuel
    cases items with
    | nil =>
      obtain ⟨fuel, rfl⟩ := Nat.exists_eq_add_one_of_ne_zero (Nat.ne_zero_of_lt hfuel)
      rw [tokens, List.cons_append, List.singleton_append, readValue]
    | cons j items =>
      rw [List.forall_mem_cons] at hitems
      rw [tokens, List.length_cons, List.length_append] at hfuel
      obtain ⟨fuel, rfl⟩ := Nat.exists_eq_add_one_of_ne_zero (Nat.ne_zero_of_lt hfuel)
      rw [tokens, List.cons_append, List.append_assoc, readValue_openArray,
        readItems_tokens hitems.1 hitems.2 fuel rest (by omega), Option.map_some]
  | object members hmembers =>
    intro fuel rest hfuel
    cases members with
    | nil =>
      obtain ⟨fuel, rfl⟩ := Nat.exists_eq_add_one_of_ne_zero (Nat.ne_zero_of_lt hfuel)
      rw [tokens, List.cons_append, List.singleton_append, readValue]
    | cons m members =>
      obtain ⟨name, j⟩ := m
      rw [List.forall_mem_cons] at hmembers
      have hj : j.ReadsTokens := hmembers.1
      simp only [tokens, List.length_cons, List.length_append] at hfuel
      obtain ⟨fuel, rfl⟩ := Nat.exists_eq_add_one_of_ne_zero (Nat.ne_zero_of_lt hfuel)
      have hread := readMembers_tokens name hj hmembers.2 fuel rest (by omega)
      simp only [tokens, List.cons_append, List.append_assoc]
      rw [readValue, hread, Option.map_some]
      rintro rest ⟨⟩

theorem ofTokens?_tokens (j : Json) : ofTokens? j.tokens = some j := by
  have hread := readValue_tokens j (2 * j.tokens.length) [] (Nat.le_refl _)
  rw [List.append_nil] at hread
  rw [ofTokens?, hread]

/-- **A text that spells the tokens of a value is read as the value.** -/
theorem parse?_of_spells {text : List Char} {j : Json} (hspells : Token.Spells text j.tokens)
    (hj : j.WellFormed) : parse? (String.ofList text) = some j := by
  rw [parse?, String.toList_ofList, Token.scan_of_spells hspells hj, Option.bind_some,
    ofTokens?_tokens]

/-- **A value whose numbers are numerals is read back** from the text it is written as. -/
theorem parse?_pretty {j : Json} (hj : j.WellFormed) : parse? j.pretty = some j := by
  have hspells := spells_prettyChars j 0 Token.delimits_nil .done
  rw [List.append_nil, List.append_nil] at hspells
  exact parse?_of_spells hspells hj

end Json
end VirtualTables
