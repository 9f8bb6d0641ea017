import VirtualTables.Proofs.Json.RoundTrip

/-!
# Reading compact values back

Without white space a text is nothing but the tokens of its value, one behind the other.  That they
can still be told apart is due to what stands behind a number: a comma or a bracket, which is no
part of one (`Token.Delimits`).  So the argument is that of the pretty layout, and
`Json.parse?_compact` is read off the same tokens.
-/

namespace VirtualTables
namespace Json

open Token

variable {rest : List Char} {ts : List Token}

theorem delimits_compactItems (items : List Json) (rest : List Char) :
    Delimits (compactItems items ++ rest) := by
  cases items <;> rw [compactItems] <;> exact delimits_cons.2 (by decide)

theorem delimits_compactMembers (members : List (Option String × Json)) (rest : List Char) :
    Delimits (compactMembers members ++ rest) := by
  cases members <;> rw [compactMembers] <;> exact delimits_cons.2 (by decide)

/-- Before anything that delimits it, a value is written as its tokens alone. -/
def WritesCompactly (j : Json) : Prop :=
  ∀ {rest : List Char} {ts : List Token}, Delimits rest → Spells rest ts →
    Spells (j.compactChars ++ rest) (j.tokens ++ ts)

theorem spells_compactItems {items : List Json} (hitems : ∀ j ∈ items, j.WritesCompactly)
    (h : Spells rest ts) : Spells (compactItems items ++ rest) (itemTokens items ++ ts) := by
  induction items with
  | nil =>
    rw [compactItems, itemTokens]
    exact .token (t := .closeArray) trivial h
  | cons j items ih =>
    rw [List.forall_mem_cons] at hitems
    rw [compactItems, itemTokens]
    simp only [List.cons_append, List.append_assoc]
    have hitem := hitems.1 (delimits_compactItems items rest) (ih hitems.2)
    exact .token (t := .comma) trivial hitem

theorem spells_compactMember (name : Option String) {j : Json} (hj : j.WritesCompactly)
    (hrest : Delimits rest) (h : Spells rest ts) :
    Spells (quote name ++ ':' :: (j.compactChars ++ rest))
      (.string name :: .colon :: (j.tokens ++ ts)) := by
  have hvalue := hj hrest h
  exact .token (t := .string name) trivial (.token (t := .colon) trivial hvalue)

theorem spells_compactMembers {members : List (Option String × Json)}
    (hmembers : ∀ m ∈ members, m.2.WritesCompactly) (h : Spells rest ts) :
    Spells (compactMembers members ++ rest) (memberTokens members ++ ts) := by
  induction members with
  | nil =>
    rw [compactMembers, memberTokens]
    exact .token (t := .closeObject) trivial h
  | cons m members ih =>
    obtain ⟨name, j⟩ := m
    rw [List.forall_mem_cons] at hmembers
    rw [compactMembers, memberTokens]
    simp only [List.cons_append, List.append_assoc]
    have hj : j.WritesCompactly := hmembers.1
    have hmember := spells_compactMember name hj (delimits_compactMembers members rest)
      (ih hmembers.2)
    exact .token (t := .comma) trivial hmember

/-- **A value is written as its tokens**, with nothing between them. -/
theorem spells_compactChars (j : Json) : j.WritesCompactly := by
  induction j using induction with
  | null | bool b | string s =>
    intro rest ts _ h
    rw [compactChars, tokens]
    exact .token trivial h
  | number n =>
    intro rest ts hrest h
    rw [compactChars, tokens]
    exact .token hrest h
  | array items hitems =>
    intro rest ts _ h
    cases items with
    | nil =>
      rw [compactChars, tokens]
      exact .token (t := .openArray) trivial (.token (t := .closeArray) trivial h)
    | cons j items =>
      rw [List.forall_mem_cons] at hitems
      rw [compactChars, tokens]
      simp only [List.cons_append, List.append_assoc]
      have hitem := hitems.1 (delimits_compactItems items rest) (spells_compactItems hitems.2 h)
      exact .token (t := .openArray) trivial hitem
  | object members hmembers =>
    intro rest ts _ h
    cases members with
    | nil =>
      rw [compactChars, tokens]
      exact .token (t := .openObject) trivial (.token (t := .closeObject) trivial h)
    | cons m members =>
      obtain ⟨name, j⟩ := m
      rw [List.forall_mem_cons] at hmembers
      rw [compactChars, tokens]
      simp only [List.cons_append, List.append_assoc]
      have hj : j.WritesCompactly := hmembers.1
      have hmember := spells_compactMember name hj (delimits_compactMembers members rest)
        (spells_compactMembers hmembers.2 h)
      exact .token (t := .openObject) trivial hmember

/-- From its first item on, an array is its items with commas between them, and a bracket. -/
theorem compactChars_append_compactItems (j : Json) (items : List Json) :
    j.compactChars ++ compactItems items =
      [','].intercalate ((j :: items).map compactChars) ++ [']'] := by
  induction items generalizing j with
  | nil => rw [compactItems, List.map_singleton, List.intercalate_singleton]
  | cons i items ih =>
    rw [compactItems, ih i]
    simp only [List.map_cons, List.intercalate_cons_cons, List.append_assoc,
      List.cons_append, List.nil_append]

theorem compactChars_array (items : List Json) :
    (array items).compactChars = '[' :: ([','].intercalate (items.map compactChars) ++ [']']) := by
  cases items with
  | nil => rw [compactChars]; rfl
  | cons j items => rw [compactChars, compactChars_append_compactItems]

/-- **A value whose numbers are numerals is read back** from its compact text. -/
theorem parse?_compact {j : Json} (hj : j.WellFormed) : parse? j.compact = some j := by
  have hspells := spells_compactChars j Token.delimits_nil .done
  rw [List.append_nil, List.append_nil] at hspells
  exact parse?_of_spells hspells hj

end Json
end VirtualTables
