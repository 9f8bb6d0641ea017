import Mathlib
import VirtualTables.Engine.Pattern

/-!
# What a like pattern matches

An engine reads a text once, from its end, and keeps for every place of the pattern whether the rest
of the pattern matches the rest of the text.  What it finds in this way is said in one line for each
kind of sign in a pattern, and `Pattern.Likes` says just this: `Pattern.like_iff` is soundness and
completeness of the matcher.

A table may want to know where in a list of texts to look for matches.  All it has is the *literal*
part of the pattern, up to the first wildcard: every match starts like it (`Likes.exists_start`),
but as letters of either case are the same, a match need not start with it.  A match without capital
letters does exactly if there are no capitals in the literal part (`Likes.literal_prefix_iff`).
-/

namespace VirtualTables
namespace Pattern

/-- A text matches a like pattern: `%` takes any run of characters and `_` takes one, and any other
sign takes itself, ASCII letters in either case. -/
inductive Likes : List Char → List Char → Prop
  | empty : Likes [] []
  | anyRun {pattern text : List Char} (taken : List Char) (rest : Likes pattern text) :
      Likes ('%' :: pattern) (taken ++ text)
  | anyOne {pattern text : List Char} (c : Char) (rest : Likes pattern text) :
      Likes ('_' :: pattern) (c :: text)
  | same {p c : Char} {pattern text : List Char} (hrun : p ≠ '%') (hone : p ≠ '_')
      (hsame : c.toLower = p.toLower) (rest : Likes pattern text) :
      Likes (p :: pattern) (c :: text)

/-- A run of any characters takes some first part of the text. -/
theorem accepts_anyRun_iff {pieces : List Piece} {text : List Char} :
    accepts (.anyRun :: pieces) text = true ↔
      ∃ taken rest, text = taken ++ rest ∧ accepts pieces rest = true := by
  induction text with
  | nil =>
    rw [accepts_anyRun_empty]
    constructor
    · intro h
      exact ⟨[], [], rfl, h⟩
    · rintro ⟨taken, rest, heq, h⟩
      obtain ⟨-, rfl⟩ := List.append_eq_nil_iff.1 heq.symm
      exact h
  | cons c text ih =>
    rw [accepts_anyRun_cons, Bool.or_eq_true, ih]
    constructor
    · rintro (⟨taken, rest, rfl, h⟩ | h)
      · exact ⟨c :: taken, rest, rfl, h⟩
      · exact ⟨[], c :: text, rfl, h⟩
    · rintro ⟨taken, rest, heq, h⟩
      cases taken with
      | nil => exact .inr (heq ▸ h)
      | cons d taken =>
        obtain ⟨-, rfl⟩ := List.cons.inj heq
        exact .inl ⟨taken, rest, rfl, h⟩

theorem accepts_one_iff {test : Char → Bool} {pieces : List Piece} {text : List Char} :
    accepts (.one test :: pieces) text = true ↔
      ∃ c rest, text = c :: rest ∧ test c = true ∧ accepts pieces rest = true := by
  cases text with
  | nil => simp
  | cons c text =>
    rw [accepts_one_cons, Bool.and_eq_true]
    constructor
    · rintro ⟨htest, h⟩
      exact ⟨c, text, rfl, htest, h⟩
    · rintro ⟨d, rest, heq, htest, h⟩
      obtain ⟨rfl, rfl⟩ := List.cons.inj heq
      exact ⟨htest, h⟩

theorem likes_anyRun_iff {pattern text : List Char} :
    Likes ('%' :: pattern) text ↔ ∃ taken rest, text = taken ++ rest ∧ Likes pattern rest := by
  constructor
  · intro h
    cases h with
    | anyRun taken rest => exact ⟨taken, _, rfl, rest⟩
    | same hrun => exact absurd rfl hrun
  · rintro ⟨taken, rest, rfl, h⟩
    exact .anyRun taken h

theorem likes_anyOne_iff {pattern text : List Char} :
    Likes ('_' :: pattern) text ↔ ∃ c rest, text = c :: rest ∧ Likes pattern rest := by
  constructor
  · intro h
    cases h with
    | anyOne c rest => exact ⟨c, _, rfl, rest⟩
    | same _ hone => exact absurd rfl hone
  · rintro ⟨c, rest, rfl, h⟩
    exact .anyOne c h

theorem likes_same_iff {p : Char} {pattern text : List Char} (hrun : p ≠ '%') (hone : p ≠ '_') :
    Likes (p :: pattern) text ↔
      ∃ c rest, text = c :: rest ∧ c.toLower = p.toLower ∧ Likes pattern rest := by
  constructor
  · intro h
    cases h with
    | anyRun => exact absurd rfl hrun
    | anyOne => exact absurd rfl hone
    | same _ _ hsame rest => exact ⟨_, _, rfl, hsame, rest⟩
  · rintro ⟨c, rest, rfl, hsame, h⟩
    exact .same hrun hone hsame h

/-- **An engine finds what a like pattern means**, by induction on the pattern. -/
theorem like_iff {pattern text : List Char} : like pattern text = true ↔ Likes pattern text := by
  induction pattern generalizing text with
  | nil =>
    rw [like, likePieces, List.map_nil, accepts_no_pieces, List.isEmpty_iff]
    constructor
    · rintro rfl
      exact .empty
    · intro h
      cases h
      rfl
  | cons p pattern ih =>
    by_cases hrun : p = '%'
    · subst hrun
      show accepts (.anyRun :: likePieces pattern) text = true ↔ _
      rw [accepts_anyRun_iff, likes_anyRun_iff]
      simp only [← ih, like]
    · by_cases hone : p = '_'
      · subst hone
        show accepts (.one _ :: likePieces pattern) text = true ↔ _
        rw [accepts_one_iff, likes_anyOne_iff]
        simp only [← ih, like, true_and]
      · have hpieces : likePieces (p :: pattern) =
            .one (fun c ↦ c.toLower = p.toLower) :: likePieces pattern := by
          simp [likePieces, hrun, hone]
        rw [like, hpieces, accepts_one_iff, likes_same_iff hrun hone]
        simp only [← ih, like, decide_eq_true_eq]

/-! ## The literal part -/

/-- The part of a pattern before its first wildcard. -/
def literal (pattern : List Char) : List Char :=
  pattern.takeWhile fun p ↦ p ≠ '%' && p ≠ '_'

/-- Only capital letters have a small letter that is another. -/
theorem toLower_eq_self_iff {c : Char} : c.toLower = c ↔ c.isUpper = false := by
  constructor
  · intro h
    rw [← h]
    exact Char.isUpper_toLower_eq_false c
  · intro h
    exact Char.toLower_eq_of_not_isUpper (by simp [h])

theorem map_toLower_eq_self {text : List Char} (h : ∀ c ∈ text, c.isUpper = false) :
    text.map Char.toLower = text := by
  rw [List.map_congr_left fun c hc ↦ toLower_eq_self_iff.2 (h c hc), List.map_id']

/-- A match starts like the literal part, but for the case of the letters. -/
theorem Likes.exists_start {pattern text : List Char} (h : Likes pattern text) :
    ∃ taken rest, text = taken ++ rest ∧
      taken.map Char.toLower = (literal pattern).map Char.toLower := by
  induction h with
  | empty => exact ⟨[], [], rfl, rfl⟩
  | anyRun taken rest => exact ⟨[], _, rfl, rfl⟩
  | anyOne c rest => exact ⟨[], _, rfl, rfl⟩
  | @same p c pattern text hrun hone hsame rest ih =>
    obtain ⟨taken, left, rfl, htaken⟩ := ih
    have hliteral : literal (p :: pattern) = p :: literal pattern := by
      simp [literal, hrun, hone]
    refine ⟨c :: taken, left, rfl, ?_⟩
    rw [hliteral, List.map_cons, List.map_cons, hsame, htaken]

/-- **A match without capital letters starts with the literal part** exactly if that has none
either. -/
theorem Likes.literal_prefix_iff {pattern text : List Char} (h : Likes pattern text)
    (hsmall : ∀ c ∈ text, c.isUpper = false) :
    literal pattern <+: text ↔ ∀ c ∈ literal pattern, c.isUpper = false := by
  constructor
  · intro hstarts c hc
    exact hsmall c (hstarts.subset hc)
  · intro hliteral
    obtain ⟨taken, rest, rfl, htaken⟩ := h.exists_start
    have hsame : taken = literal pattern := by
      calc taken = taken.map Char.toLower :=
            (map_toLower_eq_self fun c hc ↦ hsmall c (List.mem_append_left _ hc)).symm
        _ = (literal pattern).map Char.toLower := htaken
        _ = literal pattern := map_toLower_eq_self hliteral
    rw [← hsame]
    exact List.prefix_append taken rest

end Pattern
end VirtualTables
