import Mathlib.Data.Finset.Card
import Mathlib.Data.List.DropRight
import Mathlib.Data.List.Induction
import Mathlib.Data.List.Nodup

/-!
# First occurrences

A log of refusals, the fields of a row, the handles of an interner: each of them takes things in one
after another and passes over what it holds already.  What such a list holds in the end is the list
of everything that was offered without its repetitions, each thing in the place of its first
occurrence, and `List.eraseDups` says just this.  `eraseDups_append_singleton` is the step by which
all three are read off their histories, and `firstOccurrences_iff` says what such a list is without
saying how it is made.

A log and a row can also be emptied, so what they hold goes back to the last emptying only:
`sinceEmptied` is the part of a history that counts.
-/

namespace VirtualTables

variable {α : Type} [DecidableEq α]

/-- One more thing is passed over if it occurred before, and otherwise comes last. -/
theorem eraseDups_append_singleton (l : List α) (a : α) :
    (l ++ [a]).eraseDups = if a ∈ l then l.eraseDups else l.eraseDups ++ [a] := by
  rw [List.eraseDups_append, List.removeAll]
  by_cases h : a ∈ l
  · rw [List.filter_cons_of_neg (by simpa using h), if_pos h]
    exact List.append_nil _
  · rw [List.filter_cons_of_pos (by simpa using h), if_neg h]
    rfl

theorem nodup_eraseDups (l : List α) : l.eraseDups.Nodup := by
  induction l using List.reverseRecOn with
  | nil => exact List.nodup_nil
  | append_singleton l a ih =>
    rw [eraseDups_append_singleton]
    split
    · exact ih
    · rename_i h
      have hnew : a ∉ l.eraseDups := fun hmem ↦ h (List.mem_eraseDups.1 hmem)
      exact ih.append (List.nodup_singleton a) (List.disjoint_singleton.2 hnew)

/-- A list without repetitions is one that loses nothing. -/
theorem length_eraseDups_eq_iff {l : List α} : l.eraseDups.length = l.length ↔ l.Nodup := by
  have hsame : l.eraseDups.toFinset = l.toFinset := by
    ext a
    simp only [List.mem_toFinset, List.mem_eraseDups]
  rw [← List.toFinset_card_of_nodup (nodup_eraseDups l), hsame, List.card_toFinset]
  constructor
  · intro h
    rw [← (List.dedup_sublist l).eq_of_length h]
    exact List.nodup_dedup l
  · intro h
    rw [h.dedup]

/-- The list `kept` holds all that was offered, each thing once, and in the order in which they were
first offered. -/
structure FirstOccurrences (kept offered : List α) : Prop where
  nodup : kept.Nodup
  mem_iff : ∀ a, a ∈ kept ↔ a ∈ offered
  inOrder : kept.Pairwise fun a b ↦ offered.idxOf a < offered.idxOf b

theorem firstOccurrences_eraseDups (l : List α) : FirstOccurrences l.eraseDups l where
  nodup := nodup_eraseDups l
  mem_iff _ := List.mem_eraseDups
  inOrder := by
    induction l using List.reverseRecOn with
    | nil => exact List.Pairwise.nil
    | append_singleton l a ih =>
      -- what occurred before has its first occurrence where it was
      have hbefore : l.eraseDups.Pairwise fun b c ↦ (l ++ [a]).idxOf b < (l ++ [a]).idxOf c := by
        refine ih.imp_of_mem fun {b c} hb hc hlt ↦ ?_
        rwa [List.idxOf_append_of_mem (List.mem_eraseDups.1 hb),
          List.idxOf_append_of_mem (List.mem_eraseDups.1 hc)]
      rw [eraseDups_append_singleton]
      split
      · exact hbefore
      · rename_i hnew
        refine List.pairwise_append.2 ⟨hbefore, List.pairwise_singleton _ a, fun b hb c hc ↦ ?_⟩
        obtain rfl := List.mem_singleton.1 hc
        have hmem : b ∈ l := List.mem_eraseDups.1 hb
        rw [List.idxOf_append_of_mem hmem, List.idxOf_append_of_notMem hnew]
        exact Nat.lt_add_right _ (List.idxOf_lt_length_of_mem hmem)

/-- There is one list of first occurrences only. -/
theorem firstOccurrences_iff {kept offered : List α} :
    FirstOccurrences kept offered ↔ kept = offered.eraseDups := by
  constructor
  · intro h
    have hall := firstOccurrences_eraseDups offered
    have hperm : kept.Perm offered.eraseDups :=
      (List.perm_ext_iff_of_nodup h.nodup hall.nodup).2 fun a ↦ by rw [h.mem_iff, hall.mem_iff]
    refine hperm.eq_of_pairwise (fun a b _ _ hab hba ↦ ?_) h.inOrder hall.inOrder
    exact absurd hab (Nat.lt_asymm hba)
  · rintro rfl
    exact firstOccurrences_eraseDups offered

section Emptied

/- Calls each of which offers a thing or, if it offers none, empties the list that takes them in. -/
variable {β κ : Type} {offer? : κ → Option β} {call : κ}

/-- What was offered since the last call that emptied the list. -/
def sinceEmptied (offer? : κ → Option β) (calls : List κ) : List β :=
  (calls.rtakeWhile fun call ↦ (offer? call).isSome).filterMap offer?

theorem sinceEmptied_of_some {thing : β} (calls : List κ) (h : offer? call = some thing) :
    sinceEmptied offer? (calls ++ [call]) = sinceEmptied offer? calls ++ [thing] := by
  rw [sinceEmptied, List.rtakeWhile_concat_pos _ _ _ (by rw [h]; rfl), List.filterMap_append,
    List.filterMap_cons_some h, List.filterMap_nil, sinceEmptied]

theorem sinceEmptied_of_none (calls : List κ) (h : offer? call = none) :
    sinceEmptied offer? (calls ++ [call]) = [] := by
  rw [sinceEmptied, List.rtakeWhile_concat_neg _ _ _ (by simp [h]), List.filterMap_nil]

end Emptied

section Keys

/- A list that keeps one thing for each key that was asked for. -/
variable {β : Type} {key : β → α} {kept : List β} {asked : List α} {b : β}

/-- Nothing changes when a key is asked for again. -/
theorem eraseDups_of_kept (h : kept.map key = asked.eraseDups) (hb : b ∈ kept) :
    kept.map key = (asked ++ [key b]).eraseDups := by
  have hmem : key b ∈ asked := by
    rw [← List.mem_eraseDups, ← h]
    exact List.mem_map_of_mem hb
  rw [eraseDups_append_singleton, if_pos hmem, h]

/-- What is kept for a new key comes last. -/
theorem eraseDups_of_new (h : kept.map key = asked.eraseDups) (hb : key b ∉ kept.map key) :
    (kept ++ [b]).map key = (asked ++ [key b]).eraseDups := by
  rw [h, List.mem_eraseDups] at hb
  rw [eraseDups_append_singleton, if_neg hb, List.map_append, h, List.map_singleton]

/-- The number of things that are kept for keys of one kind is the number of these keys. -/
theorem countP_kept (h : kept.map key = asked.eraseDups) (p : α → Bool) :
    kept.countP (fun b ↦ p (key b)) = (asked.filter p).toFinset.card := by
  have hsame : (asked.filter p).toFinset = (asked.eraseDups.filter p).toFinset := by
    ext a
    simp only [List.mem_toFinset, List.mem_filter, List.mem_eraseDups]
  calc kept.countP (fun b ↦ p (key b))
      = ((kept.map key).filter p).length := by
        rw [← List.countP_eq_length_filter, List.countP_map]
        rfl
    _ = (asked.eraseDups.filter p).length := by rw [h]
    _ = (asked.filter p).toFinset.card := by
        rw [hsame, List.toFinset_card_of_nodup ((nodup_eraseDups asked).filter p)]

end Keys

end VirtualTables
