import Mathlib.Data.List.Induction

/-!
# Rosters

A roster lists entries by name.  Whoever adds an entry whose name is listed already changes nothing,
and neither does who removes a name that is not listed; a new entry comes last, and one that was
removed and added again comes last too.

The roster is described by its history alone.  A name is *known* if it was added and not removed
since (`Change.isKnown`), and listed are the entries that were added when their name was not known
and were not removed since, in the order of their adding (`Change.roster`).  `roster_add` and
`roster_remove` say what one more change does to the list, and `isKnown_iff` that the known names
are the names on the list.
-/

namespace VirtualTables

/-- A change of a roster. -/
inductive Change (α : Type) where
  | add (entry : α)
  | remove (name : String)

namespace Change

variable {α : Type} (name : α → String)

/-- Whether a name is removed by one of the changes. -/
def isRemoved (changes : List (Change α)) (n : String) : Bool :=
  changes.any fun
    | add _ => false
    | remove m => m = n

/-- Whether a name was added and not removed since. -/
def isKnown : List (Change α) → String → Bool
  | [], _ => false
  | add entry :: later, n => (name entry = n && !isRemoved later n) || isKnown later n
  | remove _ :: later, n => isKnown later n

/-- The entries among the later changes that were added when their name was not known, and were not
removed since. -/
def rosterAfter (earlier : List (Change α)) : List (Change α) → List α
  | [] => []
  | add entry :: later =>
    if isKnown name earlier (name entry) || isRemoved later (name entry) then
      rosterAfter (earlier ++ [add entry]) later
    else entry :: rosterAfter (earlier ++ [add entry]) later
  | remove n :: later => rosterAfter (earlier ++ [remove n]) later

/-- The entries that were added when their name was not known, and were not removed since. -/
def roster (changes : List (Change α)) : List α :=
  rosterAfter name [] changes

variable {changes earlier : List (Change α)} {entry : α} {m n : String}

/-! ## One more change -/

theorem isRemoved_add : isRemoved (changes ++ [add entry]) n = isRemoved changes n := by
  rw [isRemoved, List.any_append]
  exact Bool.or_false _

theorem isRemoved_remove :
    isRemoved (changes ++ [remove m]) n = (isRemoved changes n || decide (m = n)) := by
  rw [isRemoved, List.any_append, isRemoved, List.any_cons, List.any_nil, Bool.or_false]

variable {name}

/-- After it was added, a name is known. -/
theorem isKnown_add :
    isKnown name (changes ++ [add entry]) n =
      (isKnown name changes n || decide (name entry = n)) := by
  induction changes with
  | nil => simp [isKnown, isRemoved]
  | cons c later ih =>
    cases c with
    | add other => rw [List.cons_append, isKnown, isKnown, isRemoved_add, ih, Bool.or_assoc]
    | remove k => rw [List.cons_append, isKnown, isKnown, ih]

/-- After it was removed, a name is not known. -/
theorem isKnown_remove :
    isKnown name (changes ++ [remove m]) n = (isKnown name changes n && !decide (m = n)) := by
  induction changes with
  | nil => rfl
  | cons c later ih =>
    cases c with
    | add other =>
      rw [List.cons_append, isKnown, isKnown, isRemoved_remove, ih, Bool.not_or, ← Bool.and_assoc,
        Bool.and_or_distrib_right]
    | remove k => rw [List.cons_append, isKnown, isKnown, ih]

theorem rosterAfter_add :
    rosterAfter name earlier (changes ++ [add entry]) =
      rosterAfter name earlier changes ++
        if isKnown name (earlier ++ changes) (name entry) then [] else [entry] := by
  induction changes generalizing earlier with
  | nil =>
    have hlater : isRemoved ([] : List (Change α)) (name entry) = false := rfl
    simp only [List.nil_append, rosterAfter, List.append_nil, hlater, Bool.or_false]
  | cons c later ih =>
    rw [List.append_cons earlier c later]
    cases c with
    | add other =>
      rw [List.cons_append, rosterAfter, rosterAfter, isRemoved_add, ih]
      split <;> rfl
    | remove k => rw [List.cons_append, rosterAfter, rosterAfter, ih]

theorem rosterAfter_remove :
    rosterAfter name earlier (changes ++ [remove n]) =
      (rosterAfter name earlier changes).filter (name · ≠ n) := by
  induction changes generalizing earlier with
  | nil => rfl
  | cons c later ih =>
    cases c with
    | add other =>
      rw [List.cons_append, rosterAfter, rosterAfter, isRemoved_remove, ih]
      by_cases hn : n = name other
      · -- the entry is listed no more, wherever it was before
        subst hn
        rw [decide_eq_true rfl, Bool.or_true, Bool.or_true, if_pos rfl]
        split
        · rfl
        · rw [List.filter_cons_of_neg (by simp)]
      · rw [decide_eq_false hn, Bool.or_false]
        split
        · rfl
        · rw [List.filter_cons_of_pos (by simpa using Ne.symm hn)]
    | remove k => rw [List.cons_append, rosterAfter, rosterAfter, ih]

/-- An entry that is added comes last, unless its name is known. -/
theorem roster_add :
    roster name (changes ++ [add entry]) =
      roster name changes ++ if isKnown name changes (name entry) then [] else [entry] :=
  rosterAfter_add

/-- A name that is removed is listed no more. -/
theorem roster_remove :
    roster name (changes ++ [remove n]) = (roster name changes).filter (name · ≠ n) :=
  rosterAfter_remove

/-- **The known names are the names of the entries on the roster.** -/
theorem isKnown_iff :
    isKnown name changes n = true ↔ ∃ entry ∈ roster name changes, name entry = n := by
  induction changes using List.reverseRecOn generalizing n with
  | nil => simp [isKnown, roster, rosterAfter]
  | append_singleton changes c ih =>
    cases c with
    | add entry =>
      rw [isKnown_add, roster_add, Bool.or_eq_true, decide_eq_true_eq]
      split
      · -- the entry is not listed, but one of its name is
        rename_i hknown
        rw [List.append_nil, ← ih]
        exact ⟨fun h ↦ h.elim id (fun heq ↦ heq ▸ hknown), .inl⟩
      · rw [ih]
        simp only [List.mem_append, List.mem_singleton, or_and_right, exists_or, exists_eq_left]
    | remove m =>
      rw [isKnown_remove, roster_remove, Bool.and_eq_true, ih, Bool.not_eq_true',
        decide_eq_false_iff_not]
      constructor
      · rintro ⟨⟨entry, hentry, rfl⟩, hne⟩
        have hkept : decide (name entry ≠ m) = true := decide_eq_true fun h ↦ hne h.symm
        exact ⟨entry, List.mem_filter.2 ⟨hentry, hkept⟩, rfl⟩
      · rintro ⟨entry, hentry, rfl⟩
        obtain ⟨hlisted, hkept⟩ := List.mem_filter.1 hentry
        exact ⟨⟨entry, hlisted, rfl⟩, fun h ↦ of_decide_eq_true hkept h.symm⟩

/-! ## Changes that change nothing -/

theorem roster_add_of_known (h : isKnown name changes (name entry) = true) :
    roster name (changes ++ [add entry]) = roster name changes := by
  rw [roster_add, if_pos h, List.append_nil]

theorem roster_add_of_not_known (h : isKnown name changes (name entry) = false) :
    roster name (changes ++ [add entry]) = roster name changes ++ [entry] := by
  rw [roster_add, h, if_neg Bool.false_ne_true]

theorem roster_remove_of_not_known (h : isKnown name changes n = false) :
    roster name (changes ++ [remove n]) = roster name changes := by
  rw [roster_remove, List.filter_eq_self]
  intro entry hentry
  refine decide_eq_true fun hname ↦ ?_
  rw [isKnown_iff.2 ⟨entry, hentry, hname⟩] at h
  exact absurd h (by simp)

end Change

end VirtualTables
