/-!
# Runs of codes

The properties of characters that the Unicode standard lists are kept as runs of codes: the first
and the last code of every run, in ascending order.
-/

namespace VirtualTables

/-- Characters given as runs of codes. -/
abbrev CodeRuns := List (Nat × Nat)

/-- Whether the code of a character is in one of the runs. -/
def CodeRuns.contains (runs : CodeRuns) (c : Char) : Bool :=
  runs.any fun (first, last) => first ≤ c.toNat && c.toNat ≤ last

theorem CodeRuns.contains_iff {runs : CodeRuns} {c : Char} :
    runs.contains c ↔ ∃ run ∈ runs, run.1 ≤ c.toNat ∧ c.toNat ≤ run.2 := by
  simp [contains]

end VirtualTables
