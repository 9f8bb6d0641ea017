import VirtualTables.Sample.Catalog
import VirtualTables.Sample.Scripted

/-!
# Tables that answer from the context alone

An adapter hands a table the context of a scan and whatever the table remembers across scans.  What
is remembered is shared by all cursors on the table, so it is the one way in which two scans could
disturb each other.  `VirtualTable.Forgetful` says that a table takes no such way: it may count its
calls or keep what it was asked, but what it answers depends on the context alone.

All sample tables are of this kind (`Sample.forgetful_of_mem_tables`), and so is every table that
follows a script (`Sample.Script.forgetful_virtualTable`).
-/

namespace VirtualTables

variable {τ σ : Type}

/-- What a table answers, without what it remembers of the call. -/
def Advance.answer (a : Advance τ σ) : QueryContext σ × Row × Bool :=
  (a.context, a.row, a.produced)

/-- What the table remembers has no part in what it answers. -/
structure VirtualTable.Forgetful (t : VirtualTable τ σ) : Prop where
  prepare : ∀ m m' ctx, (t.prepare m ctx).2 = (t.prepare m' ctx).2
  next : ∀ m m' ctx, (t.next m ctx).answer = (t.next m' ctx).answer

namespace Sample

theorem Listing.forgetful_virtualTable (l : Listing) : l.virtualTable.Forgetful where
  prepare _ _ _ := rfl
  next u u' ctx := by
    unfold virtualTable
    dsimp only
    split <;> rfl

theorem Paths.forgetful_virtualTable : Paths.virtualTable.Forgetful where
  prepare _ _ _ := rfl
  next u u' ctx := by
    unfold virtualTable
    dsimp only
    split <;> rfl

theorem Broken.forgetful_virtualTable : Broken.virtualTable.Forgetful where
  prepare _ _ _ := rfl
  next u u' ctx := by
    unfold virtualTable
    dsimp only
    split <;> rfl

/-- The sample tables answer from the context alone. -/
theorem forgetful_of_mem_tables {t : FiniteTable Usage Place} (h : t ∈ tables) :
    t.toVirtualTable.Forgetful := by
  simp only [tables, List.mem_cons, List.not_mem_nil, or_false] at h
  rcases h with rfl | rfl | rfl | rfl | rfl | rfl
  · exact Mixed.listing.forgetful_virtualTable
  · exact Paths.forgetful_virtualTable
  · exact Processes.listing.forgetful_virtualTable
  · exact Signatures.listing.forgetful_virtualTable
  · exact Users.listing.forgetful_virtualTable
  · exact Broken.forgetful_virtualTable

namespace Script

variable {s : Script}

theorem answer_produce (u u' : Usage) (ctx : QueryContext Place) (number : Nat) :
    (s.produce u ctx number).answer = (s.produce u' ctx number).answer := by
  unfold produce
  split <;> rfl

theorem answer_advance (u u' : Usage) (ctx : QueryContext Place) (number : Nat) :
    (s.advance u ctx number).answer = (s.advance u' ctx number).answer := by
  unfold advance
  split
  · exact answer_produce u u' ctx number
  · rename_i mishap _
    cases hreturns : mishap.returns with
    | true => exact answer_produce u u' _ number
    | false => rfl

/-- A script is followed from the context alone. -/
theorem forgetful_virtualTable (s : Script) : s.virtualTable.Forgetful where
  prepare _ _ _ := rfl
  next u u' ctx := by
    unfold virtualTable
    dsimp only
    split
    · exact answer_advance _ _ _ _
    · rfl

end Script
end Sample

end VirtualTables
