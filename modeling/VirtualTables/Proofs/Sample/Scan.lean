import VirtualTables.Proofs.Row
import VirtualTables.Proofs.Table.Forgetful

/-!
# Scans from start to end

Listings and the table of paths work in the same way: the start of a scan puts the *items* to come
into the context, rows by number or paths, and every further call takes the first of them away and
makes a row of it.  `VirtualTable.Unrolls` says this of a table call by call.  Two things follow
from it, by induction on the items and on the calls:

* `Unrolls.rows_drain` — what is left of a scan are the rows of the items that are left;
* `Unrolls.exhausted` — a table that has come to its end stays there.

What remains to be said of a sample table is then which items it starts with
(`Sample.Listing.scan_eq`, `Sample.Paths.scan_eq`).
-/

namespace VirtualTables

variable {τ σ α : Type}

/-- The rows of a scan, from its start to its end. -/
def FiniteTable.scan (t : FiniteTable τ σ) (m : τ) (ctx : QueryContext σ) : List Row :=
  (t.drain (t.prepare m ctx).1 (t.prepare m ctx).2).1

namespace VirtualTable

/-- What a table answers to the last one of a number of further calls, counted from zero. -/
def nextAfter (t : VirtualTable τ σ) (m : τ) (ctx : QueryContext σ) : Nat → Advance τ σ
  | 0 => t.next m ctx
  | n + 1 => t.nextAfter (t.next m ctx).memory (t.next m ctx).context n

/-- A table that makes a row of each item in its place, one after another.  The row may depend on
what was asked for, but not on the place. -/
structure Unrolls (t : VirtualTable τ σ) (place : List α → σ)
    (row : QueryContext σ → α → Row) : Prop where
  row_setState : ∀ ctx s, row (ctx.setState s) = row ctx
  next_item : ∀ m ctx a items, ctx.state = some (place (a :: items)) →
    (t.next m ctx).answer = (ctx.setState (place items), row ctx a, true)
  next_end : ∀ m ctx, (∀ a items, ctx.state ≠ some (place (a :: items))) →
    (t.next m ctx).answer = (ctx, .empty, false)

namespace Unrolls

variable {place : List α → σ} {row : QueryContext σ → α → Row}

/-- A scan in which some items are left goes on with their rows. -/
theorem rows_drain {t : FiniteTable τ σ} (h : t.toVirtualTable.Unrolls place row)
    (hplace : Function.Injective place) {items : List α} (m : τ) {ctx : QueryContext σ}
    (hstate : ctx.state = some (place items)) : (t.drain m ctx).1 = items.map (row ctx) := by
  induction items generalizing m ctx with
  | nil =>
    have hend := h.next_end m ctx fun a items heq ↦ by
      rw [hstate, Option.some_inj] at heq
      cases hplace heq
    have hproduced : (t.next m ctx).produced = false := congrArg (·.2.2) hend
    rw [FiniteTable.drain, dif_neg (by simp [hproduced]), List.map_nil]
  | cons a items ih =>
    have hitem := h.next_item m ctx a items hstate
    have hcontext : (t.next m ctx).context = ctx.setState (place items) := congrArg (·.1) hitem
    have hrow : (t.next m ctx).row = row ctx a := congrArg (·.2.1) hitem
    have hproduced : (t.next m ctx).produced = true := congrArg (·.2.2) hitem
    have hleft : (ctx.setState (place items)).state = some (place items) := rfl
    have hrest := ih (t.next m ctx).memory hleft
    rw [h.row_setState] at hrest
    rw [FiniteTable.drain, dif_pos hproduced, hcontext, hrow, List.map_cons, ← hrest]

/-- A whole scan produces the rows of the items it starts with. -/
theorem rows_scan {t : FiniteTable τ σ} (h : t.toVirtualTable.Unrolls place row)
    (hplace : Function.Injective place) {items : List α} {m : τ} {ctx : QueryContext σ}
    (hstart : (t.prepare m ctx).2 = ctx.setState (place items)) :
    t.scan m ctx = items.map (row ctx) := by
  rw [FiniteTable.scan, hstart, h.rows_drain hplace _ rfl, h.row_setState]

/-- A table that is at its end is left as it is. -/
theorem context_next {t : VirtualTable τ σ} (h : t.Unrolls place row) {m : τ}
    {ctx : QueryContext σ} (hend : (t.next m ctx).produced = false) :
    (t.next m ctx).context = ctx := by
  by_cases hitems : ∃ a items, ctx.state = some (place (a :: items))
  · obtain ⟨a, items, hstate⟩ := hitems
    have hproduced : (t.next m ctx).produced = true :=
      congrArg (·.2.2) (h.next_item m ctx a items hstate)
    rw [hend] at hproduced
    cases hproduced
  · simp only [not_exists] at hitems
    exact congrArg (·.1) (h.next_end m ctx hitems)

/-- **A table that has come to its end stays there**, however often it is asked again. -/
theorem exhausted {t : VirtualTable τ σ} (h : t.Unrolls place row) (hforgets : t.Forgetful) {m : τ}
    {ctx : QueryContext σ} {i j : Nat} (hij : i ≤ j)
    (hend : (t.nextAfter m ctx i).produced = false) : (t.nextAfter m ctx j).produced = false := by
  induction i generalizing j m ctx with
  | zero =>
    induction j generalizing m with
    | zero => exact hend
    | succ j ih =>
      rw [nextAfter, h.context_next hend]
      refine ih (Nat.zero_le j) ?_
      exact (congrArg (·.2.2) (hforgets.next _ m ctx)).trans hend
  | succ i ih =>
    cases j with
    | zero => exact absurd hij (Nat.not_succ_le_zero i)
    | succ j =>
      rw [nextAfter] at hend ⊢
      exact ih (Nat.succ_le_succ_iff.1 hij) hend

end Unrolls
end VirtualTable

namespace Sample

/-! ## Listings -/

namespace Listing

theorem row_setState (l : Listing) (ctx : QueryContext Place) (s : Place) :
    l.row (ctx.setState s) = l.row ctx :=
  rfl

theorem unrolls (l : Listing) : l.virtualTable.Unrolls Place.rows l.row where
  row_setState := l.row_setState
  next_item m ctx number numbers hstate := by
    simp [Advance.answer, virtualTable, QueryContext.stateAs?, hstate, Place.rows?]
  next_end m ctx hstate := by
    rcases ctx with ⟨constraints, requested, _ | (⟨_ | ⟨number, numbers⟩⟩ | _ | _ | _), failure⟩
    case some.rows.cons => exact absurd rfl (hstate number numbers)
    all_goals rfl

/-- A scan produces the rows of the listing that the constraints allow. -/
theorem scan_eq (l : Listing) (m : Usage) (ctx : QueryContext Place) :
    l.table.scan m ctx = (l.selected ctx.constraints).map (l.row ctx) := by
  have hunrolls : l.table.toVirtualTable.Unrolls Place.rows l.row := l.unrolls
  exact hunrolls.rows_scan (fun _ _ ↦ Place.rows.inj) rfl

end Listing

/-! ## Paths -/

namespace Paths

theorem unrolls : virtualTable.Unrolls Place.paths fun _ ↦ row where
  row_setState _ _ := rfl
  next_item m ctx text texts hstate := by
    simp [Advance.answer, virtualTable, QueryContext.stateAs?, hstate, Place.paths?]
  next_end m ctx hstate := by
    rcases ctx with ⟨constraints, requested, _ | (_ | ⟨_ | ⟨text, texts⟩⟩ | _ | _), failure⟩
    case some.paths.cons => exact absurd rfl (hstate text texts)
    all_goals rfl

/-- A scan produces the paths that the constraints give. -/
theorem scan_eq (m : Usage) (ctx : QueryContext Place) :
    table.scan m ctx = (selected ctx.constraints).map row := by
  have hunrolls : table.toVirtualTable.Unrolls Place.paths fun _ ↦ row := unrolls
  exact hunrolls.rows_scan (fun _ _ ↦ Place.paths.inj) rfl

end Paths
end Sample
end VirtualTables
