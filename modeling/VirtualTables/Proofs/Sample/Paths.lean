import Mathlib.Data.List.Count
import VirtualTables.Engine.Pattern
import VirtualTables.Proofs.Sample.Scan

/-!
# How often a path comes

A query gives all its constraints to a scan, and a row has to meet every one of them.  The table of
paths takes them one by one: each gives some paths, and what they give is put together.  An engine
tests the rows again, so nothing wrong gets through.  But it does not compare rows with each other,
and a path that meets all constraints has been given by several of them.

`Paths.count_scan` counts: a path comes as often as there are constraints that give it.  So
`Paths.nodup_scan_iff` says that a scan produces no path twice exactly if no two of its constraints
give the same path, as when there is only one.  `Paths.path_comes_twice` is a scan with a pattern
and an equality, both of which the path meets.
-/

namespace VirtualTables

/-- A test is passed at most once exactly if no two places of a list pass it. -/
theorem countP_le_one_iff {α : Type} {p : α → Bool} {l : List α} :
    l.countP p ≤ 1 ↔ l.Pairwise fun a b ↦ ¬(p a = true ∧ p b = true) := by
  induction l with
  | nil => simp
  | cons a l ih =>
    rw [List.pairwise_cons, ← ih]
    by_cases ha : p a = true
    · have hnone : l.countP p = 0 ↔ ∀ b ∈ l, ¬p b = true := List.countP_eq_zero
      rw [List.countP_cons_of_pos ha]
      simp only [ha, true_and, ← hnone]
      omega
    · simp [ha]

namespace Sample
namespace Paths

/-- An equality gives its own path, and a pattern gives the known paths that start as it does. -/
def gives (c : Constraint) (text : String) : Bool :=
  c.field = path &&
    match c.op, c.value with
    | .eq, .utf8 value => value = text
    | .like, .utf8 pattern => text ∈ known && startsLike pattern text
    | _, _ => false

/-- One constraint gives no path twice. -/
theorem count_given {c : Constraint} (hfield : c.field = path) (text : String) :
    (given c).count text = if gives c text then 1 else 0 := by
  have hknown : known.Nodup := by decide
  obtain ⟨field, op, value⟩ := c
  obtain rfl : field = path := hfield
  cases value with
  | utf8 value =>
    cases op with
    | eq => simp [given, gives, Value.asText?, List.count_singleton]
    | like =>
      simp only [given, gives, Value.asText?, decide_true, Bool.true_and,
        (hknown.filter _).count, List.mem_filter, Bool.and_eq_true, decide_eq_true_eq]
    | _ => simp [given, gives]
  | _ => cases op <;> simp [given, gives, Value.asText?]

theorem count_selected (constraints : List Constraint) (text : String) :
    (selected constraints).count text = constraints.countP (gives · text) := by
  induction constraints with
  | nil => rfl
  | cons c constraints ih =>
    by_cases hfield : c.field = path
    · have hcons : selected (c :: constraints) = given c ++ selected constraints := by
        simp [selected, hfield]
      rw [hcons, List.count_append, ih, count_given hfield, List.countP_cons, Nat.add_comm]
    · have hcons : selected (c :: constraints) = selected constraints := by
        simp [selected, hfield]
      have hgives : gives c text = false := by simp [gives, hfield]
      rw [hcons, ih, List.countP_cons_of_neg (by simp [hgives])]

theorem get?_row (text : String) : (row text).get? path = some (.utf8 text) := by
  rw [row, Row.get?_ofList]
  rfl

/-- The paths of the rows of a scan. -/
def pathsOf (rows : List Row) : List (Option Value) :=
  rows.map (·.get? path)

theorem pathsOf_scan (m : Usage) (ctx : QueryContext Place) :
    pathsOf (table.scan m ctx) = (selected ctx.constraints).map fun text ↦ some (.utf8 text) := by
  rw [pathsOf, scan_eq, List.map_map]
  exact List.map_congr_left fun text _ ↦ get?_row text

theorem someUtf8_injective : Function.Injective fun text : String ↦ some (Value.utf8 text) :=
  fun _ _ heq ↦ Value.utf8.inj (Option.some.inj heq)

/-- **A path comes as often as there are constraints that give it.** -/
theorem count_scan (m : Usage) (ctx : QueryContext Place) (text : String) :
    (pathsOf (table.scan m ctx)).count (some (.utf8 text)) =
      ctx.constraints.countP (gives · text) := by
  rw [pathsOf_scan, ← count_selected]
  exact List.count_map_of_injective _ _ someUtf8_injective text

/-- No path is given twice exactly if no two constraints give the same one. -/
theorem nodup_selected_iff {constraints : List Constraint} :
    (selected constraints).Nodup ↔ constraints.Pairwise fun c c' ↦
      ∀ text, ¬(gives c text = true ∧ gives c' text = true) := by
  rw [List.nodup_iff_count_le_one]
  simp only [count_selected, countP_le_one_iff, List.pairwise_iff_getElem]
  constructor
  · intro h i j hi hj hij text
    exact h text i j hi hj hij
  · intro h text i j hi hj hij
    exact h i j hi hj hij text

/-- **When a scan produces no path twice.**  A path comes as often as there are constraints that
give it, so all paths of a scan are different exactly if no two of its constraints give the same
one. -/
theorem nodup_scan_iff (constraints : List Constraint) (requested : FieldSet) (m : Usage) :
    let paths := pathsOf (table.scan m (.new constraints requested))
    (∀ text, paths.count (some (.utf8 text)) = constraints.countP (gives · text)) ∧
      (paths.Nodup ↔ constraints.Pairwise fun c c' ↦
        ∀ text, ¬(gives c text = true ∧ gives c' text = true)) := by
  intro paths
  refine ⟨count_scan m _, ?_⟩
  show (pathsOf (table.scan m _)).Nodup ↔ _
  rw [pathsOf_scan, List.nodup_map_iff someUtf8_injective]
  exact nodup_selected_iff

/-- What a query is given that asks for the first floppy disk in two ways. -/
def floppyConstraints : List Constraint :=
  [⟨path, .like, .utf8 "/dev/fd%"⟩, ⟨path, .eq, .utf8 "/dev/fd0"⟩]

/-- **A path may come twice**, and an engine that tests the rows again finds nothing wrong with
either of them. -/
theorem path_comes_twice :
    let paths := pathsOf (table.scan .counting (.new floppyConstraints .empty))
    paths = [some (.utf8 "/dev/fd0"), some (.utf8 "/dev/fd0")] ∧ ¬paths.Nodup ∧
      Pattern.like "/dev/fd%".toList "/dev/fd0".toList = true := by
  intro paths
  have hpaths : paths = [some (.utf8 "/dev/fd0"), some (.utf8 "/dev/fd0")] := by
    show pathsOf (table.scan .counting _) = _
    rw [pathsOf_scan]
    decide
  exact ⟨hpaths, by simp [hpaths], by decide⟩

end Paths
end Sample
end VirtualTables
