import VirtualTables.Adapter.Basic
import VirtualTables.Proofs.Text.WellFormed

/-!
# The values of a filter

A filter comes with a value for each constraint of its plan, and a value may be a text that is not
well-formed.  Such a text is not read.  The values are read in order, all of them before anything
else is done, so what counts is whether there is such a text among them, and the first one.

* `EngineValue.IsReadable` — a value that can be read, and `EngineValue.read?_eq_some_iff`: it is
  read as the value that it stands for, with nothing to replace.
* `Adapter.FirstUnreadable` — the first value that cannot be read, and
  `Adapter.exists_firstUnreadable`: there is one unless all values can be read.
* `Adapter.bindValues_of_readable`, `Adapter.bindValues_of_firstUnreadable` — in the one case each
  constraint of the plan gets its value, in the other the place of this value is reported.
-/

namespace VirtualTables

namespace EngineValue

/-- The value is no text, or it is a well-formed one. -/
def IsReadable (v : EngineValue) : Prop :=
  ∀ bytes, v = .text bytes → Utf8.WellFormed bytes

theorem isReadable_null : IsReadable .null := by
  intro bytes h
  cases h

theorem read?_eq_none_iff {v : EngineValue} : v.read? = none ↔ ¬v.IsReadable := by
  cases v with
  | text bytes => simp [read?, IsReadable, Utf8.decode?_eq_none_iff]
  | null | integer | real | blob => simp [read?, IsReadable]

/-- **A value that can be read is read as what it stands for.** -/
theorem read?_eq_some_iff {v : EngineValue} {w : Value} :
    v.read? = some w ↔ v.IsReadable ∧ v.toValue = w := by
  cases v with
  | text bytes =>
    constructor
    · intro h
      obtain ⟨chars, hchars, rfl⟩ := Option.map_eq_some_iff.1 h
      refine ⟨fun _ heq ↦ ?_, ?_⟩
      · rw [← EngineValue.text.inj heq, Utf8.wellFormed_iff]
        exact ⟨chars, Utf8.decode?_eq_some_iff.1 hchars⟩
      · rw [toValue, Utf8.decode?_eq_some_iff.1 hchars, Utf8.decodeLossy_encode]
    · rintro ⟨hreadable, rfl⟩
      obtain ⟨chars, rfl⟩ := Utf8.wellFormed_iff.1 (hreadable bytes rfl)
      rw [read?, Utf8.decode?_encode, toValue, Utf8.decodeLossy_encode]
      rfl
  | null | integer | real | blob => simp [read?, toValue, IsReadable]

end EngineValue

namespace Adapter

/-- Constraints of a plan with the values that engine values stand for. -/
def bound (planned : List PlannedConstraint) (values : List EngineValue) : List Constraint :=
  List.zipWith (fun p v ↦ ⟨p.field, p.op, v.toValue⟩) planned values

/-- The first value that cannot be read is the one in a slot. -/
structure FirstUnreadable (values : List EngineValue) (slot : Nat) : Prop where
  ill : ∃ bytes, values[slot]? = some (.text bytes) ∧ ¬Utf8.WellFormed bytes
  before : ∀ j < slot, ∀ v, values[j]? = some v → v.IsReadable

variable {planned : List PlannedConstraint} {values : List EngineValue}

theorem FirstUnreadable.not_readable {slot : Nat} (h : FirstUnreadable values slot) :
    ¬∀ v ∈ values, v.IsReadable := by
  intro hall
  obtain ⟨bytes, hat, hill⟩ := h.ill
  exact hill (hall _ (List.mem_of_getElem? hat) bytes rfl)

/-- There is a first value that cannot be read, if there is one at all. -/
theorem exists_firstUnreadable (h : ¬∀ v ∈ values, v.IsReadable) :
    ∃ slot, FirstUnreadable values slot := by
  induction values with
  | nil => exact absurd (List.forall_mem_nil _) h
  | cons v rest ih =>
    by_cases hv : v.IsReadable
    · obtain ⟨slot, hill, hbefore⟩ := ih fun hrest ↦ h (List.forall_mem_cons.2 ⟨hv, hrest⟩)
      refine ⟨slot + 1, hill, fun j hj w hw ↦ ?_⟩
      cases j with
      | zero => rwa [← Option.some_inj.1 hw]
      | succ j => exact hbefore j (Nat.lt_of_succ_lt_succ hj) w hw
    · obtain ⟨bytes, hbytes⟩ := Classical.not_forall.1 hv
      obtain ⟨rfl, hill⟩ := Classical.not_imp.1 hbytes
      exact ⟨0, ⟨bytes, rfl, hill⟩, fun j hj ↦ absurd hj (Nat.not_lt_zero j)⟩

/-! ## Reading all values -/

theorem bindFrom_of_readable (h : ∀ v ∈ values, v.IsReadable) (slot : Nat) :
    bindFrom slot planned values = .ok (bound planned values) := by
  induction planned generalizing slot values with
  | nil => rfl
  | cons p planned ih =>
    cases values with
    | nil => rfl
    | cons v rest =>
      rw [List.forall_mem_cons] at h
      rw [bindFrom, EngineValue.read?_eq_some_iff.2 ⟨h.1, rfl⟩, ih h.2]
      rfl

/-- The slots count on from the first of them. -/
theorem bindFrom_of_firstUnreadable {i : Nat} (h : FirstUnreadable values i)
    (hlen : values.length = planned.length) (slot : Nat) :
    bindFrom slot planned values = .error (.unreadable (slot + i)) := by
  induction values generalizing i planned slot with
  | nil =>
    obtain ⟨bytes, hat, -⟩ := h.ill
    exact absurd hat (by simp)
  | cons v rest ih =>
    obtain ⟨p, planned, rfl⟩ := List.exists_cons_of_length_eq_add_one hlen.symm
    obtain ⟨⟨bytes, hat, hill⟩, hbefore⟩ := h
    cases i with
    | zero =>
      obtain rfl : v = .text bytes := Option.some_inj.1 hat
      have hnone : (EngineValue.text bytes).read? = none :=
        EngineValue.read?_eq_none_iff.2 fun hreadable ↦ hill (hreadable bytes rfl)
      rw [bindFrom, hnone]
      rfl
    | succ i =>
      have hv : v.IsReadable := hbefore 0 (Nat.succ_pos i) v rfl
      have hrest : FirstUnreadable rest i :=
        ⟨⟨bytes, hat, hill⟩, fun j hj ↦ hbefore (j + 1) (Nat.succ_lt_succ hj)⟩
      rw [bindFrom, EngineValue.read?_eq_some_iff.2 ⟨hv, rfl⟩, ih hrest (Nat.succ.inj hlen)]
      simp only [Except.map, Nat.add_assoc, Nat.add_comm 1 i]

/-- **If all values can be read**, each constraint of the plan gets its value. -/
theorem bindValues_of_readable (h : ∀ v ∈ values, v.IsReadable) :
    bindValues planned values = .ok (bound planned values) :=
  bindFrom_of_readable h 0

/-- **If not**, the place of the first one that cannot be read is reported. -/
theorem bindValues_of_firstUnreadable {slot : Nat} (h : FirstUnreadable values slot)
    (hlen : values.length = planned.length) :
    bindValues planned values = .error (.unreadable slot) := by
  rw [bindValues, bindFrom_of_firstUnreadable h hlen, Nat.zero_add]

/-! ## Constraints with their values -/

theorem getElem?_bound {i : Nat} {p : PlannedConstraint} {v : EngineValue}
    (hp : planned[i]? = some p) (hv : values[i]? = some v) :
    (bound planned values)[i]? = some ⟨p.field, p.op, v.toValue⟩ := by
  rw [bound, List.getElem?_zipWith, hp, hv]

theorem length_bound (h : values.length = planned.length) :
    (bound planned values).length = planned.length := by
  rw [bound, List.length_zipWith, h, Nat.min_self]

theorem mem_bound {c : Constraint} (h : c ∈ bound planned values) :
    ∃ p ∈ planned, p.field = c.field ∧ p.op = c.op := by
  obtain ⟨i, hi⟩ := List.mem_iff_getElem?.1 h
  rw [bound, List.getElem?_zipWith] at hi
  split at hi
  · rename_i p v hp hv
    rw [Option.some_inj] at hi
    subst hi
    exact ⟨p, List.mem_of_getElem? hp, rfl, rfl⟩
  · exact absurd hi (by simp)

theorem exists_mem_bound (hlen : values.length = planned.length) {p : PlannedConstraint}
    (hp : p ∈ planned) : ∃ c ∈ bound planned values, c.field = p.field ∧ c.op = p.op := by
  obtain ⟨i, hi⟩ := List.mem_iff_getElem?.1 hp
  have hlt : i < values.length := by
    rw [hlen]
    exact (List.getElem?_eq_some_iff.1 hi).1
  have hat := getElem?_bound hi (List.getElem?_eq_getElem hlt)
  exact ⟨_, List.mem_of_getElem? hat, rfl, rfl⟩

end Adapter

end VirtualTables
