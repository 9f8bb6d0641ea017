import Mathlib.Data.List.Nodup
import VirtualTables.Field
import VirtualTables.Proofs.Distinct

/-!
# Allocating once for each key

A table of pointers is asked for one key after another.  A key that it knows is answered with the
pointer that it keeps, and nothing is allocated; for any other key there is one allocation, at a
place where nothing was put before.  So whatever it was asked for, in the end no key has two places
and no place has two keys.

* `InternTable.intern_cases` — all that a request can do.
* `InternTable.Keeps` — the invariant: the keys are those that were asked for, each once, and their
  places are counted off in the order of the first requests.
* `InternTable.Keeps.place_eq_iff` — places and keys correspond one to one.
-/

namespace VirtualTables
namespace InternTable

variable {κ α : Type} [DecidableEq κ]

/-! ## One request -/

/-- **What a request does.**  The key is known and its pointer is handed out, or it is not and the
content is put at a new place. -/
theorem intern_cases (t : InternTable κ α) (key : κ) (content : α) :
    (∃ p, (key, p) ∈ t.entries ∧ t.intern key content = (p, t)) ∨
      key ∉ t.entries.map Prod.fst ∧
        t.intern key content =
          (⟨t.allocated, content⟩,
            { entries := t.entries ++ [(key, ⟨t.allocated, content⟩)]
              allocated := t.allocated + 1 }) := by
  rw [intern]
  split
  · rename_i known p hfound
    have hkey := List.find?_some hfound
    obtain rfl : known = key := of_decide_eq_true hkey
    exact .inl ⟨p, List.mem_of_find?_eq_some hfound, rfl⟩
  · rename_i hmissing
    refine .inr ⟨fun hmem ↦ ?_, rfl⟩
    obtain ⟨entry, hentry, hkey⟩ := List.mem_map.1 hmem
    exact List.find?_eq_none.1 hmissing entry hentry (decide_eq_true hkey)

/-- What is handed out is kept. -/
theorem mem_entries_of_intern (t : InternTable κ α) (key : κ) (content : α) :
    (key, (t.intern key content).1) ∈ (t.intern key content).2.entries := by
  obtain ⟨p, hp, hintern⟩ | ⟨-, hintern⟩ := t.intern_cases key content <;> rw [hintern]
  · exact hp
  · exact List.mem_append_right _ (List.mem_singleton_self _)

/-- What is kept stays. -/
theorem mem_entries_intern {t : InternTable κ α} {entry : κ × Pointer α} (h : entry ∈ t.entries)
    (key : κ) (content : α) : entry ∈ (t.intern key content).2.entries := by
  obtain ⟨p, -, hintern⟩ | ⟨-, hintern⟩ := t.intern_cases key content <;> rw [hintern]
  · exact h
  · exact List.mem_append_left _ h

/-! ## The places of the keys -/

/-- A table keeps the keys that it was asked for, each once and with a place of its own; and `shown`
tells the key of what was put there. -/
structure Keeps (shown : α → κ) (t : InternTable κ α) (asked : List κ) : Prop where
  keys : t.entries.map Prod.fst = asked.eraseDups
  /-- The places are counted off, so no two of them are the same. -/
  places : (t.entries.map fun entry ↦ entry.2.place) = List.range t.allocated
  shown : ∀ entry ∈ t.entries, shown entry.2.content = entry.1

variable {shown : α → κ} {t : InternTable κ α} {asked : List κ} {key key' : κ}
  {p p' : Pointer α}

theorem keeps_empty : (empty : InternTable κ α).Keeps shown [] where
  keys := rfl
  places := rfl
  shown _ hentry := absurd hentry List.not_mem_nil

/-- The invariant is kept by a request, if the content shows the key. -/
theorem Keeps.intern (h : t.Keeps shown asked) {content : α} (hcontent : shown content = key) :
    (t.intern key content).2.Keeps shown (asked ++ [key]) := by
  obtain ⟨p, hp, hintern⟩ | ⟨hnew, hintern⟩ := t.intern_cases key content <;> rw [hintern]
  · exact ⟨eraseDups_of_kept h.keys hp, h.places, h.shown⟩
  · refine ⟨eraseDups_of_new h.keys hnew, ?_, fun entry hentry ↦ ?_⟩
    · rw [List.map_append, h.places, List.range_succ]
      rfl
    · rcases List.mem_append.1 hentry with hentry | hentry
      · exact h.shown entry hentry
      · rw [List.mem_singleton.1 hentry]
        exact hcontent

/-- What is handed out shows the key, and is kept under it. -/
theorem Keeps.mem_of_intern (h : t.Keeps shown asked) {content : α}
    (hcontent : shown content = key) :
    shown (t.intern key content).1.content = key ∧
      (shown (t.intern key content).1.content, (t.intern key content).1) ∈
        (t.intern key content).2.entries := by
  have hmem := t.mem_entries_of_intern key content
  have hshown := (h.intern hcontent).shown _ hmem
  exact ⟨hshown, hshown ▸ hmem⟩

/-- There was one allocation for each key. -/
theorem Keeps.allocated (h : t.Keeps shown asked) : t.allocated = asked.eraseDups.length := by
  have hplaces := congrArg List.length h.places
  rw [List.length_map, List.length_range] at hplaces
  rw [← hplaces, ← h.keys, List.length_map]

/-- **Places and keys correspond one to one**: of two keys that are kept, both have the same pointer
or they have different places. -/
theorem Keeps.place_eq_iff (h : t.Keeps shown asked) (hp : (key, p) ∈ t.entries)
    (hp' : (key', p') ∈ t.entries) :
    (p.place = p'.place ↔ key = key') ∧ (p.place = p'.place ↔ p = p') := by
  have hkeys : (t.entries.map Prod.fst).Nodup := h.keys ▸ nodup_eraseDups asked
  have hplaces : (t.entries.map fun entry ↦ entry.2.place).Nodup := h.places ▸ List.nodup_range
  have hentry_of_place (heq : p.place = p'.place) : (key, p) = (key', p') :=
    List.inj_on_of_nodup_map hplaces hp hp' heq
  have hentry_of_key (heq : key = key') : (key, p) = (key', p') :=
    List.inj_on_of_nodup_map hkeys hp hp' heq
  exact ⟨⟨fun heq ↦ congrArg Prod.fst (hentry_of_place heq),
      fun heq ↦ congrArg (·.2.place) (hentry_of_key heq)⟩,
    ⟨fun heq ↦ congrArg Prod.snd (hentry_of_place heq), congrArg Pointer.place⟩⟩

/-- Places and what is found there correspond one to one as well. -/
theorem Keeps.place_eq_iff_content (h : t.Keeps shown asked) (hp : (key, p) ∈ t.entries)
    (hp' : (key', p') ∈ t.entries) : p.place = p'.place ↔ p.content = p'.content := by
  constructor
  · intro heq
    rw [(h.place_eq_iff hp hp').2.1 heq]
  · intro heq
    have hkey : shown p.content = key := h.shown _ hp
    have hkey' : shown p'.content = key' := h.shown _ hp'
    rw [(h.place_eq_iff hp hp').1, ← hkey, ← hkey', heq]

end InternTable
end VirtualTables
