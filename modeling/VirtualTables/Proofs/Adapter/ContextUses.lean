import Mathlib.Data.List.Forall2
import Mathlib.Data.List.Induction
import VirtualTables.Proofs.Adapter.Observation

/-!
# What a table does with its context

A table is handed a context and leaves it behind changed, and what happens in between is not visible
from outside.  It is described by a list of uses (`ContextUse`), of which only those count that
concern failures: `fail` leaves a message, and `takeFailure` takes it out again.  Every table can be
described in this way (`QueryContext.exists_becomes`), also one that takes its own failure back.

* `ContextUse.Stands` — a message was given and not taken back.
* `QueryContext.Becomes.failure_eq_some_iff` — the failure that is left in a context is the message
  that stands.
* `TableCall.OfMove` — the calls of one move of a cursor, and
  `TableCall.OfMove.failure_eq_some_iff`: the same for the context that the last of them leaves.
-/

namespace VirtualTables

variable {σ : Type}

/-- What stands before the last element of a list, and the last element. -/
theorem append_singleton_eq_append_cons {α : Type} {l before after : List α} {x y : α}
    (h : l ++ [x] = before ++ y :: after) :
    l = before ∧ x = y ∧ after = [] ∨ ∃ rest, after = rest ++ [x] ∧ l = before ++ y :: rest := by
  rcases List.eq_nil_or_concat after with rfl | ⟨rest, z, rfl⟩
  · obtain ⟨hl, hx⟩ := List.append_inj' h rfl
    exact .inl ⟨hl, List.singleton_inj.1 hx, rfl⟩
  · rw [List.concat_eq_append, ← List.cons_append, ← List.append_assoc] at h
    obtain ⟨hl, hx⟩ := List.append_inj' h rfl
    exact .inr ⟨rest, by rw [List.concat_eq_append, List.singleton_inj.1 hx], hl⟩

/-! ## What a table does with a context -/

/-- Something that a table does with its context, as far as failures are concerned. -/
inductive ContextUse where
  | fail (message : String)
  /-- Taking the failure back, before anyone else has seen it. -/
  | takeFailure
  /-- Anything that leaves the failure as it is, such as keeping a place. -/
  | other
  deriving DecidableEq

namespace ContextUse

variable {uses : List ContextUse} {u : ContextUse} {message : String}

/-- The message is the last one that was given to `fail`, and it was not taken back. -/
def Stands (message : String) (uses : List ContextUse) : Prop :=
  ∃ before after, uses = before ++ fail message :: after ∧ ∀ u ∈ after, u = other

theorem not_stands_nil : ¬Stands message [] := by
  rintro ⟨before, after, h, -⟩
  exact absurd h.symm (by simp)

theorem stands_concat :
    Stands message (uses ++ [u]) ↔ u = fail message ∨ u = other ∧ Stands message uses := by
  constructor
  · rintro ⟨before, after, h, hafter⟩
    obtain ⟨-, rfl, -⟩ | ⟨rest, rfl, rfl⟩ := append_singleton_eq_append_cons h
    · exact .inl rfl
    · rw [List.forall_mem_append] at hafter
      exact .inr ⟨hafter.2 u (List.mem_singleton_self u), before, rest, rfl, hafter.1⟩
  · rintro (rfl | ⟨rfl, before, after, rfl, hafter⟩)
    · exact ⟨uses, [], rfl, fun u hu ↦ absurd hu List.not_mem_nil⟩
    · refine ⟨before, after ++ [other], by simp, fun u hu ↦ ?_⟩
      rcases List.mem_append.1 hu with hu | hu
      · exact hafter u hu
      · exact List.mem_singleton.1 hu

/-- A table that takes no failure back has failed if it has called `fail`. -/
theorem exists_stands_iff (h : takeFailure ∉ uses) :
    (∃ message, Stands message uses) ↔ ∃ message, fail message ∈ uses := by
  induction uses using List.reverseRecOn with
  | nil => exact iff_of_false (fun ⟨_, h⟩ ↦ not_stands_nil h) (by simp)
  | append_singleton uses u ih =>
    rw [List.mem_append, not_or, List.mem_singleton] at h
    cases u with
    | fail message =>
      exact iff_of_true ⟨message, stands_concat.2 (.inl rfl)⟩ ⟨message, by simp⟩
    | takeFailure => exact absurd rfl h.2
    | other => simpa [stands_concat] using ih h.1

end ContextUse

open ContextUse

/-- A context after it was used in some ways, one after another. -/
inductive QueryContext.Becomes (given : QueryContext σ) :
    List ContextUse → QueryContext σ → Prop
  | start : Becomes given [] given
  | fail {uses : List ContextUse} {ctx : QueryContext σ} (before : Becomes given uses ctx)
      (message : String) : Becomes given (uses ++ [.fail message]) (ctx.fail message)
  | takeFailure {uses : List ContextUse} {ctx : QueryContext σ} (before : Becomes given uses ctx) :
      Becomes given (uses ++ [.takeFailure]) ctx.takeFailure.2
  | other {uses : List ContextUse} {ctx left : QueryContext σ} (before : Becomes given uses ctx)
      (failure : left.failure = ctx.failure) : Becomes given (uses ++ [.other]) left

namespace QueryContext

variable {given ctx left : QueryContext σ} {uses more : List ContextUse} {message : String}

/-- Whatever a table makes of a context can be described in this way. -/
theorem exists_becomes (given left : QueryContext σ) : ∃ uses, given.Becomes uses left := by
  cases h : left.failure with
  | none => exact ⟨_, (Becomes.start.takeFailure).other h⟩
  | some message => exact ⟨_, (Becomes.start.fail message).other h⟩

theorem Becomes.trans (h : given.Becomes uses ctx) (h' : ctx.Becomes more left) :
    given.Becomes (uses ++ more) left := by
  induction h' with
  | start => rwa [List.append_nil]
  | fail _ message ih =>
    rw [← List.append_assoc]
    exact ih.fail message
  | takeFailure _ ih =>
    rw [← List.append_assoc]
    exact ih.takeFailure
  | other _ failure ih =>
    rw [← List.append_assoc]
    exact ih.other failure

/-- The failure that is left in a context is the message that stands. -/
theorem Becomes.failure_eq_some_iff (h : given.Becomes uses left) (hgiven : given.failure = none) :
    left.failure = some message ↔ Stands message uses := by
  induction h with
  | start => exact iff_of_false (by rw [hgiven]; simp) not_stands_nil
  | fail _ m ih => simp [stands_concat, QueryContext.fail]
  | takeFailure _ ih => simp [stands_concat, QueryContext.takeFailure]
  | other _ failure ih => simp [stands_concat, failure, ih]

end QueryContext

namespace TableCall

/-- The context that a call was given. -/
def given : TableCall σ → QueryContext σ
  | prepare ctx _ | next ctx _ _ => ctx

/-- The context that a call has left. -/
def left : TableCall σ → QueryContext σ
  | prepare _ ctx | next _ ctx _ => ctx

/-- Whether the table has answered that it produced a row. -/
def hasProduced : TableCall σ → Bool
  | prepare .. => false
  | next _ _ produced => produced

/-- What the table does with the context of a call. -/
def Uses (call : TableCall σ) (uses : List ContextUse) : Prop :=
  call.given.Becomes uses call.left

theorem exists_uses (calls : List (TableCall σ)) : ∃ parts, List.Forall₂ Uses calls parts := by
  induction calls with
  | nil => exact ⟨[], .nil⟩
  | cons call rest ih =>
    obtain ⟨uses, huses⟩ := QueryContext.exists_becomes call.given call.left
    obtain ⟨parts, hparts⟩ := ih
    exact ⟨uses :: parts, .cons huses hparts⟩

/-- The calls of a move that reaches the table, and the context that is left by the last one.  The
first call is given a context without a failure.  A table that has failed to prepare a scan is not
asked for a row. -/
inductive OfMove : List (TableCall σ) → QueryContext σ → Prop
  | next {ctx ctx' : QueryContext σ} {produced : Bool} (given : ctx.failure = none) :
    OfMove [next ctx ctx' produced] ctx'
  | prepareFailed {ctx ctx' : QueryContext σ} (given : ctx.failure = none)
      (left : ctx'.failure ≠ none) : OfMove [prepare ctx ctx'] ctx'
  | prepared {ctx ctx' ctx'' : QueryContext σ} {produced : Bool} (given : ctx.failure = none)
      (left : ctx'.failure = none) : OfMove [prepare ctx ctx', next ctx' ctx'' produced] ctx''

theorem OfMove.failure_eq_some_iff {calls : List (TableCall σ)} {left : QueryContext σ}
    (h : OfMove calls left) {parts : List (List ContextUse)}
    (hparts : List.Forall₂ Uses calls parts) {message : String} :
    left.failure = some message ↔ Stands message parts.flatten := by
  cases h with
  | next hgiven | prepareFailed hgiven _ =>
    cases hparts with
    | cons huses hnil =>
      cases hnil
      rw [List.flatten_singleton]
      exact huses.failure_eq_some_iff hgiven
  | prepared hgiven hleft =>
    cases hparts with
    | cons huses hrest =>
      cases hrest with
      | cons huses' hnil =>
        cases hnil
        rw [List.flatten_cons, List.flatten_singleton]
        exact (huses.trans huses').failure_eq_some_iff hgiven

end TableCall

end VirtualTables
