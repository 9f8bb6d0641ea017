import Mathlib.Data.List.Forall2
import VirtualTables.Proofs.Function.Arguments
import VirtualTables.Sample.Functions

/-!
# When the body of a function is run

Before the body of a function is run, its arguments are looked at: there have to be as many as are
declared, and the function has to be able to receive each of them.  The body relies on this.  It
does not ask for types again, it takes a missing argument for one that its caller has left out, and
if it has effects, then none of them must come from a call that is refused.

`call_of_arguments` says that all this can be relied on.  The body is run once if every argument can
be received, and it is given the arguments as they are received; otherwise it is not run at all, and
the failure is that of the first argument that stands in the way.  How often a body is run is not to
be seen from what it gives, so the body is made to note its arguments (`runs`).
-/

namespace VirtualTables
namespace ScalarFunction

/-! ## Counting runs -/

/-- The body of the function, which notes what it is run with. -/
def noting (f : ScalarFunction) (noted : List (List Value)) (values : List Value) :
    List (List Value) × Except Diagnostic Value :=
  (noted ++ [values], f.body values)

/-- What the body is run with in a call, run by run. -/
def runs (f : ScalarFunction) (args : List Value) : List (List Value) :=
  (f.callWith f.noting [] args).1

variable {f : ScalarFunction} {args values : List Value}

/-- Noting changes nothing: the call gives what it gives without. -/
theorem callWith_noting (f : ScalarFunction) (args : List Value) :
    f.callWith f.noting [] args = (f.runs args, f.call args) := by
  have hcall : (f.callWith f.noting [] args).2 = f.call args := by
    rw [call, callWith, callWith]
    cases f.arguments args <;> rfl
  rw [runs, ← hcall]

theorem runs_of_ok (h : f.arguments args = .ok values) : f.runs args = [values] := by
  rw [runs, callWith, h]
  rfl

theorem runs_of_error {e : FunctionError} (h : f.arguments args = .error e) :
    f.runs args = [] := by
  rw [runs, callWith, h]

/-! ## What is received -/

/-- If every argument can be received, then the arguments are received position by position. -/
theorem acceptAll_of_receivable {types : List DataType} {args : List Value}
    (h : List.Forall₂ Receivable types args) (name : String) (index : Nat) :
    acceptAll name index types args = .ok (List.zipWith received types args) := by
  induction h generalizing index with
  | nil => rfl
  | cons hfirst _ ih =>
    rw [acceptAll_cons_of_some (accept?_of_receivable hfirst), ih]
    rfl

theorem arguments_of_receivable (h : List.Forall₂ Receivable f.expected args) :
    f.arguments args = .ok (List.zipWith received f.expected args) := by
  rw [arguments, if_neg (not_not_intro h.length_eq.symm), acceptAll_of_receivable h]

/-- If not, the first argument that cannot be received is in the way. -/
theorem arguments_of_not_receivable (hlen : args.length = f.expected.length)
    (h : ¬List.Forall₂ Receivable f.expected args) :
    ∃ i t arg, f.expected[i]? = some t ∧ args[i]? = some arg ∧ ¬Receivable t arg ∧
      (∀ j < i, ∀ t arg, f.expected[j]? = some t → args[j]? = some arg → Receivable t arg) ∧
      f.arguments args = .error (.argumentType f.name i t arg.type) := by
  have harguments : f.arguments args = acceptAll f.name 0 f.expected args :=
    if_neg (not_not_intro hlen)
  cases haccept : acceptAll f.name 0 f.expected args with
  | ok values =>
    -- then every argument was accepted
    refine absurd (List.forall₂_iff_get.2 ⟨hlen.symm, fun i ht harg ↦ ?_⟩) h
    obtain ⟨v, hv, -⟩ := getElem?_of_acceptAll haccept (List.getElem?_eq_getElem ht)
      (List.getElem?_eq_getElem harg)
    by_contra hnot
    rw [← accept?_eq_none_iff] at hnot
    exact absurd (hv.symm.trans hnot) (by simp)
  | error e =>
    obtain ⟨i, t, arg, ht, harg, hnone, rfl, hbefore⟩ := acceptAll_eq_error haccept
    refine ⟨i, t, arg, ht, harg, accept?_eq_none_iff.1 hnone, fun j hj t arg ht harg ↦ ?_, ?_⟩
    · by_contra hnot
      have hsome := hbefore j hj t arg ht harg
      rw [accept?_of_not_receivable hnot] at hsome
      cases hsome
    · rw [harguments, haccept, Nat.zero_add]

/-- A function sees the type that it has declared or a missing argument, if it has declared a type
at all. -/
theorem type_received {t : DataType} (arg : Value) (ht : t ≠ .any) :
    (received t arg).type = t ∨ received t arg = .undefined := by
  rw [received_eq_coerce]
  exact arg.type_coerce ht

/-- No argument gets lost on the way: a function that misses one was not given it. -/
theorem received_eq_undefined_iff {t : DataType} {arg : Value} (h : Receivable t arg) :
    received t arg = .undefined ↔ arg = .undefined := by
  rw [received_eq_coerce]
  constructor
  · intro hmissing
    rcases h with hkept | hcoerced
    · rwa [coerce_of_kept hkept] at hmissing
    · exact absurd hmissing hcoerced
  · rintro rfl
    exact Value.coerce_undefined t

/-! ## Calls -/

/-- **The body of a function is run at most once, and exactly if it can receive every argument.**
It is given the arguments as they are received, position by position, and what it gives is what the
call gives.  If it is not run, the failure is that of a wrong number of arguments, or else that of
the first argument that cannot be received.  What the body sees at a position has the declared type,
if that is not any type at all, or is missing, and it is missing only if the argument was. -/
theorem call_of_arguments (f : ScalarFunction) (args : List Value) :
    (List.Forall₂ Receivable f.expected args →
        f.runs args = [List.zipWith received f.expected args] ∧
          f.call args = f.body (List.zipWith received f.expected args)) ∧
      (¬List.Forall₂ Receivable f.expected args → f.runs args = [] ∧
        (args.length ≠ f.expected.length ∧
            (∃ d, f.call args = .error d ∧ d.code = "FUNCTION_002" ∧
              d = (FunctionError.arity f.name f.expected.length args.length).diagnostic) ∨
          args.length = f.expected.length ∧
            ∃ i t arg, f.expected[i]? = some t ∧ args[i]? = some arg ∧ ¬Receivable t arg ∧
              (∀ j < i, ∀ t arg, f.expected[j]? = some t → args[j]? = some arg →
                Receivable t arg) ∧
              ∃ d, f.call args = .error d ∧ d.code = "FUNCTION_004" ∧
                d = (FunctionError.argumentType f.name i t arg.type).diagnostic)) ∧
      ∀ t arg, Receivable t arg →
        (t = .any ∨ (received t arg).type = t ∨ received t arg = .undefined) ∧
          (received t arg = .undefined ↔ arg = .undefined) := by
  refine ⟨fun h ↦ ?_, fun h ↦ ?_, fun t arg h ↦ ⟨?_, received_eq_undefined_iff h⟩⟩
  · have harguments := arguments_of_receivable h
    exact ⟨runs_of_ok harguments, call_of_ok harguments⟩
  · by_cases hlen : args.length = f.expected.length
    · obtain ⟨i, t, arg, ht, harg, hnot, hbefore, harguments⟩ := arguments_of_not_receivable hlen h
      exact ⟨runs_of_error harguments,
        .inr ⟨hlen, i, t, arg, ht, harg, hnot, hbefore, _, call_of_error harguments, rfl, rfl⟩⟩
    · have harguments : f.arguments args = .error (.arity f.name f.expected.length args.length) :=
        if_pos hlen
      exact ⟨runs_of_error harguments, .inl ⟨hlen, _, call_of_error harguments, rfl, rfl⟩⟩
  · by_cases hany : t = .any
    · exact .inl hany
    · exact .inr (type_received arg hany)

end ScalarFunction

/-! ### A function that joins its arguments -/

namespace Sample

/-- The function that joins the texts of a number, a text and whatever comes last. -/
def joined : ScalarFunction :=
  Recipe.function "joined" [.integer .int1, .utf8, .any] .concat

open ScalarFunction

/-- The text `" 12 "` is received as a number and the truth value as a text, and what is missing
stays missing.  In the other call the first two arguments are in the way, and the first is named. -/
theorem call_of_joined :
    joined.runs [.utf8 " 12 ", .boolean true, .undefined] =
        [[.integer .int1 (.wrap .int1 12), .utf8 "true", .undefined]] ∧
      ∃ d, joined.call [.integer .int8 (.wrap .int8 300), .blob [0xff], .undefined] = .error d ∧
        d.message = "Function joined argument 1 has invalid type: expected int1, got int8" ∧
        joined.runs [.integer .int8 (.wrap .int8 300), .blob [0xff], .undefined] = [] := by
  have hgood : List.Forall₂ Receivable joined.expected
      [.utf8 " 12 ", .boolean true, .undefined] := by
    refine .cons (.inr ?_) (.cons (.inr ?_) (.cons (.inl (.inl rfl)) .nil))
    · decide +kernel
    · decide +kernel
  have hbad : ¬Receivable (.integer .int1) (.integer .int8 (.wrap .int8 300)) := by
    rw [← accept?_eq_none_iff]
    rfl
  obtain ⟨hruns, -⟩ := (call_of_arguments joined _).1 hgood
  obtain ⟨hnone, hfails⟩ := (call_of_arguments joined
    [.integer .int8 (.wrap .int8 300), .blob [0xff], .undefined]).2.1 fun h ↦ by
      cases h with
      | cons hfirst => exact hbad hfirst
  refine ⟨?_, ?_⟩
  · rw [hruns]
    decide +kernel
  · rcases hfails with ⟨hlen, -⟩ | ⟨-, i, t, arg, ht, harg, -, hbefore, d, hd, -, rfl⟩
    · exact absurd rfl hlen
    · have hi : i = 0 := by
        by_contra hpos
        exact hbad (hbefore 0 (Nat.pos_of_ne_zero hpos) _ _ rfl rfl)
      subst hi
      cases ht
      cases harg
      exact ⟨_, hd, rfl, hnone⟩

end Sample

end VirtualTables
