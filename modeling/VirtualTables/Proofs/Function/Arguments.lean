import VirtualTables.Function.Basic
import VirtualTables.Proofs.Value.Coercion

/-!
# Arguments as a function receives them

The arguments of a call are accepted one after another, each for the type that is declared for it.
An argument is accepted exactly if the function can receive it (`ScalarFunction.Receivable`).
If all of them are, then the function receives what they were accepted as, position by position
(`ScalarFunction.getElem?_of_acceptAll`).  If not, the failure is that of the first argument that is
not accepted (`ScalarFunction.acceptAll_eq_error`); besides it there is only the failure of a wrong
number of arguments.
-/

namespace VirtualTables
namespace ScalarFunction

/-! ## One argument -/

/-- An argument that a function sees as it is when it declares the type `t` for it. -/
def Kept (t : DataType) (arg : Value) : Prop :=
  arg = .undefined ∨ t = .any ∨ arg.type = t

instance (t : DataType) (arg : Value) : Decidable (Kept t arg) :=
  inferInstanceAs (Decidable (_ ∨ _))

/-- An argument that a function can receive: it is kept, or it can be taken to the type. -/
def Receivable (t : DataType) (arg : Value) : Prop :=
  Kept t arg ∨ arg.coerce t ≠ .undefined

/-- The argument as the function receives it. -/
def received (t : DataType) (arg : Value) : Value :=
  if Kept t arg then arg else arg.coerce t

section One

variable {t : DataType} {arg v : Value}

/-- No coercion changes an argument that is kept. -/
theorem coerce_of_kept (h : Kept t arg) : arg.coerce t = arg := by
  rcases h with rfl | hany | htype
  · exact Value.coerce_undefined t
  · exact Value.coerce_of_same (.inl hany)
  · exact Value.coerce_of_same (.inr htype.symm)

/-- So every argument is received as what the coercion makes of it. -/
theorem received_eq_coerce (t : DataType) (arg : Value) : received t arg = arg.coerce t := by
  by_cases h : Kept t arg
  · rw [received, if_pos h, coerce_of_kept h]
  · rw [received, if_neg h]

theorem kept_iff : (t = .any ∨ arg.isUndefined = true ∨ arg.type = t) ↔ Kept t arg := by
  rw [Value.isUndefined_iff, Kept, or_left_comm]

theorem accept?_of_receivable (h : Receivable t arg) : accept? t arg = some (received t arg) := by
  by_cases hkept : Kept t arg
  · rw [accept?, if_pos (kept_iff.2 hkept), received, if_pos hkept]
  · have hv : ¬(arg.coerce t).isUndefined = true := by
      rw [Value.isUndefined_iff]
      exact h.resolve_left hkept
    rw [accept?, if_neg (mt kept_iff.1 hkept), received, if_neg hkept, if_neg hv]

theorem accept?_of_not_receivable (h : ¬Receivable t arg) : accept? t arg = none := by
  rw [Receivable, not_or, Decidable.not_not] at h
  rw [accept?, if_neg (mt kept_iff.1 h.1), h.2]
  rfl

theorem accept?_eq_none_iff : accept? t arg = none ↔ ¬Receivable t arg := by
  refine ⟨fun h hreceivable ↦ ?_, accept?_of_not_receivable⟩
  rw [accept?_of_receivable hreceivable] at h
  cases h

/-- What is missing is accepted for every type, as it is. -/
theorem accept?_undefined (t : DataType) : accept? t .undefined = some .undefined := by
  rw [accept?_of_receivable (.inl (.inl rfl)), received_eq_coerce, Value.coerce_undefined]

/-- An argument is accepted as what it can be taken to. -/
theorem accept?_of_coerce (h : arg.coerce t = v) (hv : v ≠ .undefined) :
    accept? t arg = some v := by
  subst h
  rw [accept?_of_receivable (.inr hv), received_eq_coerce]

end One

/-! ## All arguments -/

section All

variable {name : String} {index : Nat} {types : List DataType} {args received : List Value}
  {t : DataType} {arg v : Value}

theorem acceptAll_cons_of_some (h : accept? t arg = some v) :
    acceptAll name index (t :: types) (arg :: args) =
      (acceptAll name (index + 1) types args).map (v :: ·) := by
  rw [acceptAll, h]

theorem acceptAll_cons_of_none (h : accept? t arg = none) :
    acceptAll name index (t :: types) (arg :: args) =
      .error (.argumentType name index t arg.type) := by
  rw [acceptAll, h]

/-- A function receives at each position what the argument was accepted as. -/
theorem getElem?_of_acceptAll (h : acceptAll name index types args = .ok received) {i : Nat}
    (ht : types[i]? = some t) (harg : args[i]? = some arg) :
    ∃ v, accept? t arg = some v ∧ received[i]? = some v := by
  induction types generalizing index args received i with
  | nil => cases ht
  | cons t₀ types ih =>
    cases args with
    | nil => cases harg
    | cons arg₀ args =>
      cases haccept : accept? t₀ arg₀ with
      | none =>
        rw [acceptAll_cons_of_none haccept] at h
        cases h
      | some v₀ =>
        rw [acceptAll_cons_of_some haccept] at h
        cases hlater : acceptAll name (index + 1) types args with
        | error e => rw [hlater] at h; cases h
        | ok rest =>
          rw [hlater] at h
          cases h
          cases i with
          | zero =>
            cases ht
            cases harg
            exact ⟨v₀, haccept, rfl⟩
          | succ i => exact ih hlater ht harg

/-- **The failure of the arguments** is that of the first one that is not accepted. -/
theorem acceptAll_eq_error {e : FunctionError} (h : acceptAll name index types args = .error e) :
    ∃ i t arg, types[i]? = some t ∧ args[i]? = some arg ∧ accept? t arg = none ∧
      e = .argumentType name (index + i) t arg.type ∧
      ∀ j < i, ∀ t arg, types[j]? = some t → args[j]? = some arg → (accept? t arg).isSome := by
  induction types generalizing index args with
  | nil => cases h
  | cons t₀ types ih =>
    cases args with
    | nil => cases h
    | cons arg₀ args =>
      cases haccept : accept? t₀ arg₀ with
      | none =>
        rw [acceptAll_cons_of_none haccept] at h
        cases h
        exact ⟨0, t₀, arg₀, rfl, rfl, haccept, rfl, fun j hj ↦ absurd hj (Nat.not_lt_zero j)⟩
      | some v₀ =>
        rw [acceptAll_cons_of_some haccept] at h
        cases hlater : acceptAll name (index + 1) types args with
        | ok rest => rw [hlater] at h; cases h
        | error e' =>
          rw [hlater] at h
          cases h
          obtain ⟨i, t, arg, ht, harg, hnone, rfl, hbefore⟩ := ih hlater
          refine ⟨i + 1, t, arg, ht, harg, hnone, ?_, fun j hj ↦ ?_⟩
          · rw [Nat.add_assoc, Nat.add_comm 1]
          · cases j with
            | zero =>
              rintro t arg ht harg
              cases ht
              cases harg
              rw [haccept]
              rfl
            | succ j => exact hbefore j (Nat.lt_of_succ_lt_succ hj)

end All

/-- A function receives at each position what the argument was accepted as, if it receives its
arguments. -/
theorem getElem?_of_arguments {f : ScalarFunction} {args received : List Value}
    (h : f.arguments args = .ok received) {i : Nat} {t : DataType} {arg : Value}
    (ht : f.expected[i]? = some t) (harg : args[i]? = some arg) :
    ∃ v, accept? t arg = some v ∧ received[i]? = some v := by
  rw [arguments] at h
  split at h
  · cases h
  · exact getElem?_of_acceptAll h ht harg

/-- A call whose arguments are accepted runs the body. -/
theorem call_of_ok {f : ScalarFunction} {args received : List Value}
    (h : f.arguments args = .ok received) : f.call args = f.body received := by
  rw [call, callWith, h]

/-- A call whose arguments are not accepted fails with the reason. -/
theorem call_of_error {f : ScalarFunction} {args : List Value} {e : FunctionError}
    (h : f.arguments args = .error e) : f.call args = .error e.diagnostic := by
  rw [call, callWith, h]

/-- **A call runs its body, or it fails in one of two ways**: the number of arguments is not the
declared one, or one of them is not accepted. -/
theorem arguments_cases (f : ScalarFunction) (args : List Value) :
    (∃ received, f.arguments args = .ok received ∧ f.call args = f.body received) ∨
      (args.length ≠ f.expected.length ∧
        f.arguments args = .error (.arity f.name f.expected.length args.length)) ∨
      ∃ i t arg, f.expected[i]? = some t ∧ args[i]? = some arg ∧ accept? t arg = none ∧
        f.arguments args = .error (.argumentType f.name i t arg.type) := by
  by_cases hlen : args.length = f.expected.length
  · have harguments : f.arguments args = acceptAll f.name 0 f.expected args :=
      if_neg (not_not_intro hlen)
    cases haccept : acceptAll f.name 0 f.expected args with
    | ok received =>
      have hreceived := harguments.trans haccept
      exact .inl ⟨received, hreceived, call_of_ok hreceived⟩
    | error e =>
      obtain ⟨i, t, arg, ht, harg, hnone, rfl, -⟩ := acceptAll_eq_error haccept
      rw [Nat.zero_add] at haccept
      exact .inr (.inr ⟨i, t, arg, ht, harg, hnone, harguments.trans haccept⟩)
  · exact .inr (.inl ⟨hlen, if_pos hlen⟩)

end ScalarFunction
end VirtualTables
