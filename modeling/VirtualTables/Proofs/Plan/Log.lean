import VirtualTables.Plan.Log
import VirtualTables.Proofs.Distinct

/-!
# What a log holds

A log that takes in one refusal after another holds each of them once, in the order in which they
came first.  In a history of calls it is drained and cleared in between, and what was recorded
before is then forgotten: a refusal that comes again is recorded again.

`PlanningLog.log_of_calls` says what a log holds after any history, and that a drain gives just
this, whatever is asked of the log afterwards.  Refusals are told apart by all that they say, and so
are the causes behind them (`Diagnostic.eq_iff`).
-/

namespace VirtualTables

/-- Diagnostics are equal if they say the same and their causes are equal. -/
theorem Diagnostic.eq_iff {d e : Diagnostic} :
    d = e ↔ d.code = e.code ∧ d.message = e.message ∧ d.label = e.label ∧ d.help = e.help ∧
      d.notes = e.notes ∧ d.cause? = e.cause? := by
  constructor
  · rintro rfl
    exact ⟨rfl, rfl, rfl, rfl, rfl, rfl⟩
  · obtain ⟨⟨⟩, causes⟩ := d
    obtain ⟨⟨⟩, causes'⟩ := e
    rintro ⟨rfl, rfl, rfl, rfl, rfl, hcause⟩
    cases causes with
    | nil =>
      cases causes' with
      | nil => rfl
      | cons r' rest' => exact absurd hcause (by simp [cause?])
    | cons r rest =>
      cases causes' with
      | nil => exact absurd hcause (by simp [cause?])
      | cons r' rest' =>
        obtain ⟨rfl, rfl⟩ : r = r' ∧ rest = rest' := by simpa [cause?] using hcause
        rfl

namespace PlanningLog

/-- A call on a log. -/
inductive Call where
  | record (d : Diagnostic)
  | drain
  | clear
  deriving DecidableEq

/-- The diagnostic that a call records; the other calls empty the log. -/
def Call.recorded? : Call → Option Diagnostic
  | record d => some d
  | drain | clear => none

/-- Answers a call. Only a drain gives anything back. -/
def answer (l : PlanningLog) : Call → Option (List Diagnostic) × PlanningLog
  | .record d => (none, l.record d)
  | .drain => (some l.drain.1, l.drain.2)
  | .clear => (none, empty)

/-- Answers calls one after another. -/
def run (l : PlanningLog) : List Call → List (Option (List Diagnostic)) × PlanningLog
  | [] => ([], l)
  | c :: rest => ((l.answer c).1 :: ((l.answer c).2.run rest).1, ((l.answer c).2.run rest).2)

/-- What was recorded since the last drain or clear, with its repetitions. -/
def recordedSince (calls : List Call) : List Diagnostic :=
  sinceEmptied Call.recorded? calls

/-! ## One call -/

theorem record_eraseDups (ds : List Diagnostic) (d : Diagnostic) :
    record ⟨ds.eraseDups⟩ d = ⟨(ds ++ [d]).eraseDups⟩ := by
  rw [record, eraseDups_append_singleton]
  simp only [List.mem_eraseDups]
  split <;> rfl

theorem foldl_record_empty (ds : List Diagnostic) : ds.foldl record empty = ⟨ds.eraseDups⟩ := by
  induction ds using List.reverseRecOn with
  | nil => rfl
  | append_singleton ds d ih =>
    rw [List.foldl_append, ih, List.foldl_cons, List.foldl_nil, record_eraseDups]

/-- A log that holds what was recorded since it was last emptied does so after the next call. -/
theorem answer_recordedSince (calls : List Call) (c : Call) :
    (answer ⟨(recordedSince calls).eraseDups⟩ c).2 =
      ⟨(recordedSince (calls ++ [c])).eraseDups⟩ := by
  cases c with
  | record d =>
    have hone : recordedSince (calls ++ [.record d]) = recordedSince calls ++ [d] :=
      sinceEmptied_of_some calls rfl
    rw [answer, record_eraseDups, hone]
  | drain =>
    have hnone : recordedSince (calls ++ [.drain]) = [] := sinceEmptied_of_none calls rfl
    rw [hnone]
    rfl
  | clear =>
    have hnone : recordedSince (calls ++ [.clear]) = [] := sinceEmptied_of_none calls rfl
    rw [hnone]
    rfl

/-! ## Histories -/

theorem run_append (l : PlanningLog) (before after : List Call) :
    l.run (before ++ after) =
      ((l.run before).1 ++ ((l.run before).2.run after).1, ((l.run before).2.run after).2) := by
  induction before generalizing l with
  | nil => rfl
  | cons c rest ih => rw [List.cons_append, run, ih, run, List.cons_append]

theorem length_replies (l : PlanningLog) (calls : List Call) :
    (l.run calls).1.length = calls.length := by
  induction calls generalizing l with
  | nil => rfl
  | cons c rest ih => rw [run, List.length_cons, List.length_cons, ih]

theorem log_run (calls : List Call) :
    (empty.run calls).2 = ⟨(recordedSince calls).eraseDups⟩ := by
  induction calls using List.reverseRecOn with
  | nil => rfl
  | append_singleton calls c ih => rw [run_append, ih, ← answer_recordedSince, run, run]

/-- **A log holds what was recorded since it was last emptied**, each diagnostic once and in the
order in which they were recorded first.  A drain in the middle of any history gives this list and
leaves nothing, and diagnostics count as the same only if they agree in everything, their causes
included. -/
theorem log_of_calls (calls later : List Call) :
    let log := (empty.run calls).2
    FirstOccurrences log.entries (recordedSince calls) ∧
      (empty.run (calls ++ .drain :: later)).1[calls.length]? = some (some log.entries) ∧
      (empty.run (calls ++ [.drain])).2 = empty ∧
      ∀ d e : Diagnostic, d = e ↔ d.code = e.code ∧ d.message = e.message ∧ d.label = e.label ∧
        d.help = e.help ∧ d.notes = e.notes ∧ d.cause? = e.cause? := by
  intro log
  have hlog : log.entries = (recordedSince calls).eraseDups :=
    congrArg entries (log_run calls)
  refine ⟨firstOccurrences_iff.2 hlog, ?_, ?_, fun d e ↦ Diagnostic.eq_iff⟩
  · have hlength : (empty.run calls).1.length = calls.length := length_replies empty calls
    rw [run_append, List.getElem?_append_right (Nat.le_of_eq hlength), hlength, Nat.sub_self, run,
      List.getElem?_cons_zero]
    rfl
  · rw [run_append]
    rfl

/-- What was drained may be recorded again. -/
example :
    let missing : Diagnostic := .plain "VTAB_001" "missing"
    (empty.run [.record missing, .record missing, .drain, .record missing, .drain]).1 =
      [none, none, some [missing], none, some [missing]] := by
  decide

end PlanningLog
end VirtualTables
