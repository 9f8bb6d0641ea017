import VirtualTables.Proofs.Roster
import VirtualTables.Proofs.Table.Summary
import VirtualTables.Sample.Databases
import VirtualTables.Sample.Functions
import VirtualTables.Sample.Paths
import VirtualTables.Sample.Users

/-!
# What a database has registered

Tables and functions are registered and removed by four calls.  Each of them first looks at the
names that are registered, and a table also at its own definition; only if nothing speaks against
the call does the engine hear of it.  Nothing is assumed of the engine.  But as long as it accepts
what it hears of (`Database.Accepted`), the calls alone decide everything: `Database.Lists` is the
invariant that the registered tables and the registered functions are the two rosters of the calls
so far, and `listings_of_calls` draws the conclusion for what the calls answer
(`Database.AnswersBy`) and what is listed after them.

The four lemmas `addTable_cases` to `removeFunction_cases` say all that the calls can do if they are
accepted.  Whether they are or not, `infos_of_failed_call` says that a call which fails leaves both
listings as they are.
-/

namespace VirtualTables

variable {τ σ : Type}

/-- A call that registers or removes something. -/
inductive RegistryCall (τ σ : Type) where
  | addTable (table : FiniteTable τ σ) (memory : τ)
  | removeTable (name : String)
  | addFunction (f : ScalarFunction)
  | removeFunction (name : String)

/-- A failure with the given code. -/
def FailsWith (answer : Except Diagnostic Unit) (code : String) : Prop :=
  ∃ d, answer = .error d ∧ d.code = code

namespace RegistryCall

/-- The name of a table with its memory. -/
def tableName (entry : FiniteTable τ σ × τ) : String :=
  entry.1.definition.name

/-- What a call does to the roster of tables: nothing if the definition is not valid. -/
def tableChange? : RegistryCall τ σ → Option (Change (FiniteTable τ σ × τ))
  | addTable table memory =>
    match table.definition.validate with
    | .ok () => some (.add (table, memory))
    | .error _ => none
  | removeTable name => some (.remove name)
  | addFunction _ | removeFunction _ => none

/-- What a call does to the roster of functions. -/
def functionChange? : RegistryCall τ σ → Option (Change ScalarFunction)
  | addTable .. | removeTable _ => none
  | addFunction f => some (.add f)
  | removeFunction name => some (.remove name)

/-- What calls do to the roster of tables. -/
def tableChanges (calls : List (RegistryCall τ σ)) : List (Change (FiniteTable τ σ × τ)) :=
  calls.filterMap tableChange?

/-- What calls do to the roster of functions. -/
def functionChanges (calls : List (RegistryCall τ σ)) : List (Change ScalarFunction) :=
  calls.filterMap functionChange?

end RegistryCall

open RegistryCall

/-- Whether an engine accepts the module and the table, or the function, that a call registers, or
the drop or the removal that it asks for. -/
def RegistryEngine.accepts (engine : RegistryEngine τ σ) (db : Database τ σ) :
    RegistryCall τ σ → Bool
  | .addTable table _ =>
    (engine.moduleRefusal? db table.definition).isNone &&
      (engine.creationRefusal? db table.definition).isNone
  | .removeTable name => (engine.dropRefusal? db name).isNone
  | .addFunction f => (engine.functionRefusal? db f.name).isNone
  | .removeFunction name => (engine.removalRefusal? db name).isNone

namespace Database

/-- Answers a call. -/
def answerCall (engine : RegistryEngine τ σ) (db : Database τ σ) :
    RegistryCall τ σ → Except Diagnostic Unit × Database τ σ
  | .addTable table memory => db.addTableWith engine table memory
  | .removeTable name => db.removeTableWith engine name
  | .addFunction f => db.addFunctionWith engine f
  | .removeFunction name => db.removeFunctionWith engine name

/-- The database after calls. -/
def afterCalls (engine : RegistryEngine τ σ) (db : Database τ σ) :
    List (RegistryCall τ σ) → Database τ σ
  | [] => db
  | c :: rest => (db.answerCall engine c).2.afterCalls engine rest

/-! ## What the engine hears of -/

/-- Whether the engine hears of a call. -/
def asksEngine (db : Database τ σ) : RegistryCall τ σ → Bool
  | .addTable table _ =>
    table.definition.fault?.isNone && (db.registration? table.definition.name).isNone
  | .removeTable name => (db.registration? name).isSome
  | .addFunction f => (db.function? f.name).isNone
  | .removeFunction name => (db.function? name).isSome

/-- The engine accepts all that it hears of while calls are answered. -/
def Accepted (engine : RegistryEngine τ σ) (db : Database τ σ) : List (RegistryCall τ σ) → Prop
  | [] => True
  | c :: rest =>
    (db.asksEngine c → engine.accepts db c) ∧ (db.answerCall engine c).2.Accepted engine rest

instance decidableAccepted (engine : RegistryEngine τ σ) (db : Database τ σ) :
    (calls : List (RegistryCall τ σ)) → Decidable (db.Accepted engine calls)
  | [] => .isTrue trivial
  | c :: rest =>
    have := decidableAccepted engine (db.answerCall engine c).2 rest
    inferInstanceAs (Decidable ((db.asksEngine c → engine.accepts db c) ∧ _))

/-! ## What the calls can do -/

section Calls

variable {engine : RegistryEngine τ σ}

theorem validate_cases (d : TableDef) :
    (d.fault? = none ∧ d.validate = .ok ()) ∨
      ∃ e, e.code = "VTAB_005" ∧ d.fault? ≠ none ∧ d.validate = .error e := by
  rw [TableDef.validate]
  cases d.fault? with
  | none => exact .inl ⟨rfl, rfl⟩
  | some fault => exact .inr ⟨_, rfl, Option.some_ne_none fault, rfl⟩

theorem addTable_cases {db : Database τ σ} {table : FiniteTable τ σ} {memory : τ}
    (haccepts : db.asksEngine (.addTable table memory) →
      engine.accepts db (.addTable table memory)) :
    let name := table.definition.name
    (∃ e, e.code = "VTAB_005" ∧ table.definition.validate = .error e ∧
        db.addTableWith engine table memory = (.error e.diagnostic, db)) ∨
      (table.definition.validate = .ok () ∧ (db.registration? name).isSome ∧
        db.addTableWith engine table memory =
          (.error (TableError.alreadyRegistered name).diagnostic, db)) ∨
      table.definition.validate = .ok () ∧ (db.registration? name).isSome = false ∧
        db.addTableWith engine table memory = (.ok (), { db with
          tables := db.tables ++ [{ table, memory, backlog := .new db.config.planBacklog }] }) := by
  intro name
  obtain ⟨hfault, hvalid⟩ | ⟨e, hcode, -, hinvalid⟩ := validate_cases table.definition
  · cases hname : (db.registration? name).isSome with
    | true => exact .inr (.inl ⟨hvalid, rfl, by rw [addTableWith, hvalid]; exact if_pos hname⟩)
    | false =>
      refine .inr (.inr ⟨hvalid, rfl, ?_⟩)
      have hasks : db.asksEngine (.addTable table memory) := by
        rw [asksEngine, hfault, Option.isNone_none, Bool.true_and, ← Option.not_isSome, hname]
        rfl
      have haccepted := haccepts hasks
      rw [RegistryEngine.accepts, Bool.and_eq_true, Option.isNone_iff_eq_none,
        Option.isNone_iff_eq_none] at haccepted
      rw [addTableWith, hvalid]
      dsimp only
      rw [if_neg (by rw [hname]; exact Bool.false_ne_true), haccepted.1, haccepted.2]
  · exact .inl ⟨e, hcode, hinvalid, by rw [addTableWith, hinvalid]⟩

theorem removeTable_cases {db : Database τ σ} {name : String}
    (haccepts : db.asksEngine (.removeTable name) → engine.accepts db (.removeTable name)) :
    ((db.registration? name).isSome = false ∧
        db.removeTableWith engine name = (.error (TableError.unknownTable name).diagnostic, db)) ∨
      (db.registration? name).isSome ∧ ∃ removed,
        db.removeTableWith engine name = (.ok (), { db with
          tables := db.tables.filter (·.name ≠ name), removed }) := by
  cases hname : db.registration? name with
  | none => exact .inl ⟨rfl, by rw [removeTableWith, hname]⟩
  | some r =>
    have hasks : db.asksEngine (.removeTable name) := by
      rw [asksEngine, hname]
      rfl
    have haccepted := haccepts hasks
    rw [RegistryEngine.accepts, Option.isNone_iff_eq_none] at haccepted
    refine .inr ⟨rfl, (name, r.memory) :: db.removed.filter (·.1 ≠ name), ?_⟩
    rw [removeTableWith, hname]
    dsimp only
    rw [haccepted]

theorem addFunction_cases {db : Database τ σ} {f : ScalarFunction}
    (haccepts : db.asksEngine (.addFunction f) → engine.accepts db (.addFunction f)) :
    ((db.function? f.name).isSome ∧ db.addFunctionWith engine f = (.ok (), db)) ∨
      (db.function? f.name).isSome = false ∧ ∃ callable replaced,
        db.addFunctionWith engine f = (.ok (), { db with
          functions := db.functions ++ [f], callable, replaced }) := by
  cases hname : (db.function? f.name).isSome with
  | true => exact .inl ⟨rfl, by rw [addFunctionWith, if_pos hname]⟩
  | false =>
    have hasks : db.asksEngine (.addFunction f) := by
      rw [asksEngine, ← Option.not_isSome, hname]
      rfl
    have haccepted := haccepts hasks
    rw [RegistryEngine.accepts, Option.isNone_iff_eq_none] at haccepted
    refine .inr ⟨rfl, db.callableWithout f.name ++ [f], f.name :: db.replaced, ?_⟩
    rw [addFunctionWith, if_neg (by rw [hname]; exact Bool.false_ne_true), haccepted]

theorem removeFunction_cases {db : Database τ σ} {name : String}
    (haccepts : db.asksEngine (.removeFunction name) → engine.accepts db (.removeFunction name)) :
    ((db.function? name).isSome = false ∧ db.removeFunctionWith engine name = (.ok (), db)) ∨
      (db.function? name).isSome ∧ ∃ callable,
        db.removeFunctionWith engine name = (.ok (), { db with
          functions := db.functions.filter (·.name ≠ name), callable }) := by
  cases hname : (db.function? name).isSome with
  | false =>
    refine .inl ⟨rfl, ?_⟩
    rw [removeFunctionWith, if_pos (by rw [← Option.not_isSome, hname]; rfl)]
  | true =>
    have haccepted := haccepts hname
    rw [RegistryEngine.accepts, Option.isNone_iff_eq_none] at haccepted
    refine .inr ⟨rfl, db.callableWithout name, ?_⟩
    rw [removeFunctionWith, if_neg (by rw [← Option.not_isSome, hname]; exact Bool.false_ne_true),
      haccepted]

/-! ## The rosters of a run -/

/-- Reading again what the engine knows of its tables concerns plans only. -/
theorem infos_forgetPlans (db : Database τ σ) :
    db.forgetPlans.tableInfos = db.tableInfos ∧
      db.forgetPlans.functionInfos = db.functionInfos := by
  rw [forgetPlans]
  split
  · refine ⟨?_, rfl⟩
    rw [tableInfos, List.map_map]
    rfl
  · exact ⟨rfl, rfl⟩

/-- A table as it is registered, with no plan yet. -/
def registered (config : Config) (entry : FiniteTable τ σ × τ) : Registration τ σ where
  table := entry.1
  memory := entry.2
  backlog := .new config.planBacklog

/-- The tables and functions of a database are those on the rosters of some changes. -/
structure Lists (db : Database τ σ) (config : Config) (tables : List (Change (FiniteTable τ σ × τ)))
    (functions : List (Change ScalarFunction)) : Prop where
  sameConfig : db.config = config
  tables : db.tables = (Change.roster tableName tables).map (registered config)
  functions : db.functions = Change.roster ScalarFunction.name functions

namespace Lists

variable {db : Database τ σ} {config : Config} {tables : List (Change (FiniteTable τ σ × τ))}
  {functions : List (Change ScalarFunction)}

theorem isSome_registration? (h : db.Lists config tables functions) (name : String) :
    (db.registration? name).isSome = Change.isKnown tableName tables name := by
  rw [Bool.eq_iff_iff, Change.isKnown_iff, registration?, h.tables, List.find?_isSome]
  simp only [List.mem_map, decide_eq_true_eq, exists_exists_and_eq_and]
  rfl

theorem isSome_function? (h : db.Lists config tables functions) (name : String) :
    (db.function? name).isSome = Change.isKnown ScalarFunction.name functions name := by
  rw [Bool.eq_iff_iff, Change.isKnown_iff, function?, h.functions, List.find?_isSome]
  simp only [decide_eq_true_eq]

/-- **What one more call does to the rosters**, if the engine accepts it. -/
theorem answerCall (h : db.Lists config tables functions) {c : RegistryCall τ σ}
    (haccepts : db.asksEngine c → engine.accepts db c) :
    (db.answerCall engine c).2.Lists config (tables ++ c.tableChange?.toList)
      (functions ++ c.functionChange?.toList) := by
  cases c with
  | addTable table memory =>
    rw [functionChange?, Option.toList_none, List.append_nil, tableChange?]
    obtain ⟨e, -, hinvalid, hanswer⟩ | ⟨hvalid, hname, hanswer⟩ | ⟨hvalid, hname, hanswer⟩ :=
      addTable_cases haccepts <;> rw [Database.answerCall, hanswer]
    · rw [hinvalid, Option.toList_none, List.append_nil]
      exact h
    · rw [h.isSome_registration?] at hname
      rw [hvalid]
      refine ⟨h.sameConfig, h.tables.trans ?_, h.functions⟩
      rw [Option.toList_some, Change.roster_add_of_known hname]
    · rw [h.isSome_registration?] at hname
      rw [hvalid]
      refine ⟨h.sameConfig, ?_, h.functions⟩
      rw [Option.toList_some, Change.roster_add_of_not_known hname, List.map_append, ← h.tables,
        ← h.sameConfig]
      rfl
  | removeTable name =>
    rw [functionChange?, Option.toList_none, List.append_nil, tableChange?, Option.toList_some]
    obtain ⟨hname, hanswer⟩ | ⟨-, removed, hanswer⟩ := removeTable_cases haccepts <;>
      rw [Database.answerCall, hanswer]
    · rw [h.isSome_registration?] at hname
      refine ⟨h.sameConfig, h.tables.trans ?_, h.functions⟩
      rw [Change.roster_remove_of_not_known hname]
    · refine ⟨h.sameConfig, ?_, h.functions⟩
      rw [Change.roster_remove, h.tables, List.filter_map]
      rfl
  | addFunction f =>
    rw [tableChange?, Option.toList_none, List.append_nil, functionChange?, Option.toList_some]
    obtain ⟨hname, hanswer⟩ | ⟨hname, callable, replaced, hanswer⟩ :=
      addFunction_cases haccepts <;> rw [Database.answerCall, hanswer] <;>
      rw [h.isSome_function?] at hname
    · refine ⟨h.sameConfig, h.tables, h.functions.trans ?_⟩
      rw [Change.roster_add_of_known hname]
    · refine ⟨h.sameConfig, h.tables, ?_⟩
      rw [Change.roster_add_of_not_known hname, h.functions]
  | removeFunction name =>
    rw [tableChange?, Option.toList_none, List.append_nil, functionChange?, Option.toList_some]
    obtain ⟨hname, hanswer⟩ | ⟨-, callable, hanswer⟩ := removeFunction_cases haccepts <;>
      rw [Database.answerCall, hanswer]
    · rw [h.isSome_function?] at hname
      refine ⟨h.sameConfig, h.tables, h.functions.trans ?_⟩
      rw [Change.roster_remove_of_not_known hname]
    · refine ⟨h.sameConfig, h.tables, ?_⟩
      rw [Change.roster_remove, h.functions]

/-- **What calls do to the rosters**, if the engine accepts them. -/
theorem afterCalls (h : db.Lists config tables functions) {calls : List (RegistryCall τ σ)}
    (haccepted : db.Accepted engine calls) :
    (db.afterCalls engine calls).Lists config (tables ++ tableChanges calls)
      (functions ++ functionChanges calls) := by
  induction calls generalizing db tables functions with
  | nil =>
    rw [tableChanges, functionChanges, List.filterMap_nil, List.filterMap_nil, List.append_nil,
      List.append_nil]
    exact h
  | cons c rest ih =>
    have htables : tableChanges (c :: rest) = c.tableChange?.toList ++ tableChanges rest := by
      cases hc : c.tableChange? <;> simp [tableChanges, hc]
    have hfunctions :
        functionChanges (c :: rest) = c.functionChange?.toList ++ functionChanges rest := by
      cases hc : c.functionChange? <;> simp [functionChanges, hc]
    rw [htables, hfunctions, ← List.append_assoc, ← List.append_assoc]
    exact ih (h.answerCall haccepted.1) haccepted.2

end Lists

theorem Accepted.of_append {db : Database τ σ} {before rest : List (RegistryCall τ σ)}
    (h : db.Accepted engine (before ++ rest)) :
    db.Accepted engine before ∧ (db.afterCalls engine before).Accepted engine rest := by
  induction before generalizing db with
  | nil => exact ⟨trivial, h⟩
  | cons c before ih =>
    obtain ⟨haccepts, hlater⟩ := h
    obtain ⟨hbefore, hrest⟩ := ih hlater
    exact ⟨⟨haccepts, hbefore⟩, hrest⟩

/-- A new database lists nothing. -/
theorem lists_of_ofConfig {config : Config} {db : Database τ σ} (h : ofConfig config = .ok db) :
    db.Lists config [] [] := by
  rw [ofConfig] at h
  split at h
  · exact absurd h (by simp)
  · rw [Except.ok.injEq] at h
    subst h
    exact ⟨rfl, rfl, rfl⟩

/-! ## What the calls answer -/

/-- A call answers as it should when the tables and the functions of some names are known: a table
is refused for its definition or else for its name, and the removal of a table for its name; a call
for functions is never refused, and does nothing about a function that is known when it is added or
not known when it is removed.  A refused call does nothing. -/
def AnswersBy (engine : RegistryEngine τ σ) (db : Database τ σ)
    (isTable isFunction : String → Bool) (c : RegistryCall τ σ) : Prop :=
  let answer := (db.answerCall engine c).1
  let after := (db.answerCall engine c).2
  (answer ≠ .ok () → after = db) ∧
    match c with
    | .addTable table _ =>
      let valid := table.definition.validate = .ok ()
      (FailsWith answer "VTAB_005" ↔ ¬valid) ∧
        (FailsWith answer "VTAB_007" ↔ valid ∧ isTable table.definition.name = true) ∧
        (answer = .ok () ↔ valid ∧ isTable table.definition.name = false)
    | .removeTable name =>
      (FailsWith answer "VTAB_008" ↔ isTable name = false) ∧
        (answer = .ok () ↔ isTable name = true)
    | .addFunction f => answer = .ok () ∧ (isFunction f.name = true → after = db)
    | .removeFunction name => answer = .ok () ∧ (isFunction name = false → after = db)

theorem failsWith_error {d : Diagnostic} {code : String} :
    FailsWith (.error d) code ↔ d.code = code := by
  simp [FailsWith]

theorem not_failsWith_ok {code : String} : ¬FailsWith (.ok ()) code := by
  simp [FailsWith]

/-- **What a call answers**, if the engine accepts it. -/
theorem Lists.answersBy {db : Database τ σ} {config : Config}
    {tables : List (Change (FiniteTable τ σ × τ))} {functions : List (Change ScalarFunction)}
    (h : db.Lists config tables functions) {c : RegistryCall τ σ}
    (haccepts : db.asksEngine c → engine.accepts db c) :
    db.AnswersBy engine (Change.isKnown tableName tables)
      (Change.isKnown ScalarFunction.name functions) c := by
  rw [← funext h.isSome_registration?, ← funext h.isSome_function?]
  cases c with
  | addTable table memory =>
    rw [AnswersBy, Database.answerCall]
    obtain ⟨e, hcode, hinvalid, hanswer⟩ | ⟨hvalid, hname, hanswer⟩ | ⟨hvalid, hname, hanswer⟩ :=
      addTable_cases haccepts
    · have hcode' : e.diagnostic.code = "VTAB_005" := hcode
      simp [hanswer, hinvalid, failsWith_error, hcode']
    · have hcode : (TableError.alreadyRegistered table.definition.name).diagnostic.code =
          "VTAB_007" := rfl
      simp [hanswer, hvalid, hname, failsWith_error, hcode]
    · simp [hanswer, hvalid, hname, not_failsWith_ok]
  | removeTable name =>
    rw [AnswersBy, Database.answerCall]
    obtain ⟨hname, hanswer⟩ | ⟨hname, removed, hanswer⟩ := removeTable_cases haccepts
    · have hcode : (TableError.unknownTable name).diagnostic.code = "VTAB_008" := rfl
      simp [hanswer, hname, failsWith_error, hcode]
    · simp [hanswer, hname, not_failsWith_ok]
  | addFunction f =>
    rw [AnswersBy, Database.answerCall]
    obtain ⟨hname, hanswer⟩ | ⟨hname, callable, replaced, hanswer⟩ := addFunction_cases haccepts
    · simp [hanswer]
    · simp [hanswer, hname]
  | removeFunction name =>
    rw [AnswersBy, Database.answerCall]
    obtain ⟨hname, hanswer⟩ | ⟨hname, callable, hanswer⟩ := removeFunction_cases haccepts
    · simp [hanswer]
    · simp [hanswer, hname]

end Calls

/-- **A call that fails leaves both listings as they are**, whatever the engine says. -/
theorem infos_of_failed_call (engine : RegistryEngine τ σ) (db : Database τ σ)
    (c : RegistryCall τ σ) (hfailed : (db.answerCall engine c).1 ≠ .ok ()) :
    (db.answerCall engine c).2.tableInfos = db.tableInfos ∧
      (db.answerCall engine c).2.functionInfos = db.functionInfos := by
  revert hfailed
  cases c with
  | addTable table memory =>
    rw [answerCall, addTableWith]
    dsimp only
    split
    · exact fun _ ↦ ⟨rfl, rfl⟩
    · split
      · exact fun _ ↦ ⟨rfl, rfl⟩
      · split
        · exact fun _ ↦ ⟨rfl, rfl⟩
        · exact fun _ ↦ ⟨rfl, rfl⟩
        · exact fun _ ↦ infos_forgetPlans db
        · exact fun hfailed ↦ absurd rfl hfailed
  | removeTable name =>
    rw [answerCall, removeTableWith]
    split
    · exact fun _ ↦ ⟨rfl, rfl⟩
    · split
      · exact fun _ ↦ ⟨rfl, rfl⟩
      · exact fun hfailed ↦ absurd rfl hfailed
  | addFunction f =>
    rw [answerCall, addFunctionWith]
    split
    · exact fun hfailed ↦ absurd rfl hfailed
    · split
      · exact fun _ ↦ ⟨rfl, rfl⟩
      · exact fun hfailed ↦ absurd rfl hfailed
  | removeFunction name =>
    rw [answerCall, removeFunctionWith]
    split
    · exact fun hfailed ↦ absurd rfl hfailed
    · split
      · exact fun _ ↦ ⟨rfl, rfl⟩
      · exact fun hfailed ↦ absurd rfl hfailed

/-- **Registration is the keeping of two rosters.**  Whatever calls a new database answers, with
whatever engine, as long as the engine accepts what it hears of: listed are the tables, and the
functions, that were added when their name was not known and were not removed since, in the order of
their adding; and each call answers according to the names that the calls before it made known. -/
theorem listings_of_calls (engine : RegistryEngine τ σ) {config : Config} {db : Database τ σ}
    (hnew : ofConfig config = .ok db) (calls : List (RegistryCall τ σ))
    (haccepted : db.Accepted engine calls) :
    let tables := Change.roster tableName (tableChanges calls)
    let functions := Change.roster ScalarFunction.name (functionChanges calls)
    let after := db.afterCalls engine calls
    after.tables = tables.map (registered config) ∧
      after.functions = functions ∧
      after.tableInfos.map (·.name) = tables.map tableName ∧
      List.Forall₂ (fun info entry ↦ info.Describes entry.1.definition) after.tableInfos tables ∧
      after.functionInfos.map (·.name) = functions.map (·.name) ∧
      after.functionInfos.map (·.args) = functions.map (·.expected) ∧
      ∀ before c rest, calls = before ++ c :: rest →
        (db.afterCalls engine before).AnswersBy engine
          (Change.isKnown tableName (tableChanges before))
          (Change.isKnown ScalarFunction.name (functionChanges before)) c := by
  intro tables functions after
  have hlists := lists_of_ofConfig hnew
  have hafter : after.Lists config (tableChanges calls) (functionChanges calls) :=
    hlists.afterCalls haccepted
  have hinfos : after.tableInfos = tables.map fun entry ↦ TableInfo.ofDef entry.1.definition := by
    rw [tableInfos, hafter.tables, List.map_map]
    rfl
  have hfunctions : after.functionInfos = functions.map FunctionInfo.ofFunction := by
    rw [functionInfos, hafter.functions]
  refine ⟨hafter.tables, hafter.functions, ?_, ?_, ?_, ?_, ?_⟩
  · rw [hinfos, List.map_map]
    rfl
  · rw [hinfos, List.forall₂_map_left_iff, List.forall₂_same]
    exact fun entry _ ↦ TableInfo.describes_ofDef entry.1.definition
  · rw [hfunctions, List.map_map]
    rfl
  · rw [hfunctions, List.map_map]
    rfl
  · rintro before c rest rfl
    obtain ⟨hbefore, hnext⟩ := haccepted.of_append
    exact (hlists.afterCalls hbefore).answersBy hnext.1

/-- Calls that add a table and a function twice, remove names that nothing has, and add a table
again after its removal. -/
def busyCalls : List (RegistryCall Sample.Usage Sample.Place) :=
  [.addTable Sample.Users.listing.table .counting, .addTable Sample.Users.listing.table .counting,
    .removeTable "nope", .addFunction Sample.power,
    .addFunction { Sample.sqrt with name := "power" }, .addTable Sample.Paths.table .counting,
    .removeTable "users", .removeFunction "sqrt",
    .addTable Sample.Users.listing.table .counting]

theorem accepted_busyCalls : (Sample.database []).Accepted .standard busyCalls := by
  decide +kernel

theorem listings_of_busyCalls :
    let db := Sample.database []
    let after := db.afterCalls .standard busyCalls
    ofConfig .inMemory = .ok db ∧ db.Accepted .standard busyCalls ∧
      after.tableInfos.map (·.name) = ["tpath_len", "users"] ∧
      after.functionInfos.map (·.name) = ["power"] ∧
      after.functionInfos.map (·.args) = [Sample.power.expected] ∧
      FailsWith ((db.afterCalls .standard (busyCalls.take 1)).addTable Sample.Users.listing.table
        .counting).1 "VTAB_007" ∧
      FailsWith ((db.afterCalls .standard (busyCalls.take 2)).removeTable "nope").1 "VTAB_008" := by
  intro db after
  have hnew : ofConfig .inMemory = .ok db := rfl
  obtain ⟨-, -, htables, -, hnames, hargs, hanswers⟩ :=
    listings_of_calls .standard hnew busyCalls accepted_busyCalls
  have hagain : busyCalls = busyCalls.take 1 ++
      .addTable Sample.Users.listing.table .counting :: busyCalls.drop 2 := rfl
  have hunknown : busyCalls = busyCalls.take 2 ++ .removeTable "nope" :: busyCalls.drop 3 := rfl
  have hfunctions : Change.roster ScalarFunction.name (functionChanges busyCalls) =
      [Sample.power] := rfl
  rw [hfunctions] at hnames hargs
  refine ⟨hnew, accepted_busyCalls, ?_, hnames, hargs, ?_, ?_⟩
  · rw [htables]
    decide
  · exact (hanswers _ _ _ hagain).2.2.1.2 (by decide)
  · exact (hanswers _ _ _ hunknown).2.1.2 (by decide)

end Database
end VirtualTables
