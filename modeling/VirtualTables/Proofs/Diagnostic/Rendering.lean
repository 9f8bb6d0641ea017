import Mathlib.Data.List.Basic
import VirtualTables.Diagnostic.Rendering

/-!
# Causes are rendered as they are on their own

A chain of causes is rendered from the outside inwards, and every report is indented by its place in
the chain.  Seen from the inside nothing depends on the place: a report is a list of lines
(`Report.lines`), the chain behind it is a list of lines (`causeLines`), and whoever shows them
further inside puts spaces in front of every line that is not empty (`Report.render_eq`,
`Diagnostic.renderCauses_eq`).

So the rendering of a cause can be cut out of the rendering of what it caused, and it is the
rendering of the cause on its own, indented by one level (`Diagnostic.render_of_cause?`); and the
whole is put together from what the members of the chain are on their own
(`Diagnostic.render_of_chain`).  Both need texts without line feeds, for of a text of several lines
only the first one is indented.
-/

namespace VirtualTables

/-! ## Lines -/

/-- The lines of a text: what stands between its line feeds. -/
def lines (text : String) : List String :=
  (text.toList.splitOn '\n').map String.ofList

/-- The text that has the given lines, each ended by a line feed. -/
def unlines (ls : List String) : String :=
  String.join (ls.map (· ++ "\n"))

/-- The line with two more spaces for each level in front of it; an empty line stays empty. -/
def indentLine (depth : Nat) (line : String) : String :=
  if line = "" then "" else indentation depth ++ line

/-- The text with every line that is not empty indented. -/
def indentLines (depth : Nat) (text : String) : String :=
  "\n".intercalate ((lines text).map (indentLine depth))

/-- A text that goes on in the same line. -/
def OneLine (text : String) : Prop :=
  '\n' ∉ text.toList

instance (text : String) : Decidable (OneLine text) :=
  inferInstanceAs (Decidable ('\n' ∉ text.toList))

theorem OneLine.append {a b : String} (ha : OneLine a) (hb : OneLine b) : OneLine (a ++ b) := by
  rw [OneLine, String.toList_append, List.mem_append]
  exact not_or.2 ⟨ha, hb⟩

/-- What starts in one line goes on in it. -/
theorem OneLine.forall_mem_map {start : String} (hstart : OneLine start) {ls : List String}
    (h : ∀ line ∈ ls, OneLine line) : ∀ line ∈ ls.map (start ++ ·), OneLine line := by
  intro line hline
  obtain ⟨l, hl, rfl⟩ := List.mem_map.1 hline
  exact hstart.append (h l hl)

theorem lines_ne_nil (text : String) : lines text ≠ [] := by
  simp [lines]

theorem lines_append_newline (a b : String) : lines (a ++ "\n" ++ b) = lines a ++ lines b := by
  have hchars : (a ++ "\n" ++ b).toList = a.toList ++ '\n' :: b.toList := by
    simp [String.toList_append]
  rw [lines, hchars, List.splitOn_append_cons_self, List.map_append, lines, lines]

theorem OneLine.lines_eq {line : String} (h : OneLine line) : lines line = [line] := by
  rw [lines, List.splitOn_eq_singleton h, List.map_singleton, String.ofList_toList]

theorem indentLines_append_newline (depth : Nat) (a b : String) :
    indentLines depth (a ++ "\n" ++ b) = indentLines depth a ++ "\n" ++ indentLines depth b := by
  rw [indentLines, lines_append_newline, List.map_append,
    String.intercalate_append_of_ne_nil (by simp [lines_ne_nil]) (by simp [lines_ne_nil]),
    indentLines, indentLines]

@[simp]
theorem unlines_nil : unlines [] = "" := by
  simp [unlines]

@[simp]
theorem unlines_cons (line : String) (ls : List String) :
    unlines (line :: ls) = line ++ "\n" ++ unlines ls := by
  simp [unlines]

@[simp]
theorem unlines_append (ls ls' : List String) :
    unlines (ls ++ ls') = unlines ls ++ unlines ls' := by
  simp [unlines]

theorem indentation_add (depth more : Nat) :
    indentation (depth + more) = indentation depth ++ indentation more := by
  rw [indentation, Nat.mul_add, ← List.replicate_append_replicate, String.ofList_append,
    indentation, indentation]

theorem oneLine_indentation (depth : Nat) : OneLine (indentation depth) := by
  simp [OneLine, indentation]

@[simp]
theorem indentLine_empty (depth : Nat) : indentLine depth "" = "" :=
  if_pos rfl

theorem indentLine_of_ne {line : String} (depth : Nat) (h : line ≠ "") :
    indentLine depth line = indentation depth ++ line :=
  if_neg h

@[simp]
theorem indentLine_zero (line : String) : indentLine 0 line = line := by
  by_cases h : line = ""
  · rw [h, indentLine_empty]
  · rw [indentLine_of_ne 0 h]
    simp [indentation]

@[simp]
theorem map_indentLine_zero (ls : List String) : ls.map (indentLine 0) = ls := by
  rw [funext indentLine_zero, List.map_id']

theorem indentLine_indentLine (depth more : Nat) (line : String) :
    indentLine depth (indentLine more line) = indentLine (depth + more) line := by
  by_cases h : line = ""
  · rw [h, indentLine_empty, indentLine_empty, indentLine_empty]
  · have hne : indentation more ++ line ≠ "" := by simp [h]
    rw [indentLine_of_ne more h, indentLine_of_ne depth hne, indentLine_of_ne _ h, indentation_add,
      String.append_assoc]

theorem OneLine.indentLine {line : String} (h : OneLine line) (depth : Nat) :
    OneLine (indentLine depth line) := by
  rw [VirtualTables.indentLine]
  split
  · decide
  · exact (oneLine_indentation depth).append h

/-- **Lines that were put together are indented one by one.** -/
theorem indentLines_unlines (depth : Nat) {ls : List String} (h : ∀ line ∈ ls, OneLine line) :
    indentLines depth (unlines ls) = unlines (ls.map (indentLine depth)) := by
  induction ls with
  | nil =>
    have hempty : OneLine "" := by decide
    simp [indentLines, hempty.lines_eq]
  | cons line rest ih =>
    obtain ⟨hline, hrest⟩ := List.forall_mem_cons.1 h
    have hfirst : indentLines depth line = indentLine depth line := by
      rw [indentLines, hline.lines_eq, List.map_singleton, String.intercalate_singleton]
    rw [unlines_cons, indentLines_append_newline, hfirst, ih hrest, List.map_cons, unlines_cons]

/-! ## One report -/

namespace Report

/-- All texts of a report. -/
def texts (r : Report) : List String :=
  r.code :: r.message :: (r.label.toList ++ r.help.toList ++ r.notes)

/-- The lines of a report that is not indented. -/
def lines (r : Report) : List String :=
  ("error[" ++ r.code ++ "]: " ++ r.message) :: r.label.toList.map (" = " ++ ·) ++
    (r.help.toList.map ("help: " ++ ·) ++ r.notes.map ("note: " ++ ·)).flatMap ("" :: [·])

/-- The report as a diagnostic that has no cause. -/
def alone (r : Report) : Diagnostic :=
  { r with causes := [] }

theorem join_notes (depth : Nat) (notes : List String) :
    String.join (notes.map fun note ↦ "\n" ++ indentation depth ++ "note: " ++ note ++ "\n") =
      unlines (((notes.map ("note: " ++ ·)).flatMap ("" :: [·])).map (indentLine depth)) := by
  induction notes with
  | nil => simp
  | cons note rest ih =>
    rw [List.map_cons, String.join_cons, ih]
    simp [indentLine_of_ne, String.append_assoc]

/-- A report is rendered line by line. -/
theorem render_eq (r : Report) (depth : Nat) :
    r.render depth = unlines (r.lines.map (indentLine depth)) := by
  obtain ⟨code, message, label, help, notes⟩ := r
  simp only [render, lines, join_notes]
  cases label <;> cases help <;> simp [indentLine_of_ne, String.append_assoc]

/-- The texts of a report all go on in one line. -/
def OneLineTexts (r : Report) : Prop :=
  ∀ text ∈ r.texts, OneLine text

instance (r : Report) : Decidable r.OneLineTexts :=
  inferInstanceAs (Decidable (∀ text ∈ r.texts, OneLine text))

theorem OneLineTexts.oneLine {r : Report} (h : r.OneLineTexts) :
    ∀ line ∈ r.lines, OneLine line := by
  simp only [OneLineTexts, texts, List.forall_mem_cons, List.forall_mem_append] at h
  obtain ⟨hcode, hmessage, ⟨hlabel, hhelp⟩, hnotes⟩ := h
  have hfirst : OneLine ("error[" ++ r.code ++ "]: " ++ r.message) :=
    (OneLine.append (OneLine.append (by decide) hcode) (by decide)).append hmessage
  have hlabelLine := OneLine.forall_mem_map (by decide : OneLine " = ") hlabel
  have hparts := List.forall_mem_append.2
    ⟨OneLine.forall_mem_map (by decide : OneLine "help: ") hhelp,
      OneLine.forall_mem_map (by decide : OneLine "note: ") hnotes⟩
  refine List.forall_mem_append.2 ⟨List.forall_mem_cons.2 ⟨hfirst, hlabelLine⟩, fun line hline ↦ ?_⟩
  obtain ⟨part, hpart, hline⟩ := List.mem_flatMap.1 hline
  obtain rfl | hline := List.mem_cons.1 hline
  · decide
  · rw [List.mem_singleton.1 hline]
    exact hparts part hpart

end Report

/-! ## The chain of causes -/

/-- The lines of the causes of a report that is not indented. -/
def causeLines : List Report → List String
  | [] => []
  | r :: rest => "" :: "caused by:" :: (r.lines ++ causeLines rest).map (indentLine 1)

theorem map_indentLine_indentLine (depth : Nat) (ls : List String) :
    (ls.map (indentLine 1)).map (indentLine depth) = ls.map (indentLine (depth + 1)) := by
  rw [List.map_map]
  exact List.map_congr_left fun line _ ↦ indentLine_indentLine depth 1 line

theorem oneLine_causeLines {rs : List Report} (h : ∀ r ∈ rs, r.OneLineTexts) :
    ∀ line ∈ causeLines rs, OneLine line := by
  induction rs with
  | nil => exact fun line hline ↦ absurd hline List.not_mem_nil
  | cons r rest ih =>
    obtain ⟨hr, hrest⟩ := List.forall_mem_cons.1 h
    intro line hline
    obtain rfl | hline := List.mem_cons.1 hline
    · decide
    obtain rfl | hline := List.mem_cons.1 hline
    · decide
    obtain ⟨inner, hinner, rfl⟩ := List.mem_map.1 hline
    refine OneLine.indentLine ?_ 1
    exact (List.mem_append.1 hinner).elim (hr.oneLine inner) (ih hrest inner)

namespace Diagnostic

/-- The lines of a diagnostic. -/
def lines (d : Diagnostic) : List String :=
  d.toReport.lines ++ causeLines d.causes

theorem renderCauses_eq (depth : Nat) (rs : List Report) :
    renderCauses depth rs = unlines ((causeLines rs).map (indentLine depth)) := by
  induction rs generalizing depth with
  | nil => simp [renderCauses, causeLines]
  | cons r rest ih =>
    rw [renderCauses, ih, r.render_eq, causeLines, List.map_cons, List.map_cons,
      map_indentLine_indentLine, List.map_append]
    simp [indentLine_of_ne, String.append_assoc]

/-- A diagnostic is rendered line by line. -/
theorem render_eq (d : Diagnostic) : d.render = unlines d.lines := by
  rw [render, Report.render_eq, renderCauses_eq, ← unlines_append, map_indentLine_zero,
    map_indentLine_zero, lines]

theorem render_alone (r : Report) : r.alone.render = unlines r.lines := by
  rw [render_eq, lines, Report.alone, causeLines, List.append_nil]

theorem oneLine_lines {d : Diagnostic} (h : ∀ r ∈ d.chain, r.OneLineTexts) :
    ∀ line ∈ d.lines, OneLine line := by
  obtain ⟨hfirst, hcauses⟩ := List.forall_mem_cons.1 h
  intro line hline
  exact (List.mem_append.1 hline).elim (hfirst.oneLine line) (oneLine_causeLines hcauses line)

/-- **A cause is rendered as it is on its own**, one level further inside. -/
theorem render_of_cause? {d c : Diagnostic} (hcause : d.cause? = some c)
    (h : ∀ r ∈ c.chain, r.OneLineTexts) :
    d.render = d.withoutCause.render ++ "\ncaused by:\n" ++ indentLines 1 c.render := by
  obtain ⟨first, causes⟩ := d
  cases causes with
  | nil => cases hcause
  | cons r rest =>
    obtain rfl := Option.some.inj hcause
    rw [render_eq, render_eq, render_eq, indentLines_unlines 1 (oneLine_lines h), lines, lines,
      withoutCause, causeLines, lines, causeLines]
    -- the announcement is one literal on one side and put together on the other
    rw [← String.toList_inj]
    simp

/-- The text of a chain from a given depth on, put together from the texts of its members. -/
theorem unlines_chain (depth : Nat) (r : Report) (rest : List Report)
    (h : ∀ q ∈ r :: rest, q.OneLineTexts) :
    unlines ((r.lines ++ causeLines rest).map (indentLine depth)) =
      String.join ((r :: rest).mapIdx fun i q ↦ indentLines (depth + i) q.alone.render ++
        if i < rest.length then "\n" ++ indentation (depth + i) ++ "caused by:\n" else "") := by
  induction rest generalizing depth r with
  | nil =>
    have hlines := (h r List.mem_cons_self).oneLine
    simp [causeLines, render_alone, indentLines_unlines depth hlines]
  | cons next rest ih =>
    -- the chain from `next` on stands one level further inside, where it is known by `ih`
    obtain ⟨hr, hrest⟩ := List.forall_mem_cons.1 h
    rw [List.map_append, unlines_append, causeLines, List.map_cons, List.map_cons,
      map_indentLine_indentLine, unlines_cons, unlines_cons, ih (depth + 1) next hrest,
      ← indentLines_unlines depth hr.oneLine, ← render_alone]
    simp [List.mapIdx_cons, Nat.add_assoc, Nat.add_comm 1, indentLine_of_ne, String.append_assoc]

theorem chain_of_cause? {d c : Diagnostic} (hcause : d.cause? = some c) : c.chain = d.causes := by
  obtain ⟨first, causes⟩ := d
  cases causes with
  | nil => cases hcause
  | cons r rest =>
    obtain rfl := Option.some.inj hcause
    rfl

/-- **What a diagnostic looks like.**  If none of its texts has a second line, it is put together
from what the members of its chain look like on their own: each is indented by its depth, and an
empty line and the announcement of the next one, indented likewise, come between them.  So it looks
as it would without its cause, followed by an empty line, the announcement and its cause as it looks
on its own, indented by one level. -/
theorem render_of_chain (d : Diagnostic) (h : ∀ r ∈ d.chain, r.OneLineTexts) :
    d.render = String.join (d.chain.mapIdx fun depth r ↦ indentLines depth r.alone.render ++
        if depth < d.causes.length then "\n" ++ indentation depth ++ "caused by:\n" else "") ∧
      ∀ c, d.cause? = some c →
        d.render = d.withoutCause.render ++ "\ncaused by:\n" ++ indentLines 1 c.render := by
  constructor
  · have hblocks := unlines_chain 0 d.toReport d.causes h
    simp only [map_indentLine_zero, Nat.zero_add] at hblocks
    rw [render_eq, lines, hblocks, chain]
  · intro c hcause
    refine render_of_cause? hcause fun r hr ↦ h r ?_
    rw [chain_of_cause? hcause] at hr
    exact List.mem_cons_of_mem _ hr

/-- A refused plan that has a cause of its own, and no message. -/
def unnamedPath : Diagnostic where
  code := "VTAB_001"
  message := ""
  label := none
  help := some "name a path"
  notes := []
  causes :=
    [{ code := "IO_001", message := "locked", label := some "here", help := none,
       notes := ["try again"] }]

/-- A statement that failed because its plan was refused. -/
def failedScan : Diagnostic :=
  withCause
    { code := "QUERY_001", message := "statement failed", label := some "in query",
      help := some "check the syntax", notes := ["engine said no", "no plan is left"],
      causes := [] }
    unnamedPath

/-- Each cause stands two spaces further to the right than what it caused, and the empty lines are
empty. -/
theorem render_of_failedScan :
    (∀ r ∈ failedScan.chain, r.OneLineTexts) ∧
      failedScan.render =
        "error[QUERY_001]: statement failed\n = in query\n\nhelp: check the syntax\n\n" ++
          "note: engine said no\n\nnote: no plan is left\n\ncaused by:\n" ++
          "  error[VTAB_001]: \n\n  help: name a path\n\n  caused by:\n" ++
          "    error[IO_001]: locked\n     = here\n\n    note: try again\n" ∧
      failedScan.cause? = some unnamedPath ∧
      failedScan.render =
        failedScan.withoutCause.render ++ "\ncaused by:\n" ++ indentLines 1 unnamedPath.render := by
  have hlines : ∀ r ∈ failedScan.chain, r.OneLineTexts := by decide
  obtain ⟨hblocks, hcause⟩ := render_of_chain failedScan hlines
  exact ⟨hlines, hblocks.trans (by decide +kernel), rfl, hcause unnamedPath rfl⟩

end Diagnostic

end VirtualTables
