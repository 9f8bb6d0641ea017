import VirtualTables.Proofs.Table.Declaration

/-!
# Reading columns off a declaration

An engine knows the columns of a table from the text of its declaration alone, so the text should
say how many there are and what each of them is like.  Names stand in it between back quotes, but
they stand as they are, and nothing keeps a name from holding what ends a column: a back quote, the
keyword of a type, and the comma before the next column (`columnEnd`).  One column of such a name is
declared by the text of two columns (`Sample.Quotes.declaration_joined`).

Without such names the columns can be read off the text (`TableDef.columns_of_declaration`).  The
reading goes from left to right: where a name ends (`Heading.name_of_text`), what is said of the
column (`Heading.marks_inj`), and then the same for the columns behind it (`further_inj`).
-/

namespace VirtualTables

/-! ## Where a name ends -/

/-- What a declaration has between the name of a column and the column after it. -/
def columnEnd (t : DataType) (hidden : Bool) : String :=
  "\x60" ++ " " ++ t.keyword ++ (if hidden then " HIDDEN" else "") ++ ", "

/-- A name that holds nothing that could be taken for the end of a column. -/
def LacksColumnEnd (name : String) : Prop :=
  ∀ t hidden, ¬(columnEnd t hidden).toList <:+: name.toList

/-- It is enough that no space stands behind a back quote. -/
theorem lacksColumnEnd_of_not_infix {name : String} (h : ¬['\x60', ' '] <:+: name.toList) :
    LacksColumnEnd name := by
  intro t hidden hend
  have hstart : ['\x60', ' '] <+: (columnEnd t hidden).toList := by
    simp [columnEnd, String.toList_append]
  exact h (hstart.isInfix.trans hend)

/-- The keywords of all types. -/
def DataType.keywords : List String :=
  ["FLOAT", "BIGINT", "UNSIGNED BIGINT", "INTEGER", "BLOB", "TEXT"]

theorem DataType.keyword_mem (t : DataType) : t.keyword ∈ keywords := by
  cases t with
  | integer k => cases k <;> decide
  | float k => cases k <;> decide
  | _ => decide

/-- A part without a mark ends before the first place where the mark stands. -/
theorem prefix_of_append_eq {α : Type} {mark : α} {part rest before after : List α}
    (hpart : mark ∉ part) (h : part ++ rest = before ++ mark :: after) : part <+: before := by
  obtain ⟨between, rfl, -⟩ | ⟨between, rfl, hrest⟩ := List.append_eq_append_iff.1 h
  · exact List.prefix_append part between
  · cases between with
    | nil => exact ⟨[], by rw [List.append_nil, List.append_nil]⟩
    | cons c between =>
      rw [(List.cons.inj hrest).1] at hpart
      exact absurd (List.mem_append_right before List.mem_cons_self) hpart

namespace Heading

variable {h h' : Heading} {rest rest' : List Char}

/-- What stands behind the name of a column. -/
def marks (h : Heading) : List Char :=
  ' ' :: (h.keyword ++ if h.hidden then " HIDDEN" else "").toList

theorem toList_text (h : Heading) :
    h.text.toList = '\x60' :: (h.name.toList ++ '\x60' :: h.marks) := by
  simp [text, marks, String.toList_append]

/-- A heading with the keyword of a type. -/
def IsTyped (h : Heading) : Prop :=
  ∃ t : DataType, h.keyword = t.keyword

theorem IsTyped.keyword_mem (ht : h.IsTyped) : h.keyword ∈ DataType.keywords := by
  obtain ⟨t, ht⟩ := ht
  exact ht ▸ t.keyword_mem

/-- The marks of a column hold neither a quote nor what ends a column. -/
theorem marks_plain (ht : h.IsTyped) :
    '\x60' ∉ h.marks ∧ ',' ∉ h.marks ∧ ')' ∉ h.marks := by
  have hall : ∀ keyword ∈ DataType.keywords, ∀ hidden,
      '\x60' ∉ marks ⟨"", keyword, hidden⟩ ∧ ',' ∉ marks ⟨"", keyword, hidden⟩ ∧
        ')' ∉ marks ⟨"", keyword, hidden⟩ := by
    decide
  exact hall h.keyword ht.keyword_mem h.hidden

/-- **The marks of a column tell its keyword and whether it is hidden.** -/
theorem marks_inj (ht : h.IsTyped) (ht' : h'.IsTyped) (heq : h.marks = h'.marks) :
    h.keyword = h'.keyword ∧ h.hidden = h'.hidden := by
  have hall : ∀ keyword ∈ DataType.keywords, ∀ keyword' ∈ DataType.keywords, ∀ hidden hidden',
      marks ⟨"", keyword, hidden⟩ = marks ⟨"", keyword', hidden'⟩ →
        keyword = keyword' ∧ hidden = hidden' := by
    decide
  exact hall h.keyword ht.keyword_mem h'.keyword ht'.keyword_mem h.hidden h'.hidden heq

/-- What may stand behind the marks of a column: the end of the table, or a comma and a space before
the next column or the key. -/
def Follows (rest : List Char) : Prop :=
  rest = [')'] ∨ ∃ more, rest = ',' :: ' ' :: more

/-- A name that goes on behind the end of another one holds the end of that column. -/
theorem columnEnd_prefix (ht : h.IsTyped) (hrest : Follows rest) {more after : List Char}
    (hmore : more ≠ []) (heq : '\x60' :: (h.marks ++ rest) = more ++ '\x60' :: after) :
    ∃ t, (columnEnd t h.hidden).toList <+: more := by
  obtain ⟨c, more, rfl⟩ := List.exists_cons_of_ne_nil hmore
  rw [List.cons_append, List.cons.injEq] at heq
  obtain ⟨rfl, heq⟩ := heq
  have hquote : '\x60' ∉ h.marks := (marks_plain ht).1
  rcases hrest with rfl | ⟨others, rfl⟩
  · -- there is no further quote in which the name could end
    have hmem : '\x60' ∈ h.marks ++ [')'] := heq ▸ List.mem_append_right more List.mem_cons_self
    rw [List.mem_append, or_iff_right hquote] at hmem
    exact absurd hmem (by decide)
  · obtain ⟨t, ht⟩ := ht
    have hpart : '\x60' ∉ h.marks ++ [',', ' '] := by simp [hquote]
    have hprefix : h.marks ++ [',', ' '] <+: more :=
      prefix_of_append_eq hpart (by rw [← heq, List.append_assoc]; rfl)
    have hend : (columnEnd t h.hidden).toList = '\x60' :: (h.marks ++ [',', ' ']) := by
      simp [columnEnd, marks, ht, String.toList_append]
    exact ⟨t, hend ▸ List.cons_prefix_cons.2 ⟨rfl, hprefix⟩⟩

/-- **Where a name ends.**  Two columns that start a text have the same name. -/
theorem name_of_text (ht : h.IsTyped) (ht' : h'.IsTyped) (hname : LacksColumnEnd h.name)
    (hname' : LacksColumnEnd h'.name) (hrest : Follows rest) (hrest' : Follows rest')
    (heq : h.name.toList ++ '\x60' :: (h.marks ++ rest) =
      h'.name.toList ++ '\x60' :: (h'.marks ++ rest')) : h.name = h'.name := by
  rw [← String.toList_inj]
  obtain ⟨more, hlonger, hmore⟩ | ⟨more, hlonger, hmore⟩ := List.append_eq_append_iff.1 heq <;>
    rw [hlonger] <;> by_cases hnil : more = []
  · rw [hnil, List.append_nil]
  · obtain ⟨t, hend⟩ := columnEnd_prefix ht hrest hnil hmore
    exact absurd (hlonger ▸ hend.isInfix.trans (List.suffix_append _ more).isInfix)
      (hname' t h.hidden)
  · rw [hnil, List.append_nil]
  · obtain ⟨t, hend⟩ := columnEnd_prefix ht' hrest' hnil hmore
    exact absurd (hlonger ▸ hend.isInfix.trans (List.suffix_append _ more).isInfix)
      (hname t h'.hidden)

theorem marks_of_text (ht : h.IsTyped) (ht' : h'.IsTyped) (hrest : Follows rest)
    (hrest' : Follows rest') (heq : h.marks ++ rest = h'.marks ++ rest') :
    h.marks = h'.marks ∧ rest = rest' := by
  have htake {h : Heading} {rest : List Char} (ht : h.IsTyped) (hrest : Follows rest) :
      (h.marks ++ rest).takeWhile (fun c ↦ c ≠ ',' ∧ c ≠ ')') = h.marks := by
    have hend : rest.takeWhile (fun c ↦ c ≠ ',' ∧ c ≠ ')') = [] := by
      rcases hrest with rfl | ⟨more, rfl⟩ <;> rfl
    have hplain : ∀ c ∈ h.marks, decide (c ≠ ',' ∧ c ≠ ')') = true := by
      intro c hc
      obtain ⟨-, hcomma, hparen⟩ := marks_plain ht
      rw [decide_eq_true_eq]
      exact ⟨ne_of_mem_of_not_mem hc hcomma, ne_of_mem_of_not_mem hc hparen⟩
    rw [List.takeWhile_append_of_pos hplain, hend, List.append_nil]
  have hmarks : h.marks = h'.marks := by
    rw [← htake ht hrest, heq, htake ht' hrest']
  rw [hmarks] at heq
  exact ⟨hmarks, List.append_cancel_left heq⟩

/-- **A column at the start of a text** can be told from what follows it. -/
theorem text_inj (ht : h.IsTyped) (ht' : h'.IsTyped) (hname : LacksColumnEnd h.name)
    (hname' : LacksColumnEnd h'.name) (hrest : Follows rest) (hrest' : Follows rest')
    (heq : h.text.toList ++ rest = h'.text.toList ++ rest') : h = h' ∧ rest = rest' := by
  simp only [toList_text, List.cons_append, List.append_assoc, List.cons.injEq, true_and] at heq
  have hsame := name_of_text ht ht' hname hname' hrest hrest' heq
  rw [hsame] at heq
  obtain ⟨-, heq⟩ := List.cons.inj (List.append_cancel_left heq)
  obtain ⟨hmarks, hrest⟩ := marks_of_text ht ht' hrest hrest' heq
  obtain ⟨hkeyword, hhidden⟩ := marks_inj ht ht' hmarks
  refine ⟨?_, hrest⟩
  cases h
  cases h'
  rw [mk.injEq]
  exact ⟨hsame, hkeyword, hhidden⟩

end Heading

/-! ## Column after column -/

/-- The columns after the first, and what stands behind them. -/
def further : List Heading → List Char → List Char
  | [], ending => ending
  | h :: headings, ending => ',' :: ' ' :: (h.text.toList ++ further headings ending)

/-- What may stand behind all columns: the end of the table or a key, but no column. -/
def Closes (ending : List Char) : Prop :=
  Heading.Follows ending ∧ ∀ more, ending ≠ ',' :: ' ' :: '\x60' :: more

theorem follows_further {ending : List Char} (hend : Closes ending) (headings : List Heading) :
    Heading.Follows (further headings ending) := by
  cases headings with
  | nil => exact hend.1
  | cons h headings => exact .inr ⟨_, rfl⟩

/-- The columns after the first are as many in both texts, and they are the same. -/
theorem further_inj {headings headings' : List Heading} {ending ending' : List Char}
    (ht : ∀ h ∈ headings, h.IsTyped ∧ LacksColumnEnd h.name)
    (ht' : ∀ h ∈ headings', h.IsTyped ∧ LacksColumnEnd h.name)
    (hend : Closes ending) (hend' : Closes ending')
    (heq : further headings ending = further headings' ending') : headings = headings' := by
  induction headings generalizing headings' with
  | nil =>
    cases headings' with
    | nil => rfl
    | cons h' headings' =>
      rw [further, further, Heading.toList_text] at heq
      exact absurd heq (hend.2 _)
  | cons h headings ih =>
    cases headings' with
    | nil =>
      rw [further, further, Heading.toList_text] at heq
      exact absurd heq.symm (hend'.2 _)
    | cons h' headings' =>
      rw [List.forall_mem_cons] at ht ht'
      rw [further, further, List.cons.injEq, List.cons.injEq] at heq
      obtain ⟨rfl, hrest⟩ := Heading.text_inj ht.1.1 ht'.1.1 ht.1.2 ht'.1.2
        (follows_further hend headings) (follows_further hend' headings') heq.2.2
      rw [ih ht.2 ht'.2 hrest]

theorem toList_intercalate_text (h : Heading) (headings : List Heading) (ending : List Char) :
    (", ".intercalate ((h :: headings).map Heading.text)).toList ++ ending =
      h.text.toList ++ further headings ending := by
  induction headings generalizing h with
  | nil => rw [List.map_singleton, String.intercalate_singleton, further]
  | cons h' headings ih =>
    rw [List.map_cons, List.map_cons, String.intercalate_cons_cons, ← List.map_cons,
      String.toList_append, String.toList_append, List.append_assoc, List.append_assoc, ih,
      further]
    rfl

namespace TableDef

variable {d d' : TableDef}

theorem closes_ending (d : TableDef) : Closes d.ending.toList := by
  rw [ending]
  split
  · refine ⟨.inr ⟨_, by simp only [String.toList_append]; rfl⟩, fun more ↦ ?_⟩
    simp [String.toList_append]
  · exact ⟨.inl rfl, fun more ↦ by simp⟩

theorem WellFormed.headings_ne_nil (hd : d.WellFormed) : d.headings ≠ [] := by
  rw [headings, ne_eq, List.mapIdx_eq_nil_iff]
  exact hd.columns_ne_nil

/-- Behind the name of the table, a declaration is its columns and its ending. -/
theorem headings_of_text {name : String} {h h' : Heading} {headings headings' : List Heading}
    {ending ending' : String}
    (ht : ∀ g ∈ h :: headings, g.IsTyped ∧ LacksColumnEnd g.name)
    (ht' : ∀ g ∈ h' :: headings', g.IsTyped ∧ LacksColumnEnd g.name)
    (hend : Closes ending.toList) (hend' : Closes ending'.toList)
    (heq : name ++ ", ".intercalate ((h :: headings).map Heading.text) ++ ending =
      name ++ ", ".intercalate ((h' :: headings').map Heading.text) ++ ending') :
    h :: headings = h' :: headings' := by
  rw [← String.toList_inj] at heq
  simp only [String.toList_append, List.append_assoc] at heq
  have hcolumns := List.append_cancel_left heq
  rw [toList_intercalate_text, toList_intercalate_text] at hcolumns
  have hboth :
      further (h :: headings) ending.toList = further (h' :: headings') ending'.toList := by
    rw [further, further, hcolumns]
  exact further_inj ht ht' hend hend' hboth

/-- **The headings can be read off a declaration.** -/
theorem headings_of_declaration (hname : d.name = d'.name) (hd : d.WellFormed)
    (hd' : d'.WellFormed)
    (hlegible : ∀ c ∈ d.columns ++ d'.columns, LacksColumnEnd c.field.name)
    (heq : d.declaration = d'.declaration) : d.headings = d'.headings := by
  have hheadings {d : TableDef} (hcolumns : ∀ c ∈ d.columns, LacksColumnEnd c.field.name) :
      ∀ h ∈ d.headings, h.IsTyped ∧ LacksColumnEnd h.name := by
    intro h hmem
    obtain ⟨i, hi, rfl⟩ := List.mem_mapIdx.1 hmem
    exact ⟨⟨_, rfl⟩, hcolumns _ (List.getElem_mem hi)⟩
  rw [List.forall_mem_append] at hlegible
  have ht := hheadings hlegible.1
  have ht' := hheadings hlegible.2
  rw [declaration_eq, declaration_eq, hname] at heq
  obtain ⟨h, headings, hcons⟩ := List.exists_cons_of_ne_nil hd.headings_ne_nil
  obtain ⟨h', headings', hcons'⟩ := List.exists_cons_of_ne_nil hd'.headings_ne_nil
  rw [hcons] at heq ht ⊢
  rw [hcons'] at heq ht' ⊢
  exact headings_of_text ht ht' d.closes_ending d'.closes_ending heq

/-- **The columns can be read off a declaration**, if no name holds the end of a column.  Two
accepted definitions of one table that are declared by the same text have the same number of
columns, and at every position columns of the same name that are declared with the same keyword and
are both hidden or both not. -/
theorem columns_of_declaration (hname : d.name = d'.name) (hvalid : d.validate = .ok ())
    (hvalid' : d'.validate = .ok ())
    (hlegible : ∀ c ∈ d.columns ++ d'.columns, LacksColumnEnd c.field.name)
    (heq : d.declaration = d'.declaration) :
    d.columns.length = d'.columns.length ∧
      ∀ i c c', d.columns[i]? = some c → d'.columns[i]? = some c' →
        c.field.name = c'.field.name ∧
          (d.declaredType i c).keyword = (d'.declaredType i c').keyword ∧
            c.isDeclaredHidden = c'.isDeclaredHidden := by
  have hheadings := headings_of_declaration hname (wellFormed_of_validate hvalid)
    (wellFormed_of_validate hvalid') hlegible heq
  refine ⟨?_, fun i c c' hc hc' ↦ ?_⟩
  · have hlength := congrArg List.length hheadings
    rwa [headings, headings, List.length_mapIdx, List.length_mapIdx] at hlength
  · have hat := congrArg (·[i]?) hheadings
    simp only [headings, List.getElem?_mapIdx, hc, hc', Option.map_some, Option.some_inj,
      Heading.mk.injEq] at hat
    exact hat

end TableDef

namespace Sample.Quotes

/-! ## Names with quotes -/

/-- A table whose columns have quotes in their names, and one of them a comma, too. -/
def quoted : TableDef where
  schema := ⟨.shared, "quoted"⟩
  columns :=
    [(Column.plain (.unscoped .shared (.integer .int4) "a\x60")).withOptions .additional,
      .plain (.unscoped .shared .utf8 "\x60,\x60b\x60TEXT"),
      .aliasOf (.unscoped .shared .undefined "\x60) HIDDEN")
        (.unscoped .shared (.integer .int4) "a\x60")]
  attributes := []

/-- The table once more, with other types of the same keywords. -/
def requoted : TableDef where
  schema := ⟨.shared, "quoted"⟩
  columns :=
    [.plain (.unscoped .shared .boolean "a\x60"),
      (Column.plain (.unscoped .shared .any "\x60,\x60b\x60TEXT")).withOptions .required,
      .aliasOf (.unscoped .shared .utf8 "\x60) HIDDEN") (.unscoped .shared .boolean "a\x60")]
  attributes := []

/-- Quotes alone do no harm: here the columns can be read off. -/
theorem columns_of_quoted :
    quoted.name = requoted.name ∧ quoted.validate = .ok () ∧ requoted.validate = .ok () ∧
      (∀ c ∈ quoted.columns ++ requoted.columns, LacksColumnEnd c.field.name) ∧
      quoted.declaration = requoted.declaration ∧
      quoted.columns.length = requoted.columns.length ∧
      ∀ i c c', quoted.columns[i]? = some c → requoted.columns[i]? = some c' →
        c.field.name = c'.field.name ∧
          (quoted.declaredType i c).keyword = (requoted.declaredType i c').keyword ∧
            c.isDeclaredHidden = c'.isDeclaredHidden := by
  have hvalid : quoted.validate = .ok () := rfl
  have hvalid' : requoted.validate = .ok () := rfl
  have hlegible : ∀ c ∈ quoted.columns ++ requoted.columns, LacksColumnEnd c.field.name := by
    have hspace : ∀ c ∈ quoted.columns ++ requoted.columns,
        ¬['\x60', ' '] <:+: c.field.name.toList := by
      decide +kernel
    exact fun c hc ↦ lacksColumnEnd_of_not_infix (hspace c hc)
  have heq : quoted.declaration = requoted.declaration := by decide +kernel
  exact ⟨rfl, hvalid, hvalid', hlegible, heq,
    TableDef.columns_of_declaration rfl hvalid hvalid' hlegible heq⟩

/-- **A name that holds the end of a column stands for two columns.**  Whatever the two parts of the
name are, a table with the one column and a table with the two are both accepted, and they are
declared by the same text. -/
theorem declaration_joined (u v : String) (t : DataType) :
    let one := TableDef.ofFields quoted.schema
      [.unscoped .shared .utf8 (u ++ columnEnd t false ++ "\x60" ++ v)]
    let two := TableDef.ofFields quoted.schema
      [.unscoped (.isolated 0) t u, .unscoped (.isolated 1) .utf8 v]
    one.validate = .ok () ∧ two.validate = .ok () ∧ one.declaration = two.declaration := by
  intro one two
  refine ⟨TableDef.validate_ofFields (by simp) (by simp), TableDef.validate_ofFields (by simp) ?_,
    ?_⟩
  · simp [Field.unscoped]
  · rw [TableDef.declaration_ofFields, TableDef.declaration_ofFields]
    simp only [List.map_cons, List.map_nil, String.intercalate_cons_cons,
      String.intercalate_singleton, Field.unscoped, DataType.keyword, Heading.text, columnEnd,
      Bool.false_eq_true, if_false, String.append_empty, String.append_assoc]

/-- One column is declared like two. -/
theorem one_column_declared_as_two :
    let one := TableDef.ofFields ⟨.shared, "t"⟩ [.unscoped .shared .utf8 "a\x60 INTEGER, \x60b"]
    let two := TableDef.ofFields ⟨.shared, "t"⟩
      [.unscoped .shared (.integer .int4) "a", .unscoped .shared .utf8 "b"]
    one.validate = .ok () ∧ two.validate = .ok () ∧ one.name = two.name ∧
      one.declaration = two.declaration ∧ one.columns.length ≠ two.columns.length := by
  exact ⟨rfl, rfl, rfl, by decide +kernel, by decide⟩

end Sample.Quotes
end VirtualTables
