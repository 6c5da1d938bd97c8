import Folio.Config.ToToml
import Folio.Proofs.TomlStrings
import Folio.Toml.Reader

/-!
# Sections come back from a TOML text

The text of sections is a header and a line for each option, section by section. Reading it goes in
two stages, and so does the proof. First the text falls apart into statements: each line gives one
of them before any rest, since a key ends at the first character that cannot stand in it and a
value ends with its line. Then the statements build the tree of tables: a header opens a table of
its own, and the options after it all go into that table, in their order. Both need that the keys
are plain names, and the second that no name and no option of a section comes twice.

## Main definitions

* `Folio.WellNamed`: sections whose names can be written and told apart.
* `Folio.sectionFields`: sections as the fields of a tree of tables.
* `Folio.Toml.ReadsAs`: a text falls apart into statements.

## Main results

* `Folio.Toml.readsAs_settingsText`: the statements of the text of sections.
* `Folio.Toml.read?_settingsText`: what is read from the text of sections.
-/

namespace Folio

open Toml

/-- The value that an option has in a tree of tables. -/
def Setting.value : Setting → Value
  | .flag value => .boolean value
  | .text value => .string value

/-- Options as the fields of a table. -/
def optionFields (options : List (String × Setting)) : Fields :=
  options.map fun option => (option.1, option.2.value)

/-- Sections as the fields of a tree of tables. -/
def sectionFields (parts : List (String × List (String × Setting))) : Fields :=
  parts.map fun part => (part.1, .table .header (optionFields part.2))

@[simp]
theorem map_fst_optionFields (options : List (String × Setting)) :
    (optionFields options).map Prod.fst = options.map Prod.fst := List.map_map

@[simp]
theorem map_fst_sectionFields (parts : List (String × List (String × Setting))) :
    (sectionFields parts).map Prod.fst = parts.map Prod.fst := List.map_map

/-- A name that is a key without quotation marks. -/
def IsBareKey (name : String) : Prop := name.toList ≠ [] ∧ ∀ c ∈ name.toList, isBare c = true

instance (name : String) : Decidable (IsBareKey name) :=
  decidable_of_iff (name.toList ≠ [] ∧ name.toList.all isBare = true)
    (by rw [IsBareKey, List.all_eq_true])

/-- The names of sections and of their options are keys without quotation marks, and none comes
twice. -/
structure WellNamed (parts : List (String × List (String × Setting))) : Prop where
  bare_name : ∀ part ∈ parts, IsBareKey part.1
  bare_key : ∀ part ∈ parts, ∀ option ∈ part.2, IsBareKey option.1
  nodup_names : (parts.map Prod.fst).Nodup
  nodup_keys : ∀ part ∈ parts, (part.2.map Prod.fst).Nodup

namespace Toml

/-! ### Keys -/

section Keys

variable {name : String} {c : Char}

theorem exists_cons_of_isBareKey (hname : IsBareKey name) :
    ∃ c tail, name.toList = c :: tail ∧ isBare c = true := by
  obtain ⟨c, tail, h⟩ := List.exists_cons_of_ne_nil hname.1
  exact ⟨c, tail, h, hname.2 c (h ▸ List.mem_cons_self)⟩

theorem ne_of_isBare {d : Char} (hc : isBare c = true) (hd : isBare d = false) : c ≠ d := by
  rintro rfl
  rw [hc] at hd
  cases hd

theorem isSpace_of_isBare (hc : isBare c = true) : isSpace c = false := by
  simp [isSpace, ne_of_isBare hc (show isBare ' ' = false from rfl),
    ne_of_isBare hc (show isBare '\t' = false from rfl)]

theorem skipSpace_cons (hc : isSpace c = false) (cs : List Char) :
    skipSpace (c :: cs) = c :: cs :=
  List.dropWhile_cons_of_neg (by simp [hc])

/-- Nothing is skipped before a key. -/
theorem skipGap_of_isBare (hc : isBare c = true) (cs : List Char) :
    skipGap false (c :: cs) = some (c :: cs) := by
  have hcomment : c ≠ '#' := ne_of_isBare hc rfl
  rw [skipGap]
  · simp [isSpace_of_isBare hc, hcomment]
  · exact ne_of_isBare hc rfl
  · exact fun _ h => absurd h (ne_of_isBare hc rfl)

/-- A key without quotation marks is read up to the first character that cannot stand in it. -/
theorem simpleKey?_bare (hname : IsBareKey name) (hc : isBare c = false) (rest : List Char) :
    simpleKey? (name.toList ++ c :: rest) = some (name, c :: rest) := by
  have hbare : (name.toList ++ c :: rest).takeWhile isBare = name.toList := by
    rw [List.takeWhile_append_of_pos hname.2, List.takeWhile_cons_of_neg (by simp [hc]),
      List.append_nil]
  rw [simpleKey?, hbare, if_neg (by simpa using hname.1), List.drop_left, String.ofList_toList]

/-- A key has no further parts where no dot follows. -/
theorem key?_bare (hname : IsBareKey name) (hc : isBare c = false) {d : Char}
    {rest more : List Char} (hskip : skipSpace (c :: rest) = d :: more) (hd : d ≠ '.')
    (fuel : Nat) : key? (fuel + 1) (name.toList ++ c :: rest) = some ([name], d :: more) := by
  have hstart : skipSpace (name.toList ++ c :: rest) = name.toList ++ c :: rest := by
    obtain ⟨first, tail, h, hbare⟩ := exists_cons_of_isBareKey hname
    rw [h]
    exact skipSpace_cons (isSpace_of_isBare hbare) _
  simp only [key?, hstart, simpleKey?_bare hname hc, Option.bind_eq_bind, Option.bind_some, hskip]
  split
  · exact absurd (List.head_eq_of_cons_eq ‹_›) hd
  · rfl

end Keys

/-! ### Values -/

/-- The text of a value starts with no white space. -/
theorem skipSpace_written (setting : Setting) (rest : List Char) :
    skipSpace (setting.written.toList ++ rest) = setting.written.toList ++ rest := by
  match setting with
  | .flag true => rfl
  | .flag false => rfl
  | .text text =>
    obtain ⟨tail, h | h⟩ := quote_eq_cons text
    all_goals
      rw [Setting.written, h]
      rfl

/-- The value of an option is read up to the end of its line. -/
theorem value?_written (setting : Setting) (room fuel : Nat) (rest : List Char) :
    value? room (fuel + 1) (setting.written.toList ++ '\n' :: rest) =
      some (setting.value, '\n' :: rest) := by
  match setting with
  | .flag true => rfl
  | .flag false => rfl
  | .text text =>
    have hread : string? ((quote text).toList ++ '\n' :: rest) = some (text.toList, '\n' :: rest) :=
      string?_quote text (by simp) (by simp)
    rw [Setting.written]
    obtain ⟨tail, h | h⟩ := quote_eq_cons text
    all_goals
      rw [h, List.cons_append] at hread ⊢
      simp only [value?, hread, Option.map_some, String.ofList_toList, Setting.value]

/-! ### Statements -/

/-- The statement of an option. -/
def optionStatement (option : String × Setting) : Statement :=
  .define [] option.1 option.2.value

/-- The statements of a section. -/
def sectionStatements (part : String × List (String × Setting)) : List Statement :=
  .table [] part.1 :: part.2.map optionStatement

/-- The line of a header. -/
theorem statement?_header {name : String} (hname : IsBareKey name) (rest : List Char) :
    statement? ('[' :: (name.toList ++ ']' :: '\n' :: rest)) = some (.table [] name, rest) := by
  rw [statement?]
  · rw [key?_bare hname rfl rfl (by decide)]
    rfl
  · obtain ⟨c, tail, h, hc⟩ := exists_cons_of_isBareKey hname
    rw [h]
    exact fun _ h => ne_of_isBare hc rfl (List.head_eq_of_cons_eq h)

/-- The line of an option. -/
theorem statement?_optionLine {option : String × Setting} (hkey : IsBareKey option.1)
    (rest : List Char) :
    statement? ((optionLine option).toList ++ rest) = some (optionStatement option, rest) := by
  have hline : (optionLine option).toList ++ rest =
      option.1.toList ++ ' ' :: '=' :: ' ' :: (option.2.written.toList ++ '\n' :: rest) := by
    simp [optionLine]
  have hskip : skipSpace (' ' :: (option.2.written.toList ++ '\n' :: rest)) =
      option.2.written.toList ++ '\n' :: rest := skipSpace_written option.2 _
  rw [hline, statement?]
  · rw [key?_bare hkey rfl rfl (by decide)]
    simp only [Option.bind_eq_bind, Option.bind_some, hskip, value?_written]
    rfl
  all_goals
    obtain ⟨c, tail, h, hc⟩ := exists_cons_of_isBareKey hkey
    rw [h]
    exact fun _ h => ne_of_isBare hc rfl (List.head_eq_of_cons_eq h)

/-- A text falls apart into statements, with any fuel beyond its length. -/
def ReadsAs (cs : List Char) (statements : List Statement) : Prop :=
  ∀ fuel, cs.length < fuel → statements? fuel cs = some statements

section Reading

variable {cs rest : List Char} {statements : List Statement}

theorem readsAs_nil : ReadsAs [] [] := by
  rintro (_ | fuel) h
  · cases h
  · rfl

theorem ReadsAs.newline (h : ReadsAs cs statements) : ReadsAs ('\n' :: cs) statements := by
  rintro (_ | fuel) hfuel
  · cases hfuel
  · have hgap : skipGap false ('\n' :: cs) = skipGap false cs := by rw [skipGap]
    rw [statements?, hgap, ← statements?]
    exact h _ (Nat.lt_of_succ_lt hfuel)

theorem ReadsAs.statement {c : Char} {statement : Statement}
    (hgap : skipGap false (c :: cs) = some (c :: cs))
    (hread : statement? (c :: cs) = some (statement, rest)) (hlength : rest.length ≤ cs.length)
    (h : ReadsAs rest statements) : ReadsAs (c :: cs) (statement :: statements) := by
  rintro (_ | fuel) hfuel
  · cases hfuel
  · rw [List.length_cons] at hfuel
    simp only [statements?, hgap, hread, h fuel (by omega), Option.bind_eq_bind, Option.bind_some]

theorem ReadsAs.optionLine {option : String × Setting} (hkey : IsBareKey option.1)
    (h : ReadsAs rest statements) :
    ReadsAs ((optionLine option).toList ++ rest) (optionStatement option :: statements) := by
  have hread := statement?_optionLine hkey rest
  obtain ⟨c, tail, hname, hc⟩ := exists_cons_of_isBareKey hkey
  obtain ⟨line, hline⟩ : ∃ line, (Folio.optionLine option).toList = c :: line :=
    ⟨_, by rw [Folio.optionLine, String.append_assoc, String.append_assoc, String.toList_append,
      hname]; rfl⟩
  rw [hline] at hread ⊢
  exact h.statement (skipGap_of_isBare hc _) hread (by simp)

theorem ReadsAs.options (h : ReadsAs rest statements) {options : List (String × Setting)}
    (hkeys : ∀ option ∈ options, IsBareKey option.1) :
    ReadsAs ((String.join (options.map Folio.optionLine)).toList ++ rest)
      (options.map optionStatement ++ statements) := by
  rw [String.toList_join]
  induction options with
  | nil => exact h
  | cons option options ih =>
    rw [List.map_cons, List.flatMap_cons, List.append_assoc]
    exact .optionLine (hkeys option List.mem_cons_self)
      (ih fun other hother => hkeys other (List.mem_cons_of_mem option hother))

theorem ReadsAs.sectionLines (h : ReadsAs rest statements)
    {part : String × List (String × Setting)} (hname : IsBareKey part.1)
    (hkeys : ∀ option ∈ part.2, IsBareKey option.1) :
    ReadsAs ((sectionLines part).toList ++ rest) (sectionStatements part ++ statements) := by
  have hlines : (Folio.sectionLines part).toList ++ rest = '[' :: (part.1.toList ++ ']' :: '\n' ::
      ((String.join (part.2.map Folio.optionLine)).toList ++ rest)) := by
    simp [Folio.sectionLines]
  rw [hlines]
  refine (h.options hkeys).statement rfl (statement?_header hname _) ?_
  simp only [List.length_append, List.length_cons]
  omega

/-- **The statements of the text of sections.** -/
theorem readsAs_settingsText {parts : List (String × List (String × Setting))}
    (hnames : ∀ part ∈ parts, IsBareKey part.1)
    (hkeys : ∀ part ∈ parts, ∀ option ∈ part.2, IsBareKey option.1) :
    ReadsAs (settingsText parts).toList (parts.flatMap sectionStatements) := by
  rw [settingsText, String.toList_intercalate]
  induction parts with
  | nil => exact readsAs_nil
  | cons part parts ih =>
    have hrest := ih (fun other h => hnames other (List.mem_cons_of_mem part h))
      (fun other h => hkeys other (List.mem_cons_of_mem part h))
    have hname := hnames part List.mem_cons_self
    have hoptions := hkeys part List.mem_cons_self
    cases parts with
    | nil =>
      simpa using readsAs_nil.sectionLines hname hoptions
    | cons next parts =>
      rw [List.map_cons, List.map_cons, List.map_cons, List.map_cons,
        List.intercalate_cons_cons, List.flatMap_cons, List.append_assoc]
      exact hrest.newline.sectionLines hname hoptions

end Reading

/-! ### The tree of tables -/

theorem lookup_eq_none {α : Type} {entries : List (String × α)} {key : String}
    (h : key ∉ entries.map Prod.fst) : entries.lookup key = none := by
  rw [List.lookup_eq_none_iff]
  intro entry hentry
  rw [bne_iff_ne]
  rintro rfl
  exact h (List.mem_map_of_mem hentry)

section Tree

variable {done fields : Fields} {name key : String}

/-- The document in which the section that was opened last has a name and some fields. -/
def openSection (done : Fields) (name : String) (fields : Fields) : Document where
  root := { origin := .header, fields := done ++ [(name, .table .header fields)] }
  current := [name]

theorem lookup_openSection (hname : name ∉ done.map Prod.fst) (value : Value) :
    (done ++ [(name, value)]).lookup name = some value := by
  rw [List.lookup_append, lookup_eq_none hname]
  simp

theorem replace_openSection (hname : name ∉ done.map Prod.fst) (value other : Value) :
    Fields.replace (done ++ [(name, value)]) name other = done ++ [(name, other)] := by
  have hdone : done.map (fun field => if field.1 == name then (name, other) else field) = done := by
    refine (List.map_congr_left fun field hfield => ?_).trans (List.map_id done)
    refine if_neg ?_
    rw [beq_iff_eq]
    rintro rfl
    exact hname (List.mem_map_of_mem hfield)
  rw [Fields.replace, List.map_append, hdone]
  simp

/-- A header opens a section. -/
theorem add?_table {document : Document}
    (hroot : document.root = { origin := .header, fields := done })
    (hname : name ∉ done.map Prod.fst) :
    document.add? (.table [] name) = some (openSection done name []) := by
  simp [Document.add?, hroot, Table.openTable?, Table.modify?, lookup_eq_none hname, Table.add?,
    openSection]

/-- An option goes into the section that was opened last. -/
theorem add?_define (hname : name ∉ done.map Prod.fst) (hkey : key ∉ fields.map Prod.fst)
    (value : Value) :
    (openSection done name fields).add? (.define [] key value) =
      some (openSection done name (fields ++ [(key, value)])) := by
  simp [Document.add?, openSection, Table.modify?, lookup_openSection hname, Table.define?,
    Table.add?, lookup_eq_none hkey, replace_openSection hname]

theorem notMem_of_nodup {value : Value} {others : Fields}
    (h : ((fields ++ (key, value) :: others).map Prod.fst).Nodup) :
    key ∉ fields.map Prod.fst := by
  rw [List.map_append, List.map_cons, List.nodup_append] at h
  exact fun hmem => h.2.2 key hmem key List.mem_cons_self rfl

/-- The statements of options add these to the section that was opened last. -/
theorem foldlM_options (hname : name ∉ done.map Prod.fst) {options : List (String × Setting)}
    (hkeys : ((fields ++ optionFields options).map Prod.fst).Nodup) :
    (options.map optionStatement).foldlM Document.add? (openSection done name fields) =
      some (openSection done name (fields ++ optionFields options)) := by
  induction options generalizing fields with
  | nil => simp [optionFields]
  | cons option options ih =>
    have hcons : optionFields (option :: options) =
        (option.1, option.2.value) :: optionFields options := rfl
    rw [hcons] at hkeys ⊢
    rw [List.map_cons, List.foldlM_cons, optionStatement,
      add?_define hname (notMem_of_nodup hkeys), Option.bind_eq_bind, Option.bind_some]
    rw [List.append_cons fields _ (optionFields options)] at hkeys ⊢
    exact ih hkeys

/-- The statements of sections add these to the tree. -/
theorem foldlM_sections {document : Document}
    (hroot : document.root = { origin := .header, fields := done })
    {parts : List (String × List (String × Setting))}
    (hnames : ((done ++ sectionFields parts).map Prod.fst).Nodup)
    (hkeys : ∀ part ∈ parts, (part.2.map Prod.fst).Nodup) :
    ((parts.flatMap sectionStatements).foldlM Document.add? document).map (·.root.fields) =
      some (done ++ sectionFields parts) := by
  induction parts generalizing done document with
  | nil => simp [sectionFields, hroot]
  | cons part parts ih =>
    have hcons : sectionFields (part :: parts) =
        (part.1, .table .header (optionFields part.2)) :: sectionFields parts := rfl
    rw [hcons] at hnames ⊢
    have hname := notMem_of_nodup hnames
    have hoptions : (part.2.map optionStatement).foldlM Document.add?
        (openSection done part.1 []) = some (openSection done part.1 (optionFields part.2)) :=
      foldlM_options hname (by simpa using hkeys part List.mem_cons_self)
    rw [List.flatMap_cons, List.foldlM_append, sectionStatements, List.foldlM_cons,
      add?_table hroot hname]
    simp only [Option.bind_eq_bind, Option.bind_some, hoptions]
    rw [List.append_cons done] at hnames ⊢
    exact ih rfl hnames fun other h => hkeys other (List.mem_cons_of_mem part h)

end Tree

theorem dropByteOrderMark_settingsText (parts : List (String × List (String × Setting))) :
    dropByteOrderMark (settingsText parts).toList = (settingsText parts).toList := by
  rw [settingsText, String.toList_intercalate]
  match parts with
  | [] => rfl
  | [part] => simp [sectionLines, dropByteOrderMark]
  | part :: next :: parts =>
    simp [sectionLines, List.intercalate_cons_cons, dropByteOrderMark]

/-- **The fields of the text of sections.** -/
theorem read?_settingsText {parts : List (String × List (String × Setting))}
    (hparts : WellNamed parts) : read? (settingsText parts) = some (sectionFields parts) := by
  have hread := readsAs_settingsText hparts.bare_name hparts.bare_key _ (Nat.lt_succ_self _)
  have hstart : ({} : Document).root = { origin := .header, fields := [] } := rfl
  have hfields := foldlM_sections hstart (by simpa using hparts.nodup_names) hparts.nodup_keys
  obtain ⟨document, hdocument, hroot⟩ := Option.map_eq_some_iff.1 hfields
  simp only [read?, dropByteOrderMark_settingsText, hread, hdocument, Option.bind_eq_bind,
    Option.bind_some, hroot, List.nil_append]

end Toml

end Folio
