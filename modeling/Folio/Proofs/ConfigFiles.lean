import Folio.Command.Run
import Folio.Proofs.BuildSteps
import Folio.Proofs.TomlSections

/-!
# Configurations come back from their files

A configuration is saved with all its options. A user may keep only some of these lines, with or
without the headers of sections that have none left, and what is loaded then is the default
configuration with the options that are still there. Every section is looked up by its name, and one
that is missing counts as a section without options. So it makes no difference whether a header is
kept, and each option comes down to looking up its name among those that were kept.

A file that could be saved is found again under the same path. On the way to it the path only goes
through directories, and a directory is never replaced by a file.

## Main definitions

* `Folio.Config.chosen`: the chosen options of a configuration, by sections.
* `Folio.Config.overDefault`: the default configuration with the chosen options of another one.

## Main results

* `Folio.Config.read?_chosen`: chosen options are read over the defaults.
* `Folio.FileTree.readPath_saveConfig`: what was saved is read under the same path.
* `Folio.configuration_round_trip`: both of them for files.
-/

namespace Folio

/-! ### The names of the options -/

namespace Config

/-- The names of the sections, each with those of its options. -/
def keyNames : List (String × List String) :=
  [("headings", ["anchor_links"]),
   ("markdown", ["tables", "strikethrough", "tasklists", "allow_raw_html"]),
   ("highlight", ["enabled", "theme"]),
   ("page", ["title", "include_toc"])]

theorem map_names_settings (config : Config) :
    config.settings.map (fun part => (part.1, part.2.map Prod.fst)) = keyNames := rfl

theorem keyNames_wellNamed : (keyNames.map Prod.fst).Nodup ∧ ∀ names ∈ keyNames,
    IsBareKey names.1 ∧ (∀ key ∈ names.2, IsBareKey key) ∧ names.2.Nodup := by
  decide

theorem wellNamed_settings (config : Config) : WellNamed config.settings := by
  have hnames (part) (hpart : part ∈ config.settings) :=
    keyNames_wellNamed.2 _ (config.map_names_settings ▸ List.mem_map_of_mem hpart)
  have hsections := keyNames_wellNamed.1
  rw [← config.map_names_settings, List.map_map] at hsections
  exact
    { bare_name := fun part hpart => (hnames part hpart).1
      bare_key := fun part hpart option hoption =>
        (hnames part hpart).2.1 option.1 (List.mem_map_of_mem hoption)
      nodup_names := hsections
      nodup_keys := fun part hpart => (hnames part hpart).2.2 }

end Config

/-! ### Some options of a configuration -/

section Chosen

variable {parts : List (String × List (String × Setting))}

/-- Sections of which only the chosen options are kept. -/
def chooseOptions (choose : String → String → Bool)
    (parts : List (String × List (String × Setting))) : List (String × List (String × Setting)) :=
  parts.map fun part => (part.1, part.2.filter fun option => choose part.1 option.1)

theorem WellNamed.chooseOptions (h : WellNamed parts) (choose : String → String → Bool) :
    WellNamed (chooseOptions choose parts) where
  bare_name := List.forall_mem_map.2 h.bare_name
  bare_key := List.forall_mem_map.2 fun part hpart option hoption =>
    h.bare_key part hpart option (List.mem_of_mem_filter hoption)
  nodup_names := by
    rw [Folio.chooseOptions, List.map_map]
    exact h.nodup_names
  nodup_keys := List.forall_mem_map.2 fun part hpart =>
    (h.nodup_keys part hpart).sublist (List.filter_sublist.map Prod.fst)

theorem WellNamed.filter (h : WellNamed parts)
    (keep : String × List (String × Setting) → Bool) : WellNamed (parts.filter keep) where
  bare_name part hpart := h.bare_name part (List.mem_of_mem_filter hpart)
  bare_key part hpart := h.bare_key part (List.mem_of_mem_filter hpart)
  nodup_names := h.nodup_names.sublist (List.filter_sublist.map Prod.fst)
  nodup_keys part hpart := h.nodup_keys part (List.mem_of_mem_filter hpart)

end Chosen

namespace Config

/-- The chosen options of a configuration by sections. A section without any of them is left out or
keeps its header. -/
def chosen (config : Config) (choose : String → String → Bool) (headed : String → Bool) :
    List (String × List (String × Setting)) :=
  (chooseOptions choose config.settings).filter fun part => !part.2.isEmpty || headed part.1

/-- The default configuration with the chosen options of another one. -/
def overDefault (config : Config) (choose : String → String → Bool) : Config :=
  let pick {α : Type} (name key : String) (option : Config → α) : α :=
    if choose name key then option config else option {}
  { headings.anchorLinks := pick "headings" "anchor_links" (·.headings.anchorLinks)
    markdown.tables := pick "markdown" "tables" (·.markdown.tables)
    markdown.strikethrough := pick "markdown" "strikethrough" (·.markdown.strikethrough)
    markdown.tasklists := pick "markdown" "tasklists" (·.markdown.tasklists)
    markdown.allowRawHtml := pick "markdown" "allow_raw_html" (·.markdown.allowRawHtml)
    highlight.enabled := pick "highlight" "enabled" (·.highlight.enabled)
    highlight.theme := pick "highlight" "theme" (·.highlight.theme)
    page.title := pick "page" "title" (·.page.title)
    page.includeToc := pick "page" "include_toc" (·.page.includeToc) }

end Config

/-! ### Looking up options -/

/-- A key among the entries that are kept. -/
theorem lookup_filter_map {α β : Type} (keep : String × α → Bool) (f : String × α → β)
    {entries : List (String × α)} (hkeys : (entries.map Prod.fst).Nodup) {entry : String × α}
    (hentry : entry ∈ entries) :
    ((entries.filter keep).map fun other => (other.1, f other)).lookup entry.1 =
      if keep entry then some (f entry) else none := by
  induction entries with
  | nil => cases hentry
  | cons first entries ih =>
    obtain ⟨hfirst, hrest⟩ := List.nodup_cons.1 hkeys
    rcases List.mem_cons.1 hentry with rfl | hmem
    · have hnone : ((entries.filter keep).map fun other => (other.1, f other)).lookup entry.1 =
          none := by
        refine Toml.lookup_eq_none fun hmem => hfirst ?_
        rw [List.map_map] at hmem
        exact (List.filter_sublist.map Prod.fst).subset hmem
      rw [List.filter_cons]
      split
      · rw [List.map_cons, List.lookup_cons_self]
      · exact hnone
    · have hne : entry.1 ≠ first.1 := fun h => hfirst (h ▸ List.mem_map_of_mem hmem)
      rw [List.filter_cons]
      split
      · rw [List.map_cons, List.lookup_cons, beq_false_of_ne hne]
        exact ih hrest hmem
      · exact ih hrest hmem

namespace Section

variable {options : List (String × Setting)} {key : String}

/-- An option of a section of which only some options are kept. -/
theorem value?_named (keep : String → Bool) (hkeys : (options.map Prod.fst).Nodup)
    {setting : Setting} (hoption : (key, setting) ∈ options) (place : Nat) :
    (named (optionFields (options.filter (keep ·.1)))).value? key place =
      if keep key then some setting.value else none :=
  lookup_filter_map (fun option : String × Setting => keep option.1)
    (fun option : String × Setting => option.2.value) hkeys hoption

theorem flag?_named (keep : String → Bool) (hkeys : (options.map Prod.fst).Nodup) {flag : Bool}
    (hoption : (key, .flag flag) ∈ options) (place : Nat) (default : Bool) :
    (named (optionFields (options.filter (keep ·.1)))).flag? key place default =
      some (if keep key then flag else default) := by
  rw [flag?, value?_named keep hkeys hoption]
  cases keep key <;> rfl

theorem text?_named (keep : String → Bool) (hkeys : (options.map Prod.fst).Nodup) {text : String}
    (hoption : (key, .text text) ∈ options) (place : Nat) (default : String) :
    (named (optionFields (options.filter (keep ·.1)))).text? key place default =
      some (if keep key then text else default) := by
  rw [text?, value?_named keep hkeys hoption]
  cases keep key <;> rfl

end Section

namespace Config

variable (config : Config) (choose : String → String → Bool) (headed : String → Bool)

/-- A section is found with the options that are chosen, whether it has kept its header or not. -/
theorem find?_chosen {part : String × List (String × Setting)} (hpart : part ∈ config.settings) :
    Section.find? (sectionFields (config.chosen choose headed)) part.1 =
      some (.named (optionFields (part.2.filter fun option => choose part.1 option.1))) := by
  have hmem : (part.1, part.2.filter fun option => choose part.1 option.1) ∈
      chooseOptions choose config.settings := List.mem_map_of_mem hpart
  have hnames := (config.wellNamed_settings.chooseOptions choose).nodup_names
  have hlookup := lookup_filter_map (fun part => !part.2.isEmpty || headed part.1)
    (fun part => Toml.Value.table .header (optionFields part.2)) hnames hmem
  rw [Section.find?, sectionFields, chosen, hlookup]
  split_ifs with hkeep
  · rfl
  · have hnone : (part.2.filter fun option => choose part.1 option.1) = [] := by
      simp only [Bool.or_eq_true, Bool.not_eq_true', not_or, Bool.not_eq_false,
        List.isEmpty_iff] at hkeep
      exact hkeep.1
    rw [hnone]
    rfl

/-- The sections have exactly the options of the configuration that were chosen. -/
theorem ofFields?_chosen :
    ofFields? (sectionFields (config.chosen choose headed)) =
      some (config.overDefault choose) := by
  have hkeys := config.wellNamed_settings.nodup_keys
  have hheadings : ("headings", _) ∈ config.settings := .head _
  have hmarkdown : ("markdown", _) ∈ config.settings := .tail _ (.head _)
  have hhighlight : ("highlight", _) ∈ config.settings := .tail _ (.tail _ (.head _))
  have hpage : ("page", _) ∈ config.settings := .tail _ (.tail _ (.tail _ (.head _)))
  rw [ofFields?, config.find?_chosen choose headed hheadings,
    config.find?_chosen choose headed hmarkdown,
    config.find?_chosen choose headed hhighlight, config.find?_chosen choose headed hpage]
  simp only [Option.bind_eq_bind, Option.bind_some]
  rw [Section.flag?_named (choose "headings") (hkeys _ hheadings) (.head _),
    Section.flag?_named (choose "markdown") (hkeys _ hmarkdown) (.head _),
    Section.flag?_named (choose "markdown") (hkeys _ hmarkdown) (.tail _ (.head _)),
    Section.flag?_named (choose "markdown") (hkeys _ hmarkdown) (.tail _ (.tail _ (.head _))),
    Section.flag?_named (choose "markdown") (hkeys _ hmarkdown)
      (.tail _ (.tail _ (.tail _ (.head _)))),
    Section.flag?_named (choose "highlight") (hkeys _ hhighlight) (.head _),
    Section.text?_named (choose "highlight") (hkeys _ hhighlight) (.tail _ (.head _)),
    Section.text?_named (choose "page") (hkeys _ hpage) (.head _),
    Section.flag?_named (choose "page") (hkeys _ hpage) (.tail _ (.head _))]
  rfl

/-- **Chosen options are read over the defaults.** -/
theorem read?_chosen :
    read? (settingsText (config.chosen choose headed)) = some (config.overDefault choose) := by
  have hnamed : WellNamed (config.chosen choose headed) :=
    (config.wellNamed_settings.chooseOptions choose).filter _
  rw [read?, Toml.read?_settingsText hnamed, Option.bind_some, ofFields?_chosen]

theorem chosen_all : config.chosen (fun _ _ => true) headed = config.settings := rfl

theorem overDefault_all : config.overDefault (fun _ _ => true) = config := rfl

/-- The text of a configuration has all its options. -/
theorem read?_text : read? config.text = some config := by
  rw [text, ← config.chosen_all fun _ => true, read?_chosen, overDefault_all]

end Config

/-! ### Files -/

namespace FileTree

variable {tree tree' : FileTree} {path : String}

/-- The text of a file is read as it was written. -/
theorem readPath_of_find? {location : Location} {text : String}
    (hlocate : tree.locate path = .ok location)
    (hfind : tree.find? location = some (.file text.toUTF8))
    (hreads : tree.refuses .reading location = false) : tree.readPath path = .ok text := by
  have hread : tree.read location = .ok text.toUTF8 := by
    rw [read, hfind]
    exact if_neg (by simp [hreads])
  have htext : String.fromUTF8? text.toUTF8 = some text := dif_pos text.isValidUTF8
  rw [readPath, hlocate]
  simp only [Except.bind, readText, hread, htext]

theorem loadConfig_of_readPath {text : String} {config : Config}
    (hread : tree.readPath path = .ok text) (hconfig : Config.read? text = some config) :
    tree.loadConfig path = .ok config := by
  rw [loadConfig, hread]
  simp only [hconfig]

/-- A path leads where it did before something was put where no directory stands. -/
theorem follow_put {place : Location} (hroot : place ≠ [])
    (hplace : tree.find? place ≠ some .directory) (entry : FileEntry) {steps : List String}
    {start location : Location} (h : tree.follow steps start = .ok location) :
    (tree.put place entry).follow steps start = .ok location := by
  induction steps generalizing start with
  | nil => exact h
  | cons step steps ih =>
    rw [follow] at h ⊢
    split at h
    · cases h
    · cases h
    · rename_i hstart
      have hne : start ≠ place := by
        rintro rfl
        exact hplace hstart
      rw [find?_put_of_ne hroot hne, hstart]
      split_ifs at h ⊢
      all_goals exact ih h

theorem write_eq_ok {location : Location} {bytes : ByteArray}
    (h : tree.write location bytes = (.ok (), tree')) :
    tree.obstacle? location = none ∧ tree' = tree.put location (.file bytes) := by
  rw [write] at h
  split at h
  · cases h
  · rename_i hfree
    refine ⟨hfree, ?_⟩
    split at h
    · exact (Prod.mk.inj h).2.symm
    · split at h
      · exact (Prod.mk.inj h).2.symm
      · cases h

/-- What has become of a tree in which a configuration could be saved. -/
theorem saveConfig_eq_ok {config : Config} (h : tree.saveConfig path config = (.ok (), tree')) :
    ∃ location, tree.locate path = .ok location ∧ tree.obstacle? location = none ∧
      tree' = tree.put location (.file config.text.toUTF8) := by
  rw [saveConfig] at h
  split at h
  · cases h
  · rename_i location hlocate
    refine ⟨location, hlocate, write_eq_ok ?_⟩
    generalize tree.write location config.text.toUTF8 = written at h ⊢
    obtain ⟨_ | _, after⟩ := written
    · cases h
    · cases h
      rfl

/-- What was saved is read, where reading is not refused. -/
theorem readPath_saveConfig {config : Config}
    (h : tree.saveConfig path config = (.ok (), tree'))
    (hreads : ∀ location, tree.locate path = .ok location →
      tree.refuses .reading location = false) : tree'.readPath path = .ok config.text := by
  obtain ⟨location, hlocate, hfree, rfl⟩ := saveConfig_eq_ok h
  have hroot := ne_nil_of_obstacle?_eq_none hfree
  have hlocate' : (tree.put location (.file config.text.toUTF8)).locate path = .ok location := by
    rw [locate] at hlocate ⊢
    split_ifs at hlocate ⊢
    exact follow_put hroot (find?_ne_directory_of_obstacle?_eq_none hfree) _ hlocate
  exact readPath_of_find? hlocate' (find?_put_self hroot _) (hreads location hlocate)

end FileTree

/-- **Configurations come back from their files.** A file that holds some options of a
configuration as they are written, with headers of sections or without, is loaded as the default
configuration with these options; and what was saved is loaded again. -/
theorem configuration_round_trip (config : Config) :
    (∀ choose headed,
      Config.read? (settingsText (config.chosen choose headed)) =
        some (config.overDefault choose)) ∧
      (∀ choose headed (tree : FileTree) path,
        tree.readPath path = .ok (settingsText (config.chosen choose headed)) →
          tree.loadConfig path = .ok (config.overDefault choose)) ∧
      ∀ (tree tree' : FileTree) path, tree.saveConfig path config = (.ok (), tree') →
        (∀ location, tree.locate path = .ok location →
          tree.refuses .reading location = false) →
        tree'.loadConfig path = .ok config :=
  ⟨config.read?_chosen,
    fun choose headed _ _ hread =>
      FileTree.loadConfig_of_readPath hread (config.read?_chosen choose headed),
    fun _ _ _ hsave hreads =>
      FileTree.loadConfig_of_readPath (FileTree.readPath_saveConfig hsave hreads) config.read?_text⟩

/-- A configuration whose texts need escapes and several lines. -/
def quotedConfig : Config where
  highlight.theme := "\"\"\"\n'''\"\""
  page.title := "it's \"C:\\\"\r"

theorem configuration_round_trip_quoted :
    let text := settingsText (quotedConfig.chosen (fun _ key => key == "title") fun _ => false)
    let file : FileTree := { entries := [(["richdoc.toml"], .file text.toUTF8)] }
    let saved := ({} : FileTree).saveConfig "richdoc.toml" quotedConfig
    file.loadConfig "richdoc.toml" = .ok { page.title := quotedConfig.page.title } ∧
      saved.1 = .ok () ∧ saved.2.loadConfig "richdoc.toml" = .ok quotedConfig := by
  intro text file saved
  have hread : file.readPath "richdoc.toml" = .ok text :=
    FileTree.readPath_of_find? rfl rfl rfl
  have hload := (configuration_round_trip quotedConfig).2.1 (fun _ key => key == "title")
    (fun _ => false) file "richdoc.toml" hread
  have hsaved : saved = (.ok (), saved.2) := rfl
  exact ⟨hload, congrArg Prod.fst hsaved,
    (configuration_round_trip quotedConfig).2.2 {} saved.2 "richdoc.toml" hsaved fun _ _ => rfl⟩

end Folio
