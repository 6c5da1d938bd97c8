import Folio.Proofs.BuildAccounts

/-!
# What a build leaves alone

The input and the output of a build may be one directory, or one may lie inside the other, so that
pages are written among the sources that other jobs still read. Nothing but pages comes of it.
Every location of the tree is followed through the steps of the jobs: it is as it was at first, or a
directory was made where nothing stood on the way to a page, or a page was written where no
directory stood. A page is no source, and where a source stands no directory is made, and so sources
are always in the first case.

## Main definitions

* `Folio.Touched`: what jobs may have done to a location so far.
* `Folio.PagesOnly`: a tree that differs from an earlier one by pages and the directories for them.

## Main results

* `Folio.Reached.touched`: every location in every state that jobs may reach.
* `Folio.build_frame`: a build changes nothing but its pages, in any order and whatever fails.
-/

namespace Folio

variable {η : Type} {renderer : Renderer} {options : BuildOptions η}

/-! ### Locations along the steps of jobs -/

/-- What jobs may have done to a location so far. -/
inductive Touched (jobs : List Job) (start now : FileTree) (location : Location) : Prop
  | kept (h : now.find? location = start.find? location)
  /-- A directory was made on the way to a page. -/
  | made {job} (hjob : job ∈ jobs) (hway : location <+: job.page.location.dropLast)
      (hfree : start.find? location = none) (hmade : now.find? location = some .directory)
  /-- The page of a job was written. -/
  | wrote {job bytes} (hjob : job ∈ jobs) (hlocation : location = job.page.location)
      (hfree : start.find? location ≠ some .directory)
      (hwrote : now.find? location = some (.file bytes))

section Steps

variable {jobs : List Job} {job : Job} {start tree next : FileTree} {stage : Stage}
  {location : Location}

/-- A step of a job does no more to a location than jobs may do. -/
theorem Touched.step (h : Touched jobs start tree location) (hjob : job ∈ jobs)
    (hsound : stage.Sound renderer options start job tree)
    (hchange : job.Change stage tree next location) : Touched jobs start next location := by
  cases hchange with
  | kept hkept =>
    cases h with
    | kept hsame => exact .kept (hkept.trans hsame)
    | made hother hway hfree hmade => exact .made hother hway hfree (hkept.trans hmade)
    | wrote hother hlocation hfree hwrote =>
      exact .wrote hother hlocation hfree (hkept.trans hwrote)
  | @made page done name rest hstage hlocation hnone _ hdirectory =>
    -- Nothing stands there, so that nothing has been made or written there before.
    cases h with
    | kept hsame =>
      subst hstage hlocation
      refine .made hjob ⟨rest, ?_⟩ (hsame ▸ hnone) hdirectory
      rw [← hsound.of_making.1, List.append_assoc, List.singleton_append]
    | made _ _ _ hmade => rw [hnone] at hmade; cases hmade
    | wrote _ _ _ hwrote => rw [hnone] at hwrote; cases hwrote
  | wrote _ hlocation hfree hfile =>
    cases h with
    | kept hsame => exact .wrote hjob hlocation (hsame ▸ hfree) hfile
    | made _ _ _ hmade => exact absurd hmade hfree
    | wrote hother hpage hstart _ => exact .wrote hother hpage hstart hfile

/-- **Every location in every state that jobs may reach.** -/
theorem Reached.touched {state : BuildState} (h : Reached renderer options jobs start state)
    (hsensible : Sensible start jobs) (location : Location) :
    Touched jobs start state.tree location := by
  induction h with
  | start => exact .kept rfl
  | @step state job hreached hjob ih =>
    have hsound := (hreached.isSound hsensible).sound job hjob
    have hstep := job.step_advance renderer options (state.stage job) state.tree
    exact ih.step hjob hsound (hstep.change location)

end Steps

/-! ### A build -/

/-- A tree that differs from an earlier one by the pages of its sources and the directories that
they need. -/
structure PagesOnly (input output : Directory) (start final : FileTree) : Prop where
  /-- Every source has the bytes that it had. -/
  sources : ∀ source ∈ start.sources input,
    final.find? source.location = start.find? source.location
  /-- No file is deleted. -/
  files : ∀ location, start.isFile location = true → final.isFile location = true
  /-- No directory is deleted. -/
  directories : ∀ location, start.isDirectory location = true → final.isDirectory location = true
  /-- A file that is new or has other bytes is the page of a source. -/
  changed : ∀ location bytes, final.find? location = some (.file bytes) →
    start.find? location = some (.file bytes) ∨
      ∃ source ∈ start.sources input, location = (pagePlace output source).location
  /-- A new directory leads to the page of a source. -/
  made : ∀ location, final.isDirectory location = true →
    start.isDirectory location = true ∨
      ∃ source ∈ start.sources input, location <+: (pagePlace output source).location.dropLast
  /-- What may be read and written is as it was. -/
  access : final.refuses = start.refuses ∧ final.room = start.room

section Build

variable {input output : Directory} {tree : FileTree}

/-- The job of a plan has the page of a source. -/
theorem exists_source_of_mem_plan {sources : List Place} {job : Job}
    (h : job ∈ (plan output sources).1) :
    ∃ source ∈ sources, job.page.location = (pagePlace output source).location :=
  ⟨job.source, (sublist_plan output sources).subset (List.mem_map_of_mem h),
    congrArg Place.location (page_of_mem_plan h)⟩

/-- **Jobs of a plan change nothing but pages**, at any time. -/
theorem Reached.pagesOnly {state : BuildState}
    (h : Reached renderer options (plan output (tree.sources input)).1 tree state) :
    PagesOnly input output tree state.tree := by
  have hsensible := sensible_plan tree input output
  have htouched := h.touched hsensible
  have hsound := h.isSound hsensible
  refine ⟨fun source hsource => ?_, fun location hfile => ?_, fun location hdirectory => ?_,
    fun location bytes hfile => ?_, fun location hdirectory => ?_,
    hsound.refuses_eq, hsound.room_eq⟩
  · obtain ⟨bytes, hbytes⟩ := FileTree.isFile_iff.1 (FileTree.mem_sources.1 hsource).2.2.2.2
    cases htouched source.location with
    | kept hkept => exact hkept
    | made _ _ hfree => rw [hbytes] at hfree; cases hfree
    | wrote hjob hlocation =>
      obtain ⟨other, -, hpage⟩ := exists_source_of_mem_plan hjob
      exact absurd (hpage.symm.trans hlocation.symm) (location_pagePlace_ne hsource)
  · obtain ⟨bytes, hbytes⟩ := FileTree.isFile_iff.1 hfile
    rw [FileTree.isFile_iff]
    cases htouched location with
    | kept hkept => exact ⟨bytes, hkept.trans hbytes⟩
    | made _ _ hfree => rw [hbytes] at hfree; cases hfree
    | @wrote _ page _ _ _ hwrote => exact ⟨page, hwrote⟩
  · rw [FileTree.isDirectory_iff] at hdirectory ⊢
    cases htouched location with
    | kept hkept => exact hkept.trans hdirectory
    | made _ _ _ hmade => exact hmade
    | wrote _ _ hfree => exact absurd hdirectory hfree
  · cases htouched location with
    | kept hkept => exact .inl (hkept ▸ hfile)
    | made _ _ _ hmade => rw [hfile] at hmade; cases hmade
    | wrote hjob hlocation =>
      obtain ⟨source, hsource, hpage⟩ := exists_source_of_mem_plan hjob
      exact .inr ⟨source, hsource, hlocation.trans hpage⟩
  · rw [FileTree.isDirectory_iff] at hdirectory ⊢
    cases htouched location with
    | kept hkept => exact .inl (hkept ▸ hdirectory)
    | made hjob hway =>
      obtain ⟨source, hsource, hpage⟩ := exists_source_of_mem_plan hjob
      exact .inr ⟨source, hsource, hpage ▸ hway⟩
    | wrote _ _ _ hwrote => rw [hdirectory] at hwrote; cases hwrote

theorem BuildsTo.pagesOnly {report : BuildReport} {final : FileTree}
    (h : BuildsTo renderer options input output tree report final) :
    PagesOnly input output tree final := by
  obtain ⟨-, state, hreached, -, -, rfl⟩ := h
  exact hreached.pagesOnly

theorem pagesOnly_build (h : tree.isDirectory input.location = true) :
    PagesOnly input output tree (build renderer options input output tree).2 := by
  obtain ⟨report, hreport⟩ : ∃ report, build renderer options input output tree =
      (.ok report, (build renderer options input output tree).2) := by
    rw [build, if_pos h]
    exact ⟨_, rfl⟩
  exact (buildsTo_of_build hreport).pagesOnly

theorem build_of_not_directory (h : tree.isDirectory input.location = false) :
    build renderer options input output tree = (.error (.notADirectory input.path), tree) := by
  rw [build, h]
  rfl

end Build

/-- **A build changes nothing but its pages.** At any time of the build, in whatever order its jobs
take their steps and whatever fails, and at its end, sources have the bytes that they had, other
files change or appear only where the page of a source belongs, nothing is deleted, and new
directories lead to such places. Input and output may be any two directories. Where the input is no
directory, or is not found, the tree stays as it is. -/
theorem build_frame (renderer : Renderer) (options : BuildOptions η) (tree : FileTree) :
    (∀ input output state,
      Reached renderer options (plan output (tree.sources input)).1 tree state →
        PagesOnly input output tree state.tree) ∧
    (∀ input output report final, BuildsTo renderer options input output tree report final →
      PagesOnly input output tree final) ∧
    (∀ input output, tree.isDirectory input.location = true →
      PagesOnly input output tree (build renderer options input output tree).2) ∧
    (∀ input output, tree.isDirectory input.location = false →
      (build renderer options input output tree).2 = tree) ∧
    ∀ input output, (∀ location, tree.locate input = .ok location →
        tree.isDirectory location = false) →
      (buildPaths renderer options input output tree).2 = tree := by
  refine ⟨fun input output state h => h.pagesOnly, fun input output report final h => h.pagesOnly,
    fun input output h => pagesOnly_build h, fun input output h => ?_, fun input output h => ?_⟩
  · rw [build_of_not_directory h]
  · rw [buildPaths]
    cases hlocate : tree.locate input with
    | error e => rfl
    | ok location =>
      have hinput : tree.isDirectory (Directory.mk input location).location = false :=
        h location hlocate
      simp only [build_of_not_directory hinput]

/-- Pages are written among their sources; a source is no directory to build from. -/
theorem build_frame_inPlace :
    let docs : Directory := ⟨"in", ["in"]⟩
    let job : Job := ⟨⟨docs, ["a.json"]⟩, ⟨docs, ["a.html"]⟩⟩
    let built := buildInOrder {} ({} : BuildOptions Unit) docs docs [job] namesakes
    built.1.written = [job.page] ∧
      (BuildsTo {} ({} : BuildOptions Unit) docs docs namesakes built.1 built.2 ∧
        PagesOnly docs docs namesakes built.2) ∧
      (∃ state, Reached {} ({} : BuildOptions Unit) (plan docs (namesakes.sources docs)).1 namesakes
        state ∧ state.tree = built.2 ∧ PagesOnly docs docs namesakes state.tree) ∧
      (namesakes.isDirectory docs.location = true ∧
        PagesOnly docs docs namesakes
          (build {} ({} : BuildOptions Unit) docs docs namesakes).2) ∧
      (namesakes.isDirectory ["in", "a.md"] = false ∧
        (build {} ({} : BuildOptions Unit) ⟨"in/a.md", ["in", "a.md"]⟩ docs namesakes).2 =
          namesakes) ∧
      namesakes.locate "in/a.md" = .ok ["in", "a.md"] ∧
        (buildPaths {} ({} : BuildOptions Unit) "in/a.md" "in" namesakes).2 = namesakes := by
  intro docs job built
  obtain ⟨hreached, hbuilds, hpages, hnothing, hpaths⟩ :=
    build_frame {} ({} : BuildOptions Unit) namesakes
  have hplan : plan docs (namesakes.sources docs) =
      ([job], [(⟨docs, ["a.md"]⟩, .alreadyBuilt "in/a.html" "in/a.json")]) := by
    rw [sources_namesakes]
    decide +kernel
  have hbuilt : BuildsTo {} ({} : BuildOptions Unit) docs docs namesakes built.1 built.2 :=
    buildsTo_buildInOrder rfl (by rw [hplan])
  have hwritten : built.1.written = [job.page] := by
    simp only [built, buildInOrder, hplan]
    decide +kernel
  have hlocate : namesakes.locate "in/a.md" = .ok ["in", "a.md"] := by decide +kernel
  obtain ⟨state, hstate, -, -, hfinal⟩ := hbuilt.ends
  refine ⟨hwritten, ⟨hbuilt, hbuilds docs docs _ _ hbuilt⟩,
    ⟨state, hstate, hfinal.symm, hreached docs docs state hstate⟩,
    ⟨rfl, hpages docs docs rfl⟩, ⟨rfl, hnothing ⟨"in/a.md", ["in", "a.md"]⟩ docs rfl⟩, hlocate,
    hpaths "in/a.md" "in" fun location hlocation => ?_⟩
  rw [hlocate] at hlocation
  cases hlocation
  rfl

end Folio
