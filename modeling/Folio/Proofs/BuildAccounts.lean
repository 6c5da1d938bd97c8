import Folio.Proofs.BuildSteps

/-!
# What a build reports

At the end of a build every source is accounted for. It is the origin of a page that was written, or
it was left out, for an earlier source with the same page or since an access failed. The pages that
were written stand in their places, each made from the first source with this page.

The jobs have ended in states that are sound, so that the result of a job says what stands at the
place of its page; the plan says which sources have no job. Jobs that run one after the other in any
order are a build, the one that makes the pages in the order of the sources among them.

## Main definitions

* `Folio.BuildReport.Accounts`: a report that accounts for all sources.

## Main results

* `Folio.buildsTo_buildInOrder`, `Folio.buildsTo_of_build`: jobs that run one after the other are a
  build.
* `Folio.accounts_of_buildsTo`: a build accounts for all sources.
-/

namespace Folio

variable {η : Type} {renderer : Renderer} {options : BuildOptions η}

/-! ### Results -/

theorem Stage.result?_eq_some {stage : Stage} {result : Except BuildError Unit} :
    stage.result? = some result ↔ stage = .finished result := by
  cases stage with
  | finished => rw [result?, Option.some.injEq, Stage.finished.injEq]
  | waiting | making => exact ⟨nofun, nofun⟩

namespace BuildState

variable {state : BuildState} {jobs : List Job}

theorem mem_results {job : Job} {result : Except BuildError Unit} :
    (job, result) ∈ state.results jobs ↔ job ∈ jobs ∧ state.stage job = .finished result := by
  rw [results, List.mem_filterMap]
  constructor
  · rintro ⟨other, hother, h⟩
    obtain ⟨found, hfound, hpair⟩ := Option.map_eq_some_iff.1 h
    obtain ⟨rfl, rfl⟩ := Prod.mk.inj hpair
    exact ⟨hother, Stage.result?_eq_some.1 hfound⟩
  · rintro ⟨hjob, hstage⟩
    exact ⟨job, hjob, by rw [hstage]; rfl⟩

theorem map_fst_results (h : ∀ job ∈ jobs, (state.stage job).result?.isSome = true) :
    (state.results jobs).map Prod.fst = jobs := by
  induction jobs with
  | nil => rfl
  | cons job rest ih =>
    rw [List.forall_mem_cons] at h
    obtain ⟨result, hresult⟩ := Option.isSome_iff_exists.1 h.1
    rw [results, List.filterMap_cons, hresult]
    exact congrArg (job :: ·) (ih h.2)

end BuildState

/-- The jobs that were successful. -/
def successes (results : List (Job × Except BuildError Unit)) : List Job :=
  results.filterMap fun (job, result) =>
    match result with
    | .ok () => some job
    | .error _ => none

/-- The sources of jobs that have failed, and why. -/
def failures (results : List (Job × Except BuildError Unit)) : List (Place × BuildError) :=
  results.filterMap fun (job, result) =>
    match result with
    | .ok () => none
    | .error e => some (job.source, e)

section Results

variable {results : List (Job × Except BuildError Unit)}

theorem sublist_successes : (successes results).Sublist (results.map Prod.fst) := by
  induction results with
  | nil => exact .slnil
  | cons entry rest ih =>
    obtain ⟨job, result⟩ := entry
    cases result with
    | ok => exact ih.cons_cons job
    | error => exact ih.cons job

theorem mem_successes {job : Job} : job ∈ successes results ↔ (job, .ok ()) ∈ results := by
  rw [successes, List.mem_filterMap]
  constructor
  · rintro ⟨⟨other, result⟩, hentry, h⟩
    cases result with
    | ok =>
      obtain rfl := Option.some.inj h
      exact hentry
    | error => cases h
  · exact fun h => ⟨_, h, rfl⟩

theorem mem_failures {source : Place} {e : BuildError} :
    (source, e) ∈ failures results ↔ ∃ job, (job, .error e) ∈ results ∧ job.source = source := by
  rw [failures, List.mem_filterMap]
  constructor
  · rintro ⟨⟨job, result⟩, hentry, h⟩
    cases result with
    | ok => cases h
    | error =>
      obtain ⟨rfl, rfl⟩ := Prod.mk.inj (Option.some.inj h)
      exact ⟨job, hentry, rfl⟩
  · rintro ⟨job, hentry, rfl⟩
    exact ⟨_, hentry, rfl⟩

/-- A job is successful or it has failed. -/
theorem perm_successes_failures :
    ((successes results).map Job.source ++ (failures results).map Prod.fst).Perm
      ((results.map Prod.fst).map Job.source) := by
  induction results with
  | nil => exact .nil
  | cons entry rest ih =>
    obtain ⟨job, result⟩ := entry
    cases result with
    | ok => exact ih.cons job.source
    | error => exact List.perm_middle.trans (ih.cons job.source)

end Results

namespace BuildReport

variable {results : List (Job × Except BuildError Unit)} {skipped : List (Place × BuildError)}

theorem skipped_ofResults : (ofResults results skipped).skipped = skipped ++ failures results := rfl

theorem written_ofResults :
    (ofResults results skipped).written = (successes results).map Job.page := by
  rw [ofResults, successes, List.map_filterMap]
  refine List.filterMap_congr fun (job, result) _ => ?_
  cases result <;> rfl

/-- A report accounts for the sources of all jobs. -/
theorem perm_ofResults :
    ((successes results).map Job.source ++ (ofResults results skipped).skipped.map Prod.fst).Perm
      ((results.map Prod.fst).map Job.source ++ skipped.map Prod.fst) := by
  rw [skipped_ofResults, List.map_append]
  exact (List.perm_append_comm_assoc _ _ _).trans
    ((perm_successes_failures.append_left _).trans List.perm_append_comm)

end BuildReport

/-! ### Jobs in any order -/

section InOrder

variable {jobs : List Job} {input output : Directory} {tree : FileTree}

theorem tree_finishAll {order : List Job} (hnodup : order.Nodup) :
    (BuildState.finishAll renderer options ⟨tree, fun _ => .waiting⟩ order).tree =
      (runJobs renderer options order tree).2 :=
  (finishAll_eq_runJobs hnodup fun _ _ => rfl).1

theorem result?_finishAll {order : List Job} (hnodup : order.Nodup) (job : Job) :
    ((BuildState.finishAll renderer options ⟨tree, fun _ => .waiting⟩ order).stage job).result? =
      (runJobs renderer options order tree).1.lookup job := by
  rw [(finishAll_eq_runJobs hnodup fun _ _ => rfl).2 job]
  cases (runJobs renderer options order tree).1.lookup job <;> rfl

/-- **Jobs that run one after the other, in any order, are a build.** -/
theorem buildsTo_buildInOrder (hdirectory : tree.isDirectory input.location = true)
    {order : List Job} (hperm : order.Perm (plan output (tree.sources input)).1) :
    BuildsTo renderer options input output tree
      (buildInOrder renderer options input output order tree).1
      (buildInOrder renderer options input output order tree).2 := by
  have hnodup := hperm.nodup_iff.2 (sensible_plan tree input output).nodup
  refine ⟨hdirectory, _, Reached.start.finishAll hperm.subset, fun job hjob => ?_, ?_,
    (tree_finishAll hnodup).symm⟩
  · rw [result?_finishAll hnodup, Option.isSome_iff_ne_none, ne_eq, List.lookup_eq_none_iff]
    intro hnone
    rw [← hperm.mem_iff, ← map_fst_runJobs renderer options order tree] at hjob
    obtain ⟨entry, hentry, rfl⟩ := List.mem_map.1 hjob
    exact bne_iff_ne.1 (hnone entry hentry) rfl
  · rw [BuildState.results, List.filterMap_congr fun job _ =>
      congrArg (Option.map _) (result?_finishAll hnodup job)]
    rfl

/-- Keys that stand once find their own values. -/
theorem filterMap_lookup {results : List (Job × Except BuildError Unit)} {keys : List Job}
    (hkeys : results.map Prod.fst = keys) (hnodup : keys.Nodup) :
    (keys.filterMap fun job => (results.lookup job).map fun result => (job, result)) = results := by
  subst hkeys
  induction results with
  | nil => rfl
  | cons entry rest ih =>
    obtain ⟨job, result⟩ := entry
    rw [List.map_cons, List.nodup_cons] at hnodup
    rw [List.map_cons, List.filterMap_cons, List.lookup_cons_self]
    refine congrArg ((job, result) :: ·) (.trans ?_ (ih hnodup.2))
    refine List.filterMap_congr fun other hother => ?_
    have hne : other ≠ job := fun hsame => hnodup.1 (hsame ▸ hother)
    rw [List.lookup_cons, beq_false_of_ne hne]

/-- The build that makes the pages in the order of their sources. -/
theorem buildsTo_of_build {report : BuildReport} {final : FileTree}
    (h : build renderer options input output tree = (.ok report, final)) :
    BuildsTo renderer options input output tree report final := by
  rw [build] at h
  split at h
  case isTrue hdirectory =>
    obtain ⟨hreport, rfl⟩ := Prod.mk.inj h
    obtain rfl := Except.ok.inj hreport
    have hresults := filterMap_lookup
      (map_fst_runJobs renderer options (plan output (tree.sources input)).1 tree)
      (sensible_plan tree input output).nodup
    have hbuild : BuildsTo renderer options input output tree
        (buildInOrder renderer options input output (plan output (tree.sources input)).1 tree).1
        (buildInOrder renderer options input output (plan output (tree.sources input)).1 tree).2 :=
      buildsTo_buildInOrder hdirectory (.refl _)
    rw [buildInOrder] at hbuild
    simp only [hresults] at hbuild
    exact hbuild
  case isFalse => cases h

end InOrder

/-! ### All sources are accounted for -/

/-- A report that accounts for all sources of a build. -/
structure BuildReport.Accounts (renderer : Renderer) (options : BuildOptions η)
    (input output : Directory) (tree final : FileTree) (report : BuildReport) : Prop where
  /-- The sources stand in the order of their names. -/
  sorted : (tree.sources input).Pairwise fun source later =>
    namesInOrder source.names later.names = true
  /-- No source stands twice. -/
  nodup : (tree.sources input).Nodup
  /-- Every source is the origin of one page that was written or is skipped once, and the pages
  follow the order of their origins. -/
  origins : ∃ origins : List Place, origins.Sublist (tree.sources input) ∧
    report.written = origins.map (pagePlace output) ∧
    (origins ++ report.skipped.map Prod.fst).Perm (tree.sources input)
  /-- No two pages that were written have the same path. -/
  unique : (report.written.map Place.location).Nodup
  /-- A source is skipped as a duplicate when one before it has the same directory and stem. -/
  duplicate : ∀ source, (∃ page first, (source, .alreadyBuilt page first) ∈ report.skipped) ↔
    ∃ earlier, [earlier, source].Sublist (tree.sources input) ∧ earlier.SharesStem source
  /-- Every page that was written stands in its place, made from the first source with this page. -/
  content : ∀ page ∈ report.written, ∃ source text,
    (tree.sources input).find? (pagePlace output · == page) = some source ∧
    tree.readText source.location = .ok text ∧
    final.find? page.location = some (.file
      (buildPage renderer options (source.names.getLastD "") text).toUTF8)

section Planned

variable {output : Directory} {sources : List Place}
  {results : List (Job × Except BuildError Unit)}
  (hkeys : results.map Prod.fst = (plan output sources).1)

include hkeys

theorem mem_plan_of_mem_results {entry : Job × Except BuildError Unit} (h : entry ∈ results) :
    entry.1 ∈ (plan output sources).1 :=
  hkeys ▸ List.mem_map_of_mem h

theorem exists_origins : ∃ origins : List Place, origins.Sublist sources ∧
    (BuildReport.ofResults results (plan output sources).2).written =
      origins.map (pagePlace output) ∧
    (origins ++ (BuildReport.ofResults results (plan output sources).2).skipped.map Prod.fst).Perm
      sources := by
  refine ⟨(successes results).map Job.source, ?_, ?_, ?_⟩
  · exact ((hkeys ▸ sublist_successes).map Job.source).trans (sublist_plan output sources)
  · rw [BuildReport.written_ofResults, List.map_map]
    exact List.map_congr_left fun job hjob =>
      page_of_mem_plan (mem_plan_of_mem_results hkeys (mem_successes.1 hjob))
  · exact BuildReport.perm_ofResults.trans (hkeys ▸ perm_plan output sources)

theorem nodup_written {tree : FileTree} (hsensible : Sensible tree (plan output sources).1) :
    ((BuildReport.ofResults results (plan output sources).2).written.map Place.location).Nodup := by
  have hsublist : (successes results).Sublist (plan output sources).1 := hkeys ▸ sublist_successes
  rw [BuildReport.written_ofResults, List.map_map]
  exact (hsublist.nodup hsensible.nodup).map_on fun job hjob other hother =>
    hsensible.unique job (hsublist.subset hjob) other (hsublist.subset hother)

end Planned

/-- Where no job fails as a duplicate, the plan says which sources are duplicates. -/
theorem exists_alreadyBuilt_iff {output : Directory} {sources : List Place}
    {results : List (Job × Except BuildError Unit)} (hnodup : sources.Nodup)
    (hfailed : ∀ job e, (job, .error e) ∈ results → ∀ page first, e ≠ .alreadyBuilt page first)
    (source : Place) :
    (∃ page first, (source, .alreadyBuilt page first) ∈
        (BuildReport.ofResults results (plan output sources).2).skipped) ↔
      ∃ earlier, [earlier, source].Sublist sources ∧ earlier.SharesStem source := by
  rw [← mem_skipped_plan output hnodup, BuildReport.skipped_ofResults]
  constructor
  · rintro ⟨page, first, h⟩
    obtain h | h := List.mem_append.1 h
    · exact List.mem_map_of_mem h
    · obtain ⟨job, hjob, -⟩ := mem_failures.1 h
      exact (hfailed job _ hjob page first rfl).elim
  · intro h
    obtain ⟨⟨source, e⟩, hskipped, rfl⟩ := List.mem_map.1 h
    obtain ⟨first, -, -, rfl⟩ := of_mem_skipped_plan hskipped
    exact ⟨_, _, List.mem_append_left _ hskipped⟩

/-- A job that is sound does not fail as a duplicate. -/
theorem ne_alreadyBuilt_of_sound {start tree : FileTree} {job : Job} {e : BuildError}
    (h : Stage.Sound renderer options start job tree (.finished (.error e))) (page first : String) :
    e ≠ .alreadyBuilt page first := by
  cases h with
  | unread | unwritten => exact nofun

/-- **A build accounts for all sources.** -/
theorem accounts_of_buildsTo {input output : Directory} {tree final : FileTree}
    {report : BuildReport} (h : BuildsTo renderer options input output tree report final) :
    report.Accounts renderer options input output tree final := by
  obtain ⟨-, state, hreached, hover, rfl, rfl⟩ := h
  have hsensible := sensible_plan tree input output
  have hkeys := BuildState.map_fst_results hover
  have hsound : ∀ job result, (job, result) ∈ state.results (plan output (tree.sources input)).1 →
      (Stage.finished result).Sound renderer options tree job state.tree := by
    intro job result h
    obtain ⟨hjob, hstage⟩ := BuildState.mem_results.1 h
    exact hstage ▸ (hreached.isSound hsensible).sound job hjob
  refine ⟨tree.sorted_sources input, tree.nodup_sources input, exists_origins hkeys,
    nodup_written hkeys hsensible, exists_alreadyBuilt_iff (tree.nodup_sources input)
      fun job e h => ne_alreadyBuilt_of_sound (hsound job _ h), ?_⟩
  intro page hpage
  rw [BuildReport.written_ofResults] at hpage
  obtain ⟨job, hjob, rfl⟩ := List.mem_map.1 hpage
  have hentry := mem_successes.1 hjob
  have hfirst := find?_of_mem_plan (mem_plan_of_mem_results hkeys hentry)
  cases hsound job _ hentry with
  | written hread hcontent => exact ⟨job.source, _, hfirst, hread, hcontent⟩

/-- A directory with two sources that have one page. -/
def namesakes : FileTree where
  entries := [(["in"], .directory), (["in", "a.json"], .file "null".toUTF8),
    (["in", "a.md"], .file "a".toUTF8)]

theorem sources_namesakes : namesakes.sources ⟨"in", ["in"]⟩ =
    [⟨⟨"in", ["in"]⟩, ["a.json"]⟩, ⟨⟨"in", ["in"]⟩, ["a.md"]⟩] := by
  have hfiles : namesakes.files = [["in", "a.json"], ["in", "a.md"]] := by
    simp [FileTree.files, namesakes, List.eraseDups_cons, FileTree.isFile, FileTree.find?,
      List.lookup_cons]
  exact FileTree.sources_eq_map [["a.json"], ["a.md"]] hfiles (by decide) (by decide)

theorem plan_namesakes : plan ⟨"out", ["out"]⟩ (namesakes.sources ⟨"in", ["in"]⟩) =
    ([⟨⟨⟨"in", ["in"]⟩, ["a.json"]⟩, ⟨⟨"out", ["out"]⟩, ["a.html"]⟩⟩],
      [(⟨⟨"in", ["in"]⟩, ["a.md"]⟩, .alreadyBuilt "out/a.html" "in/a.json")]) := by
  rw [sources_namesakes]
  decide +kernel

theorem accounts_namesakes :
    let job : Job := ⟨⟨⟨"in", ["in"]⟩, ["a.json"]⟩, ⟨⟨"out", ["out"]⟩, ["a.html"]⟩⟩
    let built := buildInOrder {} ({} : BuildOptions Unit) ⟨"in", ["in"]⟩ ⟨"out", ["out"]⟩ [job]
      namesakes
    built.1.written = [job.page] ∧
      built.1.skipped = [(⟨⟨"in", ["in"]⟩, ["a.md"]⟩, .alreadyBuilt "out/a.html" "in/a.json")] ∧
      BuildsTo {} ({} : BuildOptions Unit) ⟨"in", ["in"]⟩ ⟨"out", ["out"]⟩ namesakes built.1
        built.2 ∧
      built.1.Accounts {} ({} : BuildOptions Unit) ⟨"in", ["in"]⟩ ⟨"out", ["out"]⟩ namesakes
        built.2 := by
  intro job built
  have hbuilds : BuildsTo {} ({} : BuildOptions Unit) ⟨"in", ["in"]⟩ ⟨"out", ["out"]⟩ namesakes
      built.1 built.2 :=
    buildsTo_buildInOrder rfl (by rw [plan_namesakes])
  have hreport : built.1.written = [job.page] ∧ built.1.skipped =
      [(⟨⟨"in", ["in"]⟩, ["a.md"]⟩, .alreadyBuilt "out/a.html" "in/a.json")] := by
    simp only [built, buildInOrder, plan_namesakes]
    decide +kernel
  exact ⟨hreport.1, hreport.2, hbuilds, accounts_of_buildsTo hbuilds⟩

end Folio
