import Folio.Proofs.BuildAccounts

/-!
# The sources that pages are made from

Pages are claimed before any source is read. So the source that decides about a page is the first
one with this page, its owner, whether or not it can be read: the page is written exactly when its
owner can be read, provided that pages can be written at all. Any other source with this page is
skipped for it, and is reported as one whose page exists, even where the owner could not be read and
there is no page. Every source that can be read has its page written if and only if no owner that
cannot be read stands before a source that can.

## Main definitions

* `Folio.FileTree.Readable`: a source that can be read as text.
* `Folio.pageOwner?`: the first source with a page.
* `Folio.BuildReport.WritesSucceed`: no page was left out because it could not be written.

## Main results

* `Folio.mem_plan_of_pageOwner?`: the owner of a page has a job.
* `Folio.BuildsTo.outcome`: what becomes of a job.
* `Folio.BuildsTo.mem_written_iff`: a page is written when its owner can be read.
* `Folio.owners_decide`: which pages a build writes and which sources it reports as duplicates.
-/

namespace Folio

variable {η : Type} {renderer : Renderer} {options : BuildOptions η}

/-- The source can be read as text. -/
def FileTree.Readable (tree : FileTree) (source : Place) : Prop :=
  ∃ text, tree.readText source.location = .ok text

/-- The first source with a page. -/
def pageOwner? (output : Directory) (sources : List Place) (page : Place) : Option Place :=
  sources.find? (pagePlace output · == page)

/-- No page was left out because it could not be written. -/
def BuildReport.WritesSucceed (report : BuildReport) : Prop :=
  ∀ source page e, (source, .writeFailed page e) ∉ report.skipped

/-! ### Owners have jobs -/

section Owners

variable {output : Directory} {sources : List Place} {source owner page : Place}

theorem exists_pageOwner? (output : Directory) (h : source ∈ sources) :
    ∃ owner, pageOwner? output sources (pagePlace output source) = some owner :=
  Option.isSome_iff_exists.1 (List.find?_isSome.2 ⟨source, h, beq_self_eq_true _⟩)

theorem pagePlace_of_pageOwner? (h : pageOwner? output sources page = some owner) :
    pagePlace output owner = page :=
  eq_of_beq (List.find?_some (p := fun source => pagePlace output source == page) h)

/-- **The owner of a page has a job**: no source before it has this page. -/
theorem mem_plan_of_pageOwner? (hnodup : sources.Nodup)
    (h : pageOwner? output sources page = some owner) :
    ⟨owner, page⟩ ∈ (plan output sources).1 := by
  have hpage := pagePlace_of_pageOwner? h
  have howner : owner ∈ sources := List.mem_of_find?_eq_some h
  rcases List.mem_append.1 ((perm_plan output sources).mem_iff.2 howner) with hjob | hskipped
  · obtain ⟨⟨_, target⟩, hmem, rfl⟩ := List.mem_map.1 hjob
    obtain rfl : target = page := (page_of_mem_plan hmem).trans hpage
    exact hmem
  · -- A source that is left out stands after the owner, and the owner stands in one place only.
    obtain ⟨⟨_, e⟩, hmem, rfl⟩ := List.mem_map.1 hskipped
    obtain ⟨first, hpair, hfirst, -⟩ := of_mem_skipped_plan hmem
    rw [hpage] at hfirst
    obtain rfl : first = _ := Option.some.inj (hfirst.symm.trans h)
    exact absurd List.mem_cons_self (List.nodup_cons.1 (hpair.nodup hnodup)).1

end Owners

/-! ### What becomes of a job -/

namespace BuildsTo

variable {input output : Directory} {tree final : FileTree} {report : BuildReport} {job : Job}

/-- A build has one result for each job of the plan, and each is that of a job in a sound state. -/
theorem exists_results (h : BuildsTo renderer options input output tree report final) :
    ∃ results, report = .ofResults results (plan output (tree.sources input)).2 ∧
      (∀ job ∈ (plan output (tree.sources input)).1, ∃ result, (job, result) ∈ results) ∧
      ∀ job result, (job, result) ∈ results → job ∈ (plan output (tree.sources input)).1 ∧
        (Stage.finished result).Sound renderer options tree job final := by
  obtain ⟨-, state, hreached, hover, rfl, rfl⟩ := h
  refine ⟨_, rfl, fun job hjob => ?_, fun job result hentry => ?_⟩
  · obtain ⟨result, hresult⟩ := Option.isSome_iff_exists.1 (hover job hjob)
    exact ⟨result, BuildState.mem_results.2 ⟨hjob, Stage.result?_eq_some.1 hresult⟩⟩
  · obtain ⟨hjob, hstage⟩ := BuildState.mem_results.1 hentry
    exact ⟨hjob, hstage ▸ (hreached.isSound (sensible_plan tree input output)).sound job hjob⟩

/-- **What becomes of a job**: its source is read and its page stands in its place, or the report
says which access has failed. -/
theorem outcome (h : BuildsTo renderer options input output tree report final)
    (hjob : job ∈ (plan output (tree.sources input)).1) :
    (job.page ∈ report.written ∧ ∃ text, tree.readText job.source.location = .ok text ∧
        final.find? job.page.location = some (.file
          (buildPage renderer options (job.source.names.getLastD "") text).toUTF8)) ∨
      (∃ e, tree.readText job.source.location = .error e ∧
        (job.source, .readFailed job.source.path e) ∈ report.skipped) ∨
      ∃ e, (job.source, .writeFailed job.page.path e) ∈ report.skipped := by
  obtain ⟨results, rfl, hall, hsound⟩ := h.exists_results
  obtain ⟨result, hentry⟩ := hall job hjob
  have hfailed : ∀ e, result = .error e → (job.source, e) ∈
      (BuildReport.ofResults results (plan output (tree.sources input)).2).skipped := by
    rintro e rfl
    exact List.mem_append_right _ (mem_failures.2 ⟨job, hentry, rfl⟩)
  cases (hsound job result hentry).2 with
  | written hread hpage =>
    refine .inl ⟨?_, _, hread, hpage⟩
    rw [BuildReport.written_ofResults]
    exact List.mem_map_of_mem (mem_successes.2 hentry)
  | unread hread => exact .inr (.inl ⟨_, hread, hfailed _ rfl⟩)
  | unwritten => exact .inr (.inr ⟨_, hfailed _ rfl⟩)

/-- A page that is written is that of a job whose source was read. -/
theorem readable_of_mem_written (h : BuildsTo renderer options input output tree report final)
    (hjob : job ∈ (plan output (tree.sources input)).1) (hpage : job.page ∈ report.written) :
    tree.Readable job.source := by
  obtain ⟨results, rfl, -, hsound⟩ := h.exists_results
  rw [BuildReport.written_ofResults] at hpage
  obtain ⟨other, hother, hsame⟩ := List.mem_map.1 hpage
  obtain ⟨hmem, hfinished⟩ := hsound other _ (mem_successes.1 hother)
  obtain rfl := eq_of_mem_plan hmem hjob hsame
  cases hfinished with
  | written hread => exact ⟨_, hread⟩

/-- A source that is reported as a duplicate is one that the plan leaves out. -/
theorem mem_skipped_plan_of_alreadyBuilt
    (h : BuildsTo renderer options input output tree report final) {source : Place}
    {page first : String} (hskipped : (source, .alreadyBuilt page first) ∈ report.skipped) :
    (source, .alreadyBuilt page first) ∈ (plan output (tree.sources input)).2 := by
  obtain ⟨results, rfl, -, hsound⟩ := h.exists_results
  refine (List.mem_append.1 hskipped).resolve_right fun hfailed => ?_
  obtain ⟨job, hentry, -⟩ := mem_failures.1 hfailed
  exact ne_alreadyBuilt_of_sound (hsound job _ hentry).2 page first rfl

section Owners

variable {page owner : Place} (h : BuildsTo renderer options input output tree report final)
  (hwrites : report.WritesSucceed)
  (howner : pageOwner? output (tree.sources input) page = some owner)

include h hwrites howner

/-- The page of an owner that can be read is written from it and stands in its place. -/
theorem written_of_readText {text : String} (hread : tree.readText owner.location = .ok text) :
    page ∈ report.written ∧ final.find? page.location = some (.file
      (buildPage renderer options (owner.names.getLastD "") text).toUTF8) := by
  have hjob := mem_plan_of_pageOwner? (tree.nodup_sources input) howner
  rcases h.outcome hjob with ⟨hwritten, found, hfound, hpage⟩ | ⟨e, hunread, -⟩ | ⟨e, hfailed⟩
  · obtain rfl := Except.ok.inj (hread.symm.trans hfound)
    exact ⟨hwritten, hpage⟩
  · cases hread.symm.trans hunread
  · exact absurd hfailed (hwrites _ _ _)

/-- **A page is written when its owner can be read**, and only then, where pages can be written. -/
theorem mem_written_iff : page ∈ report.written ↔ tree.Readable owner := by
  have hjob := mem_plan_of_pageOwner? (tree.nodup_sources input) howner
  exact ⟨h.readable_of_mem_written hjob,
    fun ⟨_, hread⟩ => (h.written_of_readText hwrites howner hread).1⟩

end Owners

end BuildsTo

/-! ### Owners decide -/

/-- A report in which the owners of the pages have decided. -/
structure BuildReport.FollowsOwners (renderer : Renderer) (options : BuildOptions η)
    (input output : Directory) (tree final : FileTree) (report : BuildReport) : Prop where
  /-- The page of a source is written exactly when its owner can be read. -/
  written : ∀ source ∈ tree.sources input, ∃ owner,
    pageOwner? output (tree.sources input) (pagePlace output source) = some owner ∧
    (pagePlace output source ∈ report.written ↔ tree.Readable owner)
  /-- A page whose owner can be read stands in its place, made from the owner. -/
  content : ∀ page owner text, pageOwner? output (tree.sources input) page = some owner →
    tree.readText owner.location = .ok text → final.find? page.location = some (.file
      (buildPage renderer options (owner.names.getLastD "") text).toUTF8)
  /-- A source is reported as a duplicate of the owner of its page, which stands before it; the page
  is written exactly when the owner can be read. -/
  duplicate : ∀ source page first, (source, .alreadyBuilt page first) ∈ report.skipped →
    ∃ owner, [owner, source].Sublist (tree.sources input) ∧
      pageOwner? output (tree.sources input) (pagePlace output source) = some owner ∧
      page = (pagePlace output source).path ∧ first = owner.path ∧
      (pagePlace output source ∈ report.written ↔ tree.Readable owner)
  /-- Every source that can be read has its page written if and only if the owners of the pages of
  such sources can be read. -/
  served : (∀ source ∈ tree.sources input, tree.Readable source →
      pagePlace output source ∈ report.written) ↔
    ∀ source ∈ tree.sources input, tree.Readable source → ∀ owner,
      pageOwner? output (tree.sources input) (pagePlace output source) = some owner →
      tree.Readable owner

/-- **The owners of pages decide.** A build of a directory comes to an end, and whatever the order
in which its jobs take their steps, a page is written exactly when the first source with this page
can be read, if pages can be written at all. -/
theorem owners_decide (renderer : Renderer) (options : BuildOptions η) (input output : Directory)
    (tree : FileTree) (hdirectory : tree.isDirectory input.location = true) :
    (∃ report final, build renderer options input output tree = (.ok report, final) ∧
      BuildsTo renderer options input output tree report final) ∧
    ∀ report final, BuildsTo renderer options input output tree report final →
      report.WritesSucceed → report.FollowsOwners renderer options input output tree final := by
  constructor
  · have hbuild : ∃ report final, build renderer options input output tree = (.ok report, final) :=
      ⟨_, _, by rw [build, if_pos hdirectory]⟩
    obtain ⟨report, final, hbuild⟩ := hbuild
    exact ⟨report, final, hbuild, buildsTo_of_build hbuild⟩
  intro report final h hwrites
  refine ⟨fun source hsource => ?_, fun page owner text howner hread => ?_,
    fun source page first hskipped => ?_, ?_, ?_⟩
  · obtain ⟨owner, howner⟩ := exists_pageOwner? output hsource
    exact ⟨owner, howner, h.mem_written_iff hwrites howner⟩
  · exact (h.written_of_readText hwrites howner hread).2
  · obtain ⟨owner, hpair, howner, hsame⟩ :=
      of_mem_skipped_plan (h.mem_skipped_plan_of_alreadyBuilt hskipped)
    obtain ⟨rfl, rfl⟩ := BuildError.alreadyBuilt.inj hsame
    exact ⟨owner, hpair, howner, rfl, rfl, h.mem_written_iff hwrites howner⟩
  · intro hserved source hsource hreadable owner howner
    exact (h.mem_written_iff hwrites howner).1 (hserved source hsource hreadable)
  · intro howners source hsource hreadable
    obtain ⟨owner, howner⟩ := exists_pageOwner? output hsource
    exact (h.mem_written_iff hwrites howner).2 (howners source hsource hreadable owner howner)

/-- A directory with two sources that have one page, the first of which is no text, and with a
source that has a page of its own. -/
def lostPage : FileTree where
  entries := [(["in"], .directory), (["in", "a.json"], .file ⟨#[0xff, 0xfe, 0x00]⟩),
    (["in", "a.md"], .file "a".toUTF8), (["in", "b.json"], .file "null".toUTF8)]

theorem sources_lostPage : lostPage.sources ⟨"in", ["in"]⟩ =
    [⟨⟨"in", ["in"]⟩, ["a.json"]⟩, ⟨⟨"in", ["in"]⟩, ["a.md"]⟩, ⟨⟨"in", ["in"]⟩, ["b.json"]⟩] := by
  have hfiles : lostPage.files = [["in", "a.json"], ["in", "a.md"], ["in", "b.json"]] := by
    simp [FileTree.files, lostPage, List.eraseDups_cons, FileTree.isFile, FileTree.find?,
      List.lookup_cons]
  exact FileTree.sources_eq_map [["a.json"], ["a.md"], ["b.json"]] hfiles (by decide) (by decide)

theorem plan_lostPage : plan ⟨"out", ["out"]⟩ (lostPage.sources ⟨"in", ["in"]⟩) =
    ([⟨⟨⟨"in", ["in"]⟩, ["a.json"]⟩, ⟨⟨"out", ["out"]⟩, ["a.html"]⟩⟩,
      ⟨⟨⟨"in", ["in"]⟩, ["b.json"]⟩, ⟨⟨"out", ["out"]⟩, ["b.html"]⟩⟩],
      [(⟨⟨"in", ["in"]⟩, ["a.md"]⟩, .alreadyBuilt "out/a.html" "in/a.json")]) := by
  rw [sources_lostPage]
  decide +kernel

/-- The build of these sources whose jobs run in the order of the sources. -/
def lostPageBuild : BuildReport × FileTree :=
  buildInOrder {} ({} : BuildOptions Unit) ⟨"in", ["in"]⟩ ⟨"out", ["out"]⟩
    (plan ⟨"out", ["out"]⟩ (lostPage.sources ⟨"in", ["in"]⟩)).1 lostPage

theorem buildsTo_lostPage :
    BuildsTo {} ({} : BuildOptions Unit) ⟨"in", ["in"]⟩ ⟨"out", ["out"]⟩ lostPage lostPageBuild.1
      lostPageBuild.2 :=
  buildsTo_buildInOrder rfl (.refl _)

theorem report_lostPage :
    lostPageBuild.1.written = [⟨⟨"out", ["out"]⟩, ["b.html"]⟩] ∧
      lostPageBuild.1.skipped =
        [(⟨⟨"in", ["in"]⟩, ["a.md"]⟩, .alreadyBuilt "out/a.html" "in/a.json"),
          (⟨⟨"in", ["in"]⟩, ["a.json"]⟩, .readFailed "in/a.json" .notText)] := by
  simp only [lostPageBuild, buildInOrder, plan_lostPage]
  decide +kernel

theorem writesSucceed_lostPage : lostPageBuild.1.WritesSucceed := by
  intro source page e hfailed
  rw [report_lostPage.2, List.mem_pair, Prod.mk.injEq, Prod.mk.injEq] at hfailed
  rcases hfailed with ⟨-, h⟩ | ⟨-, h⟩ <;> cases h

theorem owners_decide_lostPage :
    lostPage.isDirectory ["in"] = true ∧
      BuildsTo {} ({} : BuildOptions Unit) ⟨"in", ["in"]⟩ ⟨"out", ["out"]⟩ lostPage
        lostPageBuild.1 lostPageBuild.2 ∧
      lostPageBuild.1.WritesSucceed ∧
      lostPageBuild.1.FollowsOwners {} ({} : BuildOptions Unit) ⟨"in", ["in"]⟩ ⟨"out", ["out"]⟩
        lostPage lostPageBuild.2 := by
  obtain ⟨-, hfollows⟩ := owners_decide {} ({} : BuildOptions Unit) ⟨"in", ["in"]⟩
    ⟨"out", ["out"]⟩ lostPage rfl
  exact ⟨rfl, buildsTo_lostPage, writesSucceed_lostPage,
    hfollows _ _ buildsTo_lostPage writesSucceed_lostPage⟩

/-- A source that can be read is skipped for an owner that cannot be read, and there is no page. -/
theorem unreadable_owner_costs_page :
    let source : Place := ⟨⟨"in", ["in"]⟩, ["a.md"]⟩
    BuildsTo {} ({} : BuildOptions Unit) ⟨"in", ["in"]⟩ ⟨"out", ["out"]⟩ lostPage lostPageBuild.1
        lostPageBuild.2 ∧
      lostPageBuild.1.WritesSucceed ∧ source ∈ lostPage.sources ⟨"in", ["in"]⟩ ∧
      lostPage.Readable source ∧
      pagePlace ⟨"out", ["out"]⟩ source ∉ lostPageBuild.1.written ∧
      (source, .alreadyBuilt "out/a.html" "in/a.json") ∈ lostPageBuild.1.skipped := by
  intro source
  have hsource : source ∈ lostPage.sources ⟨"in", ["in"]⟩ := by
    rw [sources_lostPage]
    exact List.mem_cons_of_mem _ List.mem_cons_self
  have hpage : pagePlace ⟨"out", ["out"]⟩ source ∉ lostPageBuild.1.written := by
    rw [report_lostPage.1]
    decide
  have hskipped : (source, .alreadyBuilt "out/a.html" "in/a.json") ∈ lostPageBuild.1.skipped := by
    rw [report_lostPage.2]
    exact List.mem_cons_self
  exact ⟨buildsTo_lostPage, writesSucceed_lostPage, hsource, ⟨"a", rfl⟩, hpage, hskipped⟩

end Folio
