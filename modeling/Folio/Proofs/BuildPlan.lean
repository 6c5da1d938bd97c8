import Folio.Build.Parallel
import Mathlib.Data.List.Nodup

/-!
# The plan of a build

The sources below a directory stand in the plan in the order of their names, each once. Walking
through them, the plan gives a job to every source whose page is new and leaves out the others, so
that it deals with each source once, its jobs have pages of their own, and the job of a page is that
of the first source with this page. Two sources have the same page exactly when they lie in the same
directory and have the same stem. No page stands where a source stands, since a page has an
extension that no source has.

## Main definitions

* `Folio.Place.SharesStem`: two places in one directory with the same stem.
* `Folio.Sensible`: jobs that have pages of their own and leave each other's sources alone.

## Main results

* `Folio.FileTree.mem_sources`: which places are sources.
* `Folio.FileTree.sorted_sources`, `Folio.FileTree.nodup_sources`: the sources are sorted and
  distinct.
* `Folio.perm_plan`: every source has a job or is left out.
* `Folio.find?_of_mem_plan`: a job has the first source with its page.
* `Folio.mem_skipped_plan`: which sources are left out.
* `Folio.sensible_plan`: the jobs of a plan are sensible.
-/

namespace Folio

/-! ### The order of the sources -/

theorem namesInOrder_trans : ∀ as bs cs : List String, namesInOrder as bs = true →
    namesInOrder bs cs = true → namesInOrder as cs = true
  | [], _, _, _, _ => rfl
  | _ :: _, [], _, hab, _ => by cases hab
  | _ :: _, _ :: _, [], _, hbc => by cases hbc
  | a :: as, b :: bs, c :: cs, hab, hbc => by
    rw [namesInOrder] at hab hbc ⊢
    by_cases hsame : a = b
    · subst hsame
      rw [if_pos rfl] at hab
      by_cases hac : a = c
      · rw [if_pos hac] at hbc ⊢
        exact namesInOrder_trans as bs cs hab hbc
      · rw [if_neg hac] at hbc ⊢
        exact hbc
    · rw [if_neg hsame, decide_eq_true_iff] at hab
      by_cases hbc' : b = c
      · subst hbc'
        rw [if_neg hsame]
        exact decide_eq_true hab
      · rw [if_neg hbc', decide_eq_true_iff] at hbc
        have hac := String.lt_trans hab hbc
        rw [if_neg fun heq : a = c => String.lt_irrefl c (heq ▸ hac)]
        exact decide_eq_true hac

theorem namesInOrder_total : ∀ as bs : List String,
    (namesInOrder as bs || namesInOrder bs as) = true
  | [], _ => by rw [namesInOrder, Bool.true_or]
  | _ :: _, [] => by rw [namesInOrder, namesInOrder, Bool.or_true]
  | a :: as, b :: bs => by
    rw [namesInOrder, namesInOrder]
    by_cases hsame : a = b
    · rw [if_pos hsame, if_pos hsame.symm]
      exact namesInOrder_total as bs
    · rw [if_neg hsame, if_neg (Ne.symm hsame), Bool.or_eq_true, decide_eq_true_iff,
        decide_eq_true_iff]
      refine Decidable.byContradiction fun hneither => hsame ?_
      rw [not_or, String.not_lt, String.not_lt] at hneither
      exact String.le_antisymm hneither.2 hneither.1

theorem nodup_eraseDups {α : Type} [BEq α] [LawfulBEq α] (l : List α) : l.eraseDups.Nodup := by
  match l with
  | [] => exact List.nodup_nil
  | a :: as =>
    rw [List.eraseDups_cons, List.nodup_cons]
    refine ⟨fun hmem => ?_, nodup_eraseDups (as.filter fun b => !b == a)⟩
    have hother := (List.mem_filter.1 (List.mem_eraseDups.1 hmem)).2
    rw [beq_self_eq_true] at hother
    cases hother
termination_by l.length
decreasing_by exact Nat.lt_succ_of_le (List.length_filter_le _ as)

theorem eq_append_of_namesBelow? {root location : Location} {names : List String}
    (h : namesBelow? root location = some names) : location = root ++ names ∧ names ≠ [] := by
  rw [namesBelow?] at h
  split at h
  case isTrue hbelow =>
    rw [Bool.and_eq_true, List.isPrefixOf_iff_prefix, decide_eq_true_iff] at hbelow
    obtain ⟨⟨rest, rfl⟩, hlength⟩ := hbelow
    rw [List.drop_left, Option.some.injEq] at h
    subst h
    refine ⟨rfl, fun hempty => ?_⟩
    rw [hempty, List.append_nil] at hlength
    exact Nat.lt_irrefl _ hlength
  case isFalse => cases h

theorem namesBelow?_append (root : Location) {names : List String} (h : names ≠ []) :
    namesBelow? root (root ++ names) = some names := by
  have hlength : root.length < (root ++ names).length := by
    rw [List.length_append]
    exact Nat.lt_add_of_pos_right (List.length_pos_of_ne_nil h)
  rw [namesBelow?, List.isPrefixOf_iff_prefix.2 (List.prefix_append root names),
    decide_eq_true hlength, Bool.and_self, if_pos rfl, List.drop_left]

namespace FileTree

variable (tree : FileTree) (input : Directory)

/-- The sources stand in the order of their names. -/
theorem sorted_sources : (tree.sources input).Pairwise fun source later =>
    namesInOrder source.names later.names = true := by
  rw [sources, List.pairwise_map]
  exact List.pairwise_mergeSort namesInOrder_trans namesInOrder_total _

/-- No source stands twice among them. -/
theorem nodup_sources : (tree.sources input).Nodup := by
  have hfiles : tree.files.Nodup := (nodup_eraseDups _).filter _
  have hnames : (tree.files.filterMap (namesBelow? input.location)).Nodup := by
    refine hfiles.filterMap fun location other names hlocation hother => ?_
    rw [(eq_append_of_namesBelow? hlocation).1, (eq_append_of_namesBelow? hother).1]
  rw [sources]
  refine List.Nodup.map (fun names other heq => congrArg Place.names heq) ?_
  exact (List.mergeSort_perm _ _).nodup_iff.2 (hnames.filter _)

variable {tree input} {source : Place}

/-- Sources that are found in their order stand in the order in which they are found. -/
theorem sources_eq_map (found : List (List String)) {files : List Location}
    (hfiles : tree.files = files)
    (hfound : ((files.filterMap (namesBelow? input.location)).filter fun names =>
      isSourceName (names.getLastD "") && tree.uncovers input.location names) = found)
    (hsorted : found.Pairwise fun names later => namesInOrder names later = true) :
    tree.sources input = found.map (Place.mk input) := by
  rw [sources, hfiles, hfound, List.mergeSort_of_pairwise hsorted]

theorem mem_files {location : Location} :
    location ∈ tree.files ↔ tree.isFile location = true := by
  rw [files, List.mem_filter, List.mem_eraseDups, and_iff_right_iff_imp, isFile, find?]
  intro h
  by_cases hroot : location.isEmpty
  · rw [if_pos hroot] at h
    cases h
  · rw [if_neg hroot] at h
    cases hentry : tree.entries.lookup location with
    | none =>
      rw [hentry] at h
      cases h
    | some entry =>
      obtain ⟨before, after, hentries, -⟩ := List.lookup_eq_some_iff.1 hentry
      rw [hentries]
      exact List.mem_map_of_mem (List.mem_append_right before List.mem_cons_self)

/-- **The sources are the files below the directory that are found and have the name of one.** -/
theorem mem_sources :
    source ∈ tree.sources input ↔
      source.root = input ∧ source.names ≠ [] ∧
        isSourceName (source.names.getLastD "") = true ∧
        tree.uncovers input.location source.names = true ∧
        tree.isFile source.location = true := by
  simp only [sources, List.mem_map, List.mem_mergeSort, List.mem_filter, List.mem_filterMap,
    mem_files, Bool.and_eq_true]
  constructor
  · rintro ⟨names, ⟨⟨location, hfile, hbelow⟩, hname, hfound⟩, rfl⟩
    obtain ⟨rfl, hne⟩ := eq_append_of_namesBelow? hbelow
    exact ⟨rfl, hne, hname, hfound, hfile⟩
  · rintro ⟨rfl, hne, hname, hfound, hfile⟩
    exact ⟨source.names, ⟨⟨source.location, hfile, namesBelow?_append source.root.location hne⟩,
      hname, hfound⟩, rfl⟩

end FileTree

/-! ### Pages -/

/-- Two places in the same directory whose names have the same stem. -/
def Place.SharesStem (place other : Place) : Prop :=
  place.names.dropLast = other.names.dropLast ∧
    stem (place.names.getLastD "") = stem (other.names.getLastD "")

/-- **Sources have the same page when they share their directory and their stem.** -/
theorem pagePlace_eq_iff {output : Directory} {source other : Place} :
    pagePlace output source = pagePlace output other ↔ source.SharesStem other := by
  constructor
  · intro h
    rw [pagePlace, pagePlace, Place.mk.injEq] at h
    obtain ⟨hdirectory, hlast⟩ := List.append_singleton_inj.1 h.2
    exact ⟨hdirectory, (String.append_left_inj _).1 hlast⟩
  · rintro ⟨hdirectory, hstem⟩
    rw [pagePlace, pagePlace, hdirectory, hstem]

/-- A name with the extension of a page is no name of a source. -/
theorem not_isSourceName_page (name : String) : isSourceName (name ++ ".html") = false := by
  have htail : (((name ++ ".html").toList).reverse.takeWhile (· != '.')).reverse =
      "html".toList := by
    rw [String.toList_append, List.reverse_append]
    rfl
  rw [isSourceName, extension?, splitName, htail]
  split
  case h_1 found hfound =>
    split at hfound
    · cases hfound
    · rw [← Option.some.inj hfound]
      decide
  case h_2 => rfl

theorem getLastD_location_pagePlace (output : Directory) (source : Place) :
    (pagePlace output source).location.getLastD "" =
      stem (source.names.getLastD "") ++ ".html" := by
  rw [Place.location, pagePlace, ← List.append_assoc, List.getLastD_concat]

/-- No page stands where a source stands. -/
theorem location_pagePlace_ne {tree : FileTree} {input output : Directory} {source other : Place}
    (h : other ∈ tree.sources input) :
    (pagePlace output source).location ≠ other.location := by
  intro heq
  obtain ⟨-, hne, hname, -⟩ := FileTree.mem_sources.1 h
  obtain ⟨names, last, hnames⟩ := (List.eq_nil_or_concat other.names).resolve_left hne
  have hlast : stem (source.names.getLastD "") ++ ".html" = last := by
    rw [← getLastD_location_pagePlace output, heq, Place.location, hnames, List.concat_eq_append,
      ← List.append_assoc, List.getLastD_concat]
  rw [hnames, List.concat_eq_append, List.getLastD_concat, ← hlast, not_isSourceName_page] at hname
  cases hname

/-! ### Jobs and sources left out -/

/-- The job that a source gets if its page is new. -/
def Place.job (output : Directory) (source : Place) : Job := ⟨source, pagePlace output source⟩

variable {output : Directory}

theorem planFrom_cons_of_find?_eq_some {claimed : List Job} {source : Place} {first : Job}
    (h : claimed.find? (fun job => job.page == pagePlace output source) = some first)
    (rest : List Place) :
    planFrom output claimed (source :: rest) =
      ((planFrom output claimed rest).1,
        (source, .alreadyBuilt (pagePlace output source).path first.source.path) ::
          (planFrom output claimed rest).2) := by
  rw [planFrom]
  simp only [h]

theorem planFrom_cons_of_find?_eq_none {claimed : List Job} {source : Place}
    (h : claimed.find? (fun job => job.page == pagePlace output source) = none)
    (rest : List Place) :
    planFrom output claimed (source :: rest) =
      (source.job output :: (planFrom output (claimed ++ [source.job output]) rest).1,
        (planFrom output (claimed ++ [source.job output]) rest).2) := by
  rw [planFrom]
  simp only [h]
  rfl

theorem perm_planFrom (claimed : List Job) (sources : List Place) :
    ((planFrom output claimed sources).1.map Job.source ++
      (planFrom output claimed sources).2.map Prod.fst).Perm sources := by
  induction sources generalizing claimed with
  | nil => exact .nil
  | cons source rest ih =>
    cases hfirst : claimed.find? fun job => job.page == pagePlace output source with
    | some first =>
      rw [planFrom_cons_of_find?_eq_some hfirst]
      exact List.perm_middle.trans ((ih claimed).cons source)
    | none =>
      rw [planFrom_cons_of_find?_eq_none hfirst]
      exact (ih _).cons source

theorem sublist_planFrom (claimed : List Job) (sources : List Place) :
    ((planFrom output claimed sources).1.map Job.source).Sublist sources := by
  induction sources generalizing claimed with
  | nil => exact .slnil
  | cons source rest ih =>
    cases hfirst : claimed.find? fun job => job.page == pagePlace output source with
    | some first =>
      rw [planFrom_cons_of_find?_eq_some hfirst]
      exact (ih claimed).cons source
    | none =>
      rw [planFrom_cons_of_find?_eq_none hfirst]
      exact (ih _).cons_cons source

/-- A job has a source whose page is claimed by none of the sources before it. -/
theorem of_mem_planFrom {claimed : List Job} {sources : List Place} {job : Job}
    (h : job ∈ (planFrom output claimed sources).1) :
    ∃ before after, sources = before ++ job.source :: after ∧ job = job.source.job output ∧
      (claimed ++ before.map (Place.job output)).find? (·.page == job.page) = none := by
  induction sources generalizing claimed with
  | nil => cases h
  | cons source rest ih =>
    cases hfirst : claimed.find? fun job => job.page == pagePlace output source with
    | some first =>
      rw [planFrom_cons_of_find?_eq_some hfirst] at h
      obtain ⟨before, after, rfl, hjob, hnew⟩ := ih h
      refine ⟨source :: before, after, rfl, hjob, ?_⟩
      rw [List.find?_append, Option.or_eq_none_iff] at hnew
      rw [List.find?_append, List.map_cons, List.find?_cons, hnew.1, Option.none_or]
      -- The page of the source is claimed, and that of the job is not.
      have hother : (source.job output).page ≠ job.page := by
        intro hsame
        have hclaimed : claimed.find? (·.page == job.page) = some first := hsame ▸ hfirst
        rw [hnew.1] at hclaimed
        cases hclaimed
      rw [beq_false_of_ne hother]
      exact hnew.2
    | none =>
      rw [planFrom_cons_of_find?_eq_none hfirst, List.mem_cons] at h
      obtain rfl | h := h
      · exact ⟨[], rest, rfl, rfl, by rw [List.map_nil, List.append_nil]; exact hfirst⟩
      · obtain ⟨before, after, rfl, hjob, hnew⟩ := ih h
        refine ⟨source :: before, after, rfl, hjob, ?_⟩
        rw [List.map_cons, List.append_cons]
        exact hnew

/-- A source is left out when its page is claimed by one before it. -/
theorem of_mem_skipped_planFrom {claimed : List Job} {sources : List Place} {source : Place}
    {error : BuildError} (h : (source, error) ∈ (planFrom output claimed sources).2) :
    ∃ before after first, sources = before ++ source :: after ∧
      (claimed ++ before.map (Place.job output)).find? (·.page == pagePlace output source) =
        some first ∧
      error = .alreadyBuilt (pagePlace output source).path first.source.path := by
  induction sources generalizing claimed with
  | nil => cases h
  | cons next rest ih =>
    cases hfirst : claimed.find? fun job => job.page == pagePlace output next with
    | some first =>
      rw [planFrom_cons_of_find?_eq_some hfirst, List.mem_cons] at h
      obtain h | h := h
      · obtain ⟨rfl, rfl⟩ := Prod.mk.inj h
        exact ⟨[], rest, first, rfl, by rw [List.map_nil, List.append_nil]; exact hfirst, rfl⟩
      · obtain ⟨before, after, owner, rfl, howner, rfl⟩ := ih h
        refine ⟨next :: before, after, owner, rfl, ?_, rfl⟩
        rw [List.find?_append] at howner ⊢
        rw [List.map_cons, List.find?_cons]
        -- Where the source before it has the same page, both are left out for the same job.
        by_cases hsame : (next.job output).page = pagePlace output source
        · have hclaimed : claimed.find? (·.page == pagePlace output source) = some first :=
            hsame ▸ hfirst
          rw [hclaimed, Option.some_or] at howner ⊢
          exact howner
        · rw [beq_false_of_ne hsame]
          exact howner
    | none =>
      rw [planFrom_cons_of_find?_eq_none hfirst] at h
      obtain ⟨before, after, owner, rfl, howner, rfl⟩ := ih h
      refine ⟨next :: before, after, owner, rfl, ?_, rfl⟩
      rw [List.map_cons, List.append_cons]
      exact howner

/-! ### The plan -/

variable {sources : List Place}

/-- **Every source has a job or is left out.** -/
theorem perm_plan (output : Directory) (sources : List Place) :
    ((plan output sources).1.map Job.source ++ (plan output sources).2.map Prod.fst).Perm
      sources :=
  perm_planFrom [] sources

/-- The jobs keep the order of the sources. -/
theorem sublist_plan (output : Directory) (sources : List Place) :
    ((plan output sources).1.map Job.source).Sublist sources :=
  sublist_planFrom [] sources

theorem page_of_mem_plan {job : Job} (h : job ∈ (plan output sources).1) :
    job.page = pagePlace output job.source := by
  obtain ⟨-, -, -, hjob, -⟩ := of_mem_planFrom h
  exact congrArg Job.page hjob

theorem find?_map_job (before : List Place) (page : Place) :
    (before.map (Place.job output)).find? (·.page == page) =
      (before.find? (pagePlace output · == page)).map (Place.job output) :=
  List.find?_map

/-- **A job has the first source with its page.** -/
theorem find?_of_mem_plan {job : Job} (h : job ∈ (plan output sources).1) :
    sources.find? (pagePlace output · == job.page) = some job.source := by
  obtain ⟨before, after, hsources, -, hnew⟩ := of_mem_planFrom h
  rw [List.nil_append, find?_map_job, Option.map_eq_none_iff] at hnew
  rw [hsources, List.find?_append, hnew, Option.none_or, List.find?_cons, page_of_mem_plan h,
    beq_self_eq_true]

/-- Jobs with the same page are the same. -/
theorem eq_of_mem_plan {job other : Job} (hjob : job ∈ (plan output sources).1)
    (hother : other ∈ (plan output sources).1) (h : job.page = other.page) : job = other := by
  have hsource := find?_of_mem_plan hjob
  rw [h, find?_of_mem_plan hother, Option.some.injEq] at hsource
  cases job
  cases other
  cases h
  cases hsource
  rfl

/-- A source is left out for the first one with its page. -/
theorem of_mem_skipped_plan {source : Place} {error : BuildError}
    (h : (source, error) ∈ (plan output sources).2) :
    ∃ first, [first, source].Sublist sources ∧
      sources.find? (pagePlace output · == pagePlace output source) = some first ∧
      error = .alreadyBuilt (pagePlace output source).path first.path := by
  obtain ⟨before, after, owner, rfl, howner, rfl⟩ := of_mem_skipped_planFrom h
  rw [List.nil_append, find?_map_job, Option.map_eq_some_iff] at howner
  obtain ⟨first, hfirst, rfl⟩ := howner
  refine ⟨first, ?_, by rw [List.find?_append, hfirst, Option.some_or], rfl⟩
  exact (List.singleton_sublist.2 (List.mem_of_find?_eq_some hfirst)).append
    (List.singleton_sublist.2 List.mem_cons_self)

/-- What stands before an element that occurs once stands in the part before it. -/
theorem mem_of_pair_sublist {α : Type} {a b : α} {before after : List α}
    (h : [a, b].Sublist (before ++ b :: after)) (hnodup : (before ++ b :: after).Nodup) :
    a ∈ before := by
  have hafter : b ∉ after := (List.nodup_cons.1 hnodup.of_append_right).1
  obtain ⟨first, second, hpair, hfirst, hsecond⟩ := List.sublist_append_iff.1 h
  match first, hpair with
  | [], hpair =>
    rw [List.nil_append] at hpair
    subst hpair
    refine absurd ?_ hafter
    exact List.singleton_sublist.1 (List.sublist_cons_iff.1 hsecond |>.elim
      (fun hboth => (List.sublist_cons_self a [b]).trans hboth)
      (fun ⟨rest, hrest, hin⟩ => (List.cons.inj hrest).2 ▸ hin))
  | c :: _, hpair =>
    rw [(List.cons.inj hpair).1]
    exact hfirst.subset List.mem_cons_self

/-- **A source is left out exactly when one before it shares its directory and its stem.** -/
theorem mem_skipped_plan (output : Directory) (hnodup : sources.Nodup) {source : Place} :
    source ∈ (plan output sources).2.map Prod.fst ↔
      ∃ earlier, [earlier, source].Sublist sources ∧ earlier.SharesStem source := by
  constructor
  · intro h
    obtain ⟨⟨source, error⟩, hskipped, rfl⟩ := List.mem_map.1 h
    obtain ⟨first, hearlier, hfirst, -⟩ := of_mem_skipped_plan hskipped
    obtain ⟨hsame, -⟩ := List.find?_eq_some_iff_append.1 hfirst
    exact ⟨first, hearlier, pagePlace_eq_iff.1 (eq_of_beq hsame)⟩
  · rintro ⟨earlier, hearlier, hshares⟩
    have hsource : source ∈ sources := hearlier.subset (List.mem_cons_of_mem _ List.mem_cons_self)
    refine (List.mem_append.1 ((perm_plan output sources).mem_iff.2 hsource)).resolve_left ?_
    intro h
    obtain ⟨job, hjob, rfl⟩ := List.mem_map.1 h
    obtain ⟨before, after, rfl, -, hnew⟩ := of_mem_planFrom hjob
    rw [List.nil_append, find?_map_job, Option.map_eq_none_iff, List.find?_eq_none] at hnew
    refine hnew earlier (mem_of_pair_sublist hearlier hnodup) (beq_of_eq ?_)
    rw [page_of_mem_plan hjob]
    exact pagePlace_eq_iff.2 hshares

/-- Jobs that have pages of their own and leave each other's sources alone. -/
structure Sensible (tree : FileTree) (jobs : List Job) : Prop where
  nodup : jobs.Nodup
  /-- The location of a page belongs to one job. -/
  unique : ∀ job ∈ jobs, ∀ other ∈ jobs, job.page.location = other.page.location → job = other
  isFile : ∀ job ∈ jobs, tree.isFile job.source.location = true
  /-- No page stands where a source stands. -/
  apart : ∀ job ∈ jobs, ∀ other ∈ jobs, job.page.location ≠ other.source.location

/-- **The jobs of a plan are sensible.** -/
theorem sensible_plan (tree : FileTree) (input output : Directory) :
    Sensible tree (plan output (tree.sources input)).1 where
  nodup := ((sublist_plan output _).nodup (tree.nodup_sources input)).of_map
  unique job hjob other hother h := by
    refine eq_of_mem_plan hjob hother ?_
    rw [page_of_mem_plan hjob, page_of_mem_plan hother] at h ⊢
    exact congrArg (Place.mk output) (List.append_cancel_left h)
  isFile job hjob :=
    (FileTree.mem_sources.1 ((sublist_plan output _).subset (List.mem_map_of_mem hjob))).2.2.2.2
  apart job hjob other hother := by
    rw [page_of_mem_plan hjob]
    exact location_pagePlace_ne ((sublist_plan output _).subset (List.mem_map_of_mem hother))

end Folio
