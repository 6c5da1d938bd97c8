import Folio.Proofs.BuildAccounts

/-!
# When the order of the jobs does not matter

Two jobs never write the same page, but each also makes the directories that lead to its page, and
the page of one may lie on the way to the page of the other. Of two such jobs the one that comes
first succeeds (`Folio.order_decides`). Where something stands at the place of such a page already,
no job makes a directory there, and all orders agree.

For then every job goes through the stages that it would go through alone. At each moment the
common file tree shows what each job has done alone so far, and shows nothing that none of them has
done: of what a job finds on its way, another can have changed only the content of a file that is in
the way, or have made a directory that the job would have made itself, and nobody changes what it
finds at the place of its page. At the end every job has its result, and the tree differs from the
first one just where some job alone would have changed it.

## Main definitions

* `Folio.PagesApart`: no page that is still free lies on the way to another.
* `Folio.Job.Effect`: what a job has done alone at a location.
* `Folio.Mirrors`: a state shows what each job has done alone.

## Main results

* `Folio.Reached.effect`: the effects of a job that runs alone.
* `Folio.Job.LooksAlike.advance`: the step of a job is the same in two trees that look alike to it.
* `Folio.Reached.mirrors`: all states that jobs may reach show what they have done alone.
* `Folio.build_unordered`: all builds agree with the one in the order of the sources.
* `Folio.order_decides`: pages that are not apart.
-/

namespace Folio

variable {η : Type} {renderer : Renderer} {options : BuildOptions η}

/-! ### A job alone -/

/-- What a job that has run alone has done at a location. -/
inductive Job.Effect (job : Job) (start : FileTree) (alone : BuildState) (location : Location) :
    Prop
  | kept (h : alone.tree.find? location = start.find? location)
  /-- A directory was made on the way to the page. -/
  | made (hway : location <+: job.page.location.dropLast) (hfree : start.find? location = none)
      (hallowed : start.refuses .writing location = false)
      (hmade : alone.tree.find? location = some .directory)
  /-- The page was written, and the job is over. -/
  | wrote {result bytes} (hover : alone.stage job = .finished result)
      (hlocation : location = job.page.location) (hfree : start.find? location ≠ some .directory)
      (hwrote : alone.tree.find? location = some (.file bytes))

section Alone

variable {jobs : List Job} {start : FileTree} {state alone : BuildState} {job : Job}

theorem Sensible.singleton (h : Sensible start jobs) (hjob : job ∈ jobs) :
    Sensible start [job] where
  nodup := List.nodup_singleton job
  unique _ hfirst _ hsecond _ := (List.mem_singleton.1 hfirst).trans
    (List.mem_singleton.1 hsecond).symm
  isFile other hother := h.isFile other (List.mem_singleton.1 hother ▸ hjob)
  apart first hfirst second hsecond :=
    h.apart first (List.mem_singleton.1 hfirst ▸ hjob) second (List.mem_singleton.1 hsecond ▸ hjob)

theorem Job.Step.finished_of_making {page : String} {done : Location} {stage : Stage}
    {tree tree' : FileTree}
    (h : job.Step renderer options (.making page done []) tree stage tree') :
    ∃ result, stage = .finished result := by
  cases h <;> exact ⟨_, rfl⟩

/-- A step of a job alone keeps to its effects. -/
theorem Job.Effect.advance {location : Location} (h : job.Effect start alone location)
    (hsound : alone.IsSound renderer options [job] start) :
    job.Effect start (alone.advance renderer options job) location := by
  have hstep := job.step_advance renderer options (alone.stage job) alone.tree
  cases hstep.change location with
  | kept hkept =>
    cases h with
    | kept hsame => exact .kept (hkept.trans hsame)
    | made hway hfree hallowed hmade => exact .made hway hfree hallowed (hkept.trans hmade)
    | @wrote result _ hover hlocation hfree hwrote =>
      have hover' : (alone.advance renderer options job).stage job = .finished result := by
        rw [BuildState.stage_advance_self, hover]
        rfl
      exact .wrote hover' hlocation hfree (hkept.trans hwrote)
  | @made _ done name rest hstage hlocation hnone hallowed hmade =>
    cases h with
    | kept hsame =>
      obtain ⟨hway, -⟩ := (hstage ▸ hsound.sound job List.mem_cons_self).of_making
      rw [hsound.refuses_eq] at hallowed
      refine .made ⟨rest, ?_⟩ (hsame ▸ hnone) hallowed hmade
      rw [hlocation, List.append_assoc]
      exact hway
    | made _ _ _ hbefore =>
      rw [hnone] at hbefore
      cases hbefore
    | wrote _ _ _ hbefore =>
      rw [hnone] at hbefore
      cases hbefore
  | wrote hstage hlocation hfree hwrote =>
    obtain ⟨result, hover⟩ := (hstage ▸ hstep).finished_of_making
    cases h with
    | kept hsame =>
      have hover' : (alone.advance renderer options job).stage job = .finished result := by
        rw [BuildState.stage_advance_self, hstage, hover]
      exact .wrote hover' hlocation (hsame ▸ hfree) hwrote
    | made _ _ _ hbefore => exact (hfree hbefore).elim
    | wrote hbefore =>
      rw [hstage] at hbefore
      cases hbefore

/-- **A job that runs alone has these effects.** -/
theorem Reached.effect (h : Reached renderer options [job] start alone)
    (hsensible : Sensible start [job]) (location : Location) : job.Effect start alone location := by
  induction h with
  | start => exact .kept rfl
  | step hreached hjob ih =>
    obtain rfl := List.mem_singleton.1 hjob
    exact ih.advance (hreached.isSound hsensible)

/-- A job that runs alone comes to the end to which it comes at once. -/
theorem Reached.finish_alone (h : Reached renderer options [job] start alone) :
    job.finish renderer options (alone.stage job) alone.tree = job.run renderer options start := by
  induction h with
  | start => rfl
  | step _ hjob ih =>
    obtain rfl := List.mem_singleton.1 hjob
    rw [BuildState.tree_advance, BuildState.stage_advance_self, Job.finish_advance, ih]

end Alone

/-! ### One step in two trees -/

/-- Two trees that a step has changed agree where either of them has changed. -/
def ChangeAlike (tree next other otherNext : FileTree) : Prop :=
  ∀ location,
    (next.find? location = tree.find? location ∨
      next.find? location = otherNext.find? location) ∧
    (otherNext.find? location = other.find? location ∨
      next.find? location = otherNext.find? location)

theorem changeAlike_refl (tree other : FileTree) : ChangeAlike tree tree other other :=
  fun _ => ⟨.inl rfl, .inl rfl⟩

theorem changeAlike_put {place : Location} (h : place ≠ []) (tree other : FileTree)
    (entry : FileEntry) :
    ChangeAlike tree (tree.put place entry) other (other.put place entry) := by
  intro location
  by_cases hsame : location = place
  · subst hsame
    rw [FileTree.find?_put_self h, FileTree.find?_put_self h]
    exact ⟨.inr rfl, .inr rfl⟩
  · exact ⟨.inl (FileTree.find?_put_of_ne h hsame entry),
      .inl (FileTree.find?_put_of_ne h hsame entry)⟩

/-- One tree catches up with the other. -/
theorem changeAlike_put_right {place : Location} {tree : FileTree} {entry : FileEntry}
    (h : place ≠ []) (hentry : tree.find? place = some entry) (other : FileTree) :
    ChangeAlike tree tree other (other.put place entry) := by
  intro location
  by_cases hsame : location = place
  · subst hsame
    rw [FileTree.find?_put_self h]
    exact ⟨.inl rfl, .inr hentry⟩
  · exact ⟨.inl rfl, .inl (FileTree.find?_put_of_ne h hsame entry)⟩

section ChangeAlike

variable {tree next other otherNext start : FileTree} {location : Location}

/-- What one tree shows of the other it still shows after the step. -/
theorem ChangeAlike.shows (h : ChangeAlike tree next other otherNext)
    (hbefore : other.find? location ≠ start.find? location →
      tree.find? location = other.find? location)
    (hchanged : otherNext.find? location ≠ start.find? location) :
    next.find? location = otherNext.find? location := by
  obtain ⟨hnext | hnext, hother | hother⟩ := h location
  · rw [hother] at hchanged ⊢
    rw [hnext, hbefore hchanged]
  all_goals assumption

/-- What one tree shows is due to the other, or it was there before the step. -/
theorem ChangeAlike.owes (h : ChangeAlike tree next other otherNext)
    (hchanged : next.find? location ≠ start.find? location) :
    otherNext.find? location ≠ start.find? location ∨
      other.find? location = start.find? location ∧
        tree.find? location ≠ start.find? location := by
  by_cases hdone : otherNext.find? location = start.find? location
  · obtain ⟨hnext | hnext, hother | hother⟩ := h location
    · exact .inr ⟨hother.symm.trans hdone, hnext ▸ hchanged⟩
    all_goals exact (hchanged (by rw [‹next.find? location = _›, hdone])).elim
  · exact .inl hdone

end ChangeAlike

/-- What two trees have at a location on the way to a page. -/
inductive OnWay (tree other : FileTree) (location : Location) : Prop
  | same (h : tree.find? location = other.find? location)
  /-- Files that may differ are in the way. -/
  | files {bytes bytes'} (h : tree.find? location = some (.file bytes))
      (h' : other.find? location = some (.file bytes'))
  /-- One tree has the directory that can be made in the other. -/
  | ahead (h : tree.find? location = some .directory) (hfree : other.find? location = none)
      (hallowed : other.refuses .writing location = false)

namespace FileTree

variable {tree other : FileTree} {location : Location}

/-- Making a directory has the same result in both trees. -/
theorem makeDirectory_alike (h : OnWay tree other location)
    (hrefuses : tree.refuses = other.refuses) (hne : location ≠ []) (last : Bool) :
    (tree.makeDirectory location last).1 = (other.makeDirectory location last).1 ∧
      ChangeAlike tree (tree.makeDirectory location last).2 other
        (other.makeDirectory location last).2 := by
  cases h with
  | same hsame =>
    rw [makeDirectory, makeDirectory, hsame, hrefuses]
    cases other.find? location with
    | some entry => cases entry <;> exact ⟨rfl, changeAlike_refl tree other⟩
    | none =>
      cases other.refuses .writing location with
      | true => exact ⟨rfl, changeAlike_refl tree other⟩
      | false => exact ⟨rfl, changeAlike_put hne tree other _⟩
  | files hfile hfile' =>
    rw [makeDirectory, makeDirectory, hfile, hfile']
    exact ⟨rfl, changeAlike_refl tree other⟩
  | ahead hdirectory hfree hallowed =>
    rw [makeDirectory, makeDirectory, hdirectory, hfree, hallowed]
    exact ⟨rfl, changeAlike_put_right hne hdirectory other⟩

theorem obstacle?_congr (hsame : tree.find? location = other.find? location)
    (hrefuses : tree.refuses = other.refuses)
    (hdirectory : tree.find? location.dropLast = some .directory)
    (hdirectory' : other.find? location.dropLast = some .directory) :
    tree.obstacle? location = other.obstacle? location := by
  rw [obstacle?, obstacle?, hsame, hrefuses, isDirectory_iff.2 hdirectory,
    isDirectory_iff.2 hdirectory']
  rfl

/-- Writing a file has the same result in both trees. -/
theorem write_alike (hsame : tree.find? location = other.find? location)
    (hrefuses : tree.refuses = other.refuses) (hroom : tree.room = other.room)
    (hdirectory : tree.find? location.dropLast = some .directory)
    (hdirectory' : other.find? location.dropLast = some .directory) (bytes : ByteArray) :
    (tree.write location bytes).1 = (other.write location bytes).1 ∧
      ChangeAlike tree (tree.write location bytes).2 other (other.write location bytes).2 := by
  have hobstacle := obstacle?_congr hsame hrefuses hdirectory hdirectory'
  rw [write, write, hobstacle, hroom]
  cases hopen : other.obstacle? location with
  | some e => exact ⟨rfl, changeAlike_refl tree other⟩
  | none =>
    have hne := ne_nil_of_obstacle?_eq_none hopen
    cases other.room location with
    | none => exact ⟨rfl, changeAlike_put hne tree other _⟩
    | some n =>
      by_cases hfits : bytes.size ≤ n
      · simp only [if_pos hfits, true_and]
        exact changeAlike_put hne tree other _
      · simp only [if_neg hfits, true_and]
        exact changeAlike_put hne tree other _

end FileTree

/-- Two trees have the same of all that the next step of a job depends on. -/
structure Job.LooksAlike (job : Job) (stage : Stage) (tree other : FileTree) : Prop where
  refuses_eq : tree.refuses = other.refuses
  room_eq : tree.room = other.room
  readText_eq : tree.readText job.source.location = other.readText job.source.location
  onWay : ∀ {page done name rest}, stage = .making page done (name :: rest) →
    OnWay tree other (done ++ [name])
  page_eq : ∀ {page done}, stage = .making page done [] →
    tree.find? job.page.location = other.find? job.page.location ∧
      tree.find? job.page.location.dropLast = some .directory ∧
      other.find? job.page.location.dropLast = some .directory

/-- **The step of a job is the same in two trees that look alike to it.** -/
theorem Job.LooksAlike.advance (renderer : Renderer) (options : BuildOptions η) {job : Job}
    {stage : Stage} {tree other : FileTree} (h : job.LooksAlike stage tree other) :
    (job.advance renderer options stage tree).1 = (job.advance renderer options stage other).1 ∧
      ChangeAlike tree (job.advance renderer options stage tree).2 other
        (job.advance renderer options stage other).2 := by
  match stage with
  | .waiting =>
    rw [Job.advance, Job.advance, h.readText_eq]
    cases other.readText job.source.location <;> exact ⟨rfl, changeAlike_refl tree other⟩
  | .making page done (name :: rest) =>
    obtain ⟨hresult, halike⟩ := FileTree.makeDirectory_alike (h.onWay rfl) h.refuses_eq
      (List.concat_ne_nil name done) rest.isEmpty
    rw [Job.advance, Job.advance]
    generalize tree.makeDirectory (done ++ [name]) rest.isEmpty = made at hresult halike
    generalize other.makeDirectory (done ++ [name]) rest.isEmpty = made' at hresult halike
    obtain ⟨result, next⟩ := made
    obtain ⟨result', next'⟩ := made'
    obtain rfl : result = result' := hresult
    cases result <;> exact ⟨rfl, halike⟩
  | .making page done [] =>
    obtain ⟨hsame, hdirectory, hdirectory'⟩ := h.page_eq rfl
    obtain ⟨hresult, halike⟩ := FileTree.write_alike hsame h.refuses_eq h.room_eq hdirectory
      hdirectory' page.toUTF8
    rw [Job.advance, Job.advance]
    generalize tree.write job.page.location page.toUTF8 = made at hresult halike
    generalize other.write job.page.location page.toUTF8 = made' at hresult halike
    obtain ⟨result, next⟩ := made
    obtain ⟨result', next'⟩ := made'
    obtain rfl : result = result' := hresult
    cases result <;> exact ⟨rfl, halike⟩
  | .finished result => exact ⟨rfl, changeAlike_refl tree other⟩

/-! ### Jobs side by side -/

/-- Where the page of a job lies on the way to the page of another, something stands already. -/
def PagesApart (start : FileTree) (jobs : List Job) : Prop :=
  ∀ job ∈ jobs, ∀ other ∈ jobs, job.page.location <+: other.page.location.dropLast →
    start.find? job.page.location ≠ none

/-- A state of jobs side by side shows what each has done alone, and nothing else. -/
structure Mirrors (renderer : Renderer) (options : BuildOptions η) (jobs : List Job)
    (start : FileTree) (state : BuildState) (alone : Job → BuildState) : Prop where
  reached : ∀ job ∈ jobs, Reached renderer options [job] start (alone job)
  stage_eq : ∀ job ∈ jobs, (alone job).stage job = state.stage job
  /-- What a job alone has changed is seen by all. -/
  shows : ∀ job ∈ jobs, ∀ location,
    (alone job).tree.find? location ≠ start.find? location →
    state.tree.find? location = (alone job).tree.find? location
  /-- What is seen to have changed was changed by a job. -/
  owes : ∀ location, state.tree.find? location ≠ start.find? location →
    ∃ job ∈ jobs, (alone job).tree.find? location ≠ start.find? location

namespace Mirrors

variable {jobs : List Job} {start : FileTree} {state : BuildState} {alone : Job → BuildState}
  {job other : Job} {location : Location}

theorem effect (h : Mirrors renderer options jobs start state alone)
    (hsensible : Sensible start jobs) (hjob : job ∈ jobs) (location : Location) :
    job.Effect start (alone job) location :=
  (h.reached job hjob).effect (hsensible.singleton hjob) location

theorem isSound (h : Mirrors renderer options jobs start state alone)
    (hsensible : Sensible start jobs) (hjob : job ∈ jobs) :
    (alone job).IsSound renderer options [job] start :=
  (h.reached job hjob).isSound (hsensible.singleton hjob)

/-- Jobs alone and side by side find the same at the places of their pages. -/
theorem find?_page (h : Mirrors renderer options jobs start state alone)
    (hsensible : Sensible start jobs) (hapart : PagesApart start jobs) (hjob : job ∈ jobs) :
    state.tree.find? job.page.location = (alone job).tree.find? job.page.location := by
  by_cases halone : (alone job).tree.find? job.page.location = start.find? job.page.location
  · rw [halone]
    refine Classical.byContradiction fun hchanged => ?_
    obtain ⟨other, hother, hdone⟩ := h.owes _ hchanged
    -- Another job would have made a directory here, on the way to its page.
    cases h.effect hsensible hother job.page.location with
    | kept hkept => exact hdone hkept
    | made hway hfree => exact hapart job hjob other hother hway hfree
    | wrote _ hlocation =>
      obtain rfl := hsensible.unique job hjob other hother hlocation
      exact hdone halone
  · exact h.shows job hjob _ halone

/-- What a job finds on its way is what it would find alone, save for what does not matter to it. -/
theorem onWay (h : Mirrors renderer options jobs start state alone)
    (hsensible : Sensible start jobs) (hapart : PagesApart start jobs) (hjob : job ∈ jobs)
    (hway : location <+: job.page.location.dropLast) :
    OnWay state.tree (alone job).tree location := by
  by_cases halone : (alone job).tree.find? location = start.find? location
  · by_cases hchanged : state.tree.find? location = start.find? location
    · exact .same (hchanged.trans halone.symm)
    · obtain ⟨other, hother, hdone⟩ := h.owes _ hchanged
      have hshows := h.shows other hother _ hdone
      -- Another job was here first: it has made the directory, or its page is in the way.
      cases h.effect hsensible hother location with
      | kept hkept => exact (hdone hkept).elim
      | made _ hfree hallowed hmade =>
        refine .ahead (hshows.trans hmade) (halone.trans hfree) ?_
        rw [(h.isSound hsensible hjob).refuses_eq, hallowed]
      | wrote _ hlocation hfree hwrote =>
        subst hlocation
        cases hentry : start.find? other.page.location with
        | none => exact (hapart other hother job hjob hway hentry).elim
        | some entry =>
          cases entry with
          | directory => exact (hfree hentry).elim
          | file bytes => exact .files (hshows.trans hwrote) (halone.trans hentry)
  · exact .same (h.shows job hjob _ halone)

/-- A job that has its next step before it sees alike in the common tree and alone. -/
theorem looksAlike (h : Mirrors renderer options jobs start state alone)
    (hsound : state.IsSound renderer options jobs start) (hsensible : Sensible start jobs)
    (hapart : PagesApart start jobs) (hjob : job ∈ jobs) :
    job.LooksAlike (state.stage job) state.tree (alone job).tree where
  refuses_eq := hsound.refuses_eq.trans (h.isSound hsensible hjob).refuses_eq.symm
  room_eq := hsound.room_eq.trans (h.isSound hsensible hjob).room_eq.symm
  readText_eq := (hsound.readText_eq hsensible hjob).trans
    ((h.isSound hsensible hjob).readText_eq (hsensible.singleton hjob) List.mem_cons_self).symm
  onWay {page done name rest} hstage := by
    obtain ⟨hway, -⟩ := (hstage ▸ hsound.sound job hjob).of_making
    exact h.onWay hsensible hapart hjob ⟨rest, by rw [List.append_assoc]; exact hway⟩
  page_eq {page done} hstage := by
    have hstage' := (h.stage_eq job hjob).trans hstage
    obtain ⟨hway, hdone⟩ := (hstage ▸ hsound.sound job hjob).of_making
    obtain ⟨-, hdone'⟩ :=
      (hstage' ▸ (h.isSound hsensible hjob).sound job List.mem_cons_self).of_making
    rw [List.append_nil] at hway
    subst hway
    exact ⟨h.find?_page hsensible hapart hjob, hdone, hdone'⟩

/-- A step of one job leaves what another has done. -/
theorem shows_advance (h : Mirrors renderer options jobs start state alone)
    (hsensible : Sensible start jobs) (hapart : PagesApart start jobs) (hjob : job ∈ jobs)
    (hother : other ∈ jobs) (hne : other ≠ job)
    (hdone : (alone other).tree.find? location ≠ start.find? location) :
    (state.advance renderer options job).tree.find? location =
      (alone other).tree.find? location := by
  have hshows := h.shows other hother _ hdone
  rw [BuildState.tree_advance]
  -- The other job has put something here, so that no directory is made, and its page is not this.
  cases (job.step_advance renderer options (state.stage job) state.tree).change location with
  | kept hkept => rw [hkept, hshows]
  | made _ _ hfree =>
    rw [hshows] at hfree
    cases h.effect hsensible hother location with
    | kept hkept => exact (hdone hkept).elim
    | made _ _ _ hmade => rw [hmade] at hfree; cases hfree
    | wrote _ _ _ hwrote => rw [hwrote] at hfree; cases hfree
  | wrote _ hlocation =>
    subst hlocation
    cases h.effect hsensible hother job.page.location with
    | kept hkept => exact (hdone hkept).elim
    | made hway hfree => exact (hapart job hjob other hother hway hfree).elim
    | wrote _ hlocation => exact (hne (hsensible.unique job hjob other hother hlocation).symm).elim

/-- The step of a job is the same in the common tree and alone. -/
theorem advance_alike (h : Mirrors renderer options jobs start state alone)
    (hsound : state.IsSound renderer options jobs start) (hsensible : Sensible start jobs)
    (hapart : PagesApart start jobs) (hjob : job ∈ jobs) :
    (state.advance renderer options job).stage job =
        ((alone job).advance renderer options job).stage job ∧
      ChangeAlike state.tree (state.advance renderer options job).tree (alone job).tree
        ((alone job).advance renderer options job).tree := by
  rw [BuildState.stage_advance_self, BuildState.stage_advance_self, BuildState.tree_advance,
    BuildState.tree_advance, h.stage_eq job hjob]
  exact (h.looksAlike hsound hsensible hapart hjob).advance renderer options

/-- A step of a job is mirrored by its step alone. -/
theorem advance (h : Mirrors renderer options jobs start state alone)
    (hsound : state.IsSound renderer options jobs start) (hsensible : Sensible start jobs)
    (hapart : PagesApart start jobs) (hjob : job ∈ jobs) :
    Mirrors renderer options jobs start (state.advance renderer options job) fun other =>
      if other = job then (alone job).advance renderer options job else alone other := by
  obtain ⟨hstage, halike⟩ := h.advance_alike hsound hsensible hapart hjob
  constructor
  · intro other hother
    by_cases hsame : other = job
    · subst hsame
      rw [if_pos rfl]
      exact (h.reached other hjob).step List.mem_cons_self
    · rw [if_neg hsame]
      exact h.reached other hother
  · intro other hother
    by_cases hsame : other = job
    · subst hsame
      rw [if_pos rfl, hstage]
    · rw [if_neg hsame, BuildState.stage_advance_of_ne hsame, h.stage_eq other hother]
  · intro other hother location hdone
    by_cases hsame : other = job
    · subst hsame
      rw [if_pos rfl] at hdone ⊢
      exact halike.shows (h.shows other hjob location) hdone
    · rw [if_neg hsame] at hdone ⊢
      exact h.shows_advance hsensible hapart hjob hother hsame hdone
  · intro location hchanged
    obtain hdone | ⟨hbefore, hchanged⟩ := halike.owes hchanged
    · refine ⟨job, hjob, ?_⟩
      rw [if_pos rfl]
      exact hdone
    · obtain ⟨other, hother, hdone⟩ := h.owes location hchanged
      have hne : other ≠ job := fun hsame => hdone (hsame ▸ hbefore)
      refine ⟨other, hother, ?_⟩
      rw [if_neg hne]
      exact hdone

end Mirrors

variable {jobs : List Job} {start : FileTree} {state : BuildState}

/-- **All states that jobs may reach show what each job has done alone.** -/
theorem Reached.mirrors (h : Reached renderer options jobs start state)
    (hsensible : Sensible start jobs) (hapart : PagesApart start jobs) :
    ∃ alone, Mirrors renderer options jobs start state alone := by
  induction h with
  | start =>
    exact ⟨fun _ => ⟨start, fun _ => .waiting⟩, fun _ _ => .start, fun _ _ => rfl,
      fun _ _ _ hdone => (hdone rfl).elim, fun _ hchanged => (hchanged rfl).elim⟩
  | step hreached hjob ih =>
    obtain ⟨alone, hmirrors⟩ := ih
    exact ⟨_, hmirrors.advance (hreached.isSound hsensible) hsensible hapart hjob⟩

/-! ### All orders agree -/

namespace Mirrors

variable {alone alone' : Job → BuildState} {state' : BuildState} {job : Job}

/-- A job that is over has the result that it has at once and alone. -/
theorem run_eq (h : Mirrors renderer options jobs start state alone) (hjob : job ∈ jobs)
    {result : Except BuildError Unit} (hover : state.stage job = .finished result) :
    job.run renderer options start = (result, (alone job).tree) := by
  rw [← (h.reached job hjob).finish_alone, h.stage_eq job hjob, hover]
  rfl

/-- Where all jobs are over, they have left what they have left in any other such state. -/
theorem tree_eq (h : Mirrors renderer options jobs start state alone)
    (h' : Mirrors renderer options jobs start state' alone')
    (hover : ∀ job ∈ jobs, (state.stage job).result?.isSome = true)
    (hover' : ∀ job ∈ jobs, (state'.stage job).result?.isSome = true) (location : Location) :
    state.tree.find? location = state'.tree.find? location := by
  have halone : ∀ job ∈ jobs, (alone job).tree = (alone' job).tree := by
    intro job hjob
    obtain ⟨result, hresult⟩ := Option.isSome_iff_exists.1 (hover job hjob)
    obtain ⟨result', hresult'⟩ := Option.isSome_iff_exists.1 (hover' job hjob)
    have hrun := h.run_eq hjob (Stage.result?_eq_some.1 hresult)
    rw [h'.run_eq hjob (Stage.result?_eq_some.1 hresult')] at hrun
    exact (Prod.mk.inj hrun).2.symm
  by_cases hchanged : state.tree.find? location = start.find? location
  · by_cases hchanged' : state'.tree.find? location = start.find? location
    · rw [hchanged, hchanged']
    · obtain ⟨job, hjob, hdone⟩ := h'.owes location hchanged'
      rw [h'.shows job hjob location hdone]
      rw [← halone job hjob] at hdone ⊢
      exact h.shows job hjob location hdone
  · obtain ⟨job, hjob, hdone⟩ := h.owes location hchanged
    rw [h.shows job hjob location hdone]
    rw [halone job hjob] at hdone ⊢
    exact (h'.shows job hjob location hdone).symm

theorem results_eq (h : Mirrors renderer options jobs start state alone)
    (hover : ∀ job ∈ jobs, (state.stage job).result?.isSome = true) :
    state.results jobs = jobs.map fun job => (job, (job.run renderer options start).1) := by
  rw [BuildState.results, ← List.filterMap_eq_map]
  refine List.filterMap_congr fun job hjob => ?_
  obtain ⟨result, hresult⟩ := Option.isSome_iff_exists.1 (hover job hjob)
  rw [hresult]
  have hrun := h.run_eq hjob (Stage.result?_eq_some.1 hresult)
  exact congrArg (fun result => some (job, result)) (congrArg Prod.fst hrun).symm

end Mirrors

section Unordered

variable {input output : Directory} {tree final final' : FileTree} {report report' : BuildReport}

/-- Where pages are apart, any two builds agree. -/
theorem BuildsTo.unique (h : BuildsTo renderer options input output tree report final)
    (h' : BuildsTo renderer options input output tree report' final')
    (hapart : PagesApart tree (plan output (tree.sources input)).1) :
    report = report' ∧ ∀ location, final.find? location = final'.find? location := by
  have hsensible := sensible_plan tree input output
  obtain ⟨-, state, hreached, hover, rfl, rfl⟩ := h
  obtain ⟨-, state', hreached', hover', rfl, rfl⟩ := h'
  obtain ⟨alone, hmirrors⟩ := hreached.mirrors hsensible hapart
  obtain ⟨alone', hmirrors'⟩ := hreached'.mirrors hsensible hapart
  refine ⟨?_, hmirrors.tree_eq hmirrors' hover hover'⟩
  rw [hmirrors.results_eq hover, hmirrors'.results_eq hover']

/-- **Where pages are apart, all builds agree with the one in the order of the sources.** -/
theorem build_unordered (h : BuildsTo renderer options input output tree report final)
    (hapart : PagesApart tree (plan output (tree.sources input)).1) :
    (build renderer options input output tree).1 = .ok report ∧
      ∀ location, final.find? location =
        (build renderer options input output tree).2.find? location := by
  have hbuild : ∃ report' final',
      build renderer options input output tree = (.ok report', final') := by
    rw [build, if_pos h.isDirectory]
    exact ⟨_, _, rfl⟩
  obtain ⟨report', final', hbuild⟩ := hbuild
  obtain ⟨hreport, hfinal⟩ := h.unique (buildsTo_of_build hbuild) hapart
  rw [hbuild, hreport]
  exact ⟨rfl, hfinal⟩

end Unordered

/-! ### Pages that are not apart -/

/-- A directory where one page is to stand at the location to which another makes a directory. -/
def crossing : FileTree where
  entries := [(["in"], .directory), (["in", "a.html"], .directory),
    (["in", "a.html", "b.md"], .file "b".toUTF8), (["in", "a.json"], .file "null".toUTF8)]

/-- The same directory where there is a directory at this location already. -/
def settled : FileTree where
  entries := crossing.entries ++ [(["out"], .directory), (["out", "a.html"], .directory)]

/-- The job whose page is below the other page. -/
def lowerJob : Job :=
  ⟨⟨⟨"in", ["in"]⟩, ["a.html", "b.md"]⟩, ⟨⟨"out", ["out"]⟩, ["a.html", "b.html"]⟩⟩

/-- The job whose page is on the way to the other page. -/
def upperJob : Job := ⟨⟨⟨"in", ["in"]⟩, ["a.json"]⟩, ⟨⟨"out", ["out"]⟩, ["a.html"]⟩⟩

theorem plan_crossing : plan ⟨"out", ["out"]⟩ (crossing.sources ⟨"in", ["in"]⟩) =
    ([lowerJob, upperJob], []) := by
  have hfiles : crossing.files = [["in", "a.html", "b.md"], ["in", "a.json"]] := by
    simp [FileTree.files, crossing, List.eraseDups_cons, FileTree.isFile, FileTree.find?,
      List.lookup_cons]
  rw [FileTree.sources_eq_map [["a.html", "b.md"], ["a.json"]] hfiles (by decide) (by decide)]
  decide +kernel

theorem plan_settled : plan ⟨"out", ["out"]⟩ (settled.sources ⟨"in", ["in"]⟩) =
    ([lowerJob, upperJob], []) := by
  have hfiles : settled.files = [["in", "a.html", "b.md"], ["in", "a.json"]] := by
    simp [FileTree.files, settled, crossing, List.eraseDups_cons, FileTree.isFile, FileTree.find?,
      List.lookup_cons]
  rw [FileTree.sources_eq_map [["a.html", "b.md"], ["a.json"]] hfiles (by decide) (by decide)]
  decide +kernel

theorem build_unordered_settled :
    let built := buildInOrder {} ({} : BuildOptions Unit) ⟨"in", ["in"]⟩ ⟨"out", ["out"]⟩
      [upperJob, lowerJob] settled
    BuildsTo {} ({} : BuildOptions Unit) ⟨"in", ["in"]⟩ ⟨"out", ["out"]⟩ settled built.1 built.2 ∧
      PagesApart settled [lowerJob, upperJob] ∧
      (build {} ({} : BuildOptions Unit) ⟨"in", ["in"]⟩ ⟨"out", ["out"]⟩ settled).1 = .ok built.1 ∧
      ∀ location, built.2.find? location =
        (build {} ({} : BuildOptions Unit) ⟨"in", ["in"]⟩ ⟨"out", ["out"]⟩ settled).2.find?
          location := by
  intro built
  have hbuilds : BuildsTo {} ({} : BuildOptions Unit) ⟨"in", ["in"]⟩ ⟨"out", ["out"]⟩ settled
      built.1 built.2 :=
    buildsTo_buildInOrder rfl (by rw [plan_settled]; exact .swap _ _ _)
  have hapart : PagesApart settled [lowerJob, upperJob] := by
    rw [PagesApart]
    decide
  exact ⟨hbuilds, hapart, build_unordered hbuilds (by rw [plan_settled]; exact hapart)⟩

/-- The report of the build whose first job has the page below the other. -/
theorem lowerJob_first :
    let report := (buildInOrder {} ({} : BuildOptions Unit) ⟨"in", ["in"]⟩ ⟨"out", ["out"]⟩
      [lowerJob, upperJob] crossing).1
    report.written = [lowerJob.page] ∧
      report.skipped = [(upperJob.source, .writeFailed "out/a.html" .isDirectory)] := by
  simp only [buildInOrder, plan_crossing]
  decide +kernel

/-- The report of the build whose first job has the page on the way to the other. -/
theorem upperJob_first :
    let report := (buildInOrder {} ({} : BuildOptions Unit) ⟨"in", ["in"]⟩ ⟨"out", ["out"]⟩
      [upperJob, lowerJob] crossing).1
    report.written = [upperJob.page] ∧
      report.skipped = [(lowerJob.source, .writeFailed "out/a.html/b.html" .alreadyExists)] := by
  simp only [buildInOrder, plan_crossing]
  decide +kernel

/-- **Where pages are not apart, the order of the jobs decides which is written.** -/
theorem order_decides :
    ¬ ∀ report final, BuildsTo {} ({} : BuildOptions Unit) ⟨"in", ["in"]⟩ ⟨"out", ["out"]⟩ crossing
      report final →
      (build {} ({} : BuildOptions Unit) ⟨"in", ["in"]⟩ ⟨"out", ["out"]⟩ crossing).1 =
        .ok report := by
  intro h
  have hlower := h _ _ (buildsTo_buildInOrder rfl (by rw [plan_crossing]) :
    BuildsTo _ _ _ _ _ (buildInOrder _ _ _ _ [lowerJob, upperJob] _).1 _)
  have hupper := h _ _ (buildsTo_buildInOrder rfl (by rw [plan_crossing]; exact .swap _ _ _) :
    BuildsTo _ _ _ _ _ (buildInOrder _ _ _ _ [upperJob, lowerJob] _).1 _)
  have hwritten := congrArg BuildReport.written (Except.ok.inj (hlower.symm.trans hupper))
  rw [lowerJob_first.1, upperJob_first.1] at hwritten
  revert hwritten
  decide

end Folio
