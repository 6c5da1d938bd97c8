import Folio.Proofs.BuildPlan

/-!
# What the jobs of a build leave behind

Whatever the order in which jobs take their steps, nothing is lost of what a step has brought about.
A step changes at most one location: it makes a directory where nothing stands, or it writes the
page of its job where no directory stands. Sources therefore keep their content, directories stay
directories, and since the location of a page belongs to one job, a page that is written stays as it
is. This gives an invariant of all states that jobs may reach: the job of a source is about to
write, has written, or has failed to write the page of the content that the source had at first.

A job needs a bounded number of steps, so that from any state it may go on alone to its end. Jobs
that wait and do so one after the other leave what `Folio.runJobs` leaves.

## Main definitions

* `Folio.Job.Step`: what a job may do in one step.
* `Folio.Job.Change`: how one step may change what stands at a location.
* `Folio.Stage.Sound`: what is known of a job from where it stands.
* `Folio.Job.finish`, `Folio.BuildState.finish`: a job that goes on alone to its end.

## Main results

* `Folio.Job.step_advance`: a step of a job is one of these.
* `Folio.Reached.isSound`: the invariant of all states that jobs may reach.
* `Folio.Reached.finish`: a job may go on alone to its end.
* `Folio.finishAll_eq_runJobs`: jobs that go on one after the other.
-/

namespace Folio

variable {η : Type} {renderer : Renderer} {options : BuildOptions η}

/-! ### Changes of a file tree -/

namespace FileTree

variable {tree other : FileTree} {location : Location}

theorem find?_put_self (h : location ≠ []) (entry : FileEntry) :
    (tree.put location entry).find? location = some entry := by
  rw [find?_put h, if_pos rfl]

theorem find?_put_of_ne {place : Location} (h : location ≠ []) (hne : place ≠ location)
    (entry : FileEntry) : (tree.put location entry).find? place = tree.find? place := by
  rw [find?_put h, if_neg hne]

theorem isDirectory_iff : tree.isDirectory location = true ↔
    tree.find? location = some .directory := by
  rw [isDirectory]
  split
  case h_1 h => rw [h, eq_self, eq_self]
  case h_2 h => rw [Bool.false_eq_true, false_iff]; exact h

theorem isFile_iff : tree.isFile location = true ↔
    ∃ bytes, tree.find? location = some (.file bytes) := by
  rw [isFile]
  split
  case h_1 bytes h => exact ⟨fun _ => ⟨bytes, h⟩, fun _ => rfl⟩
  case h_2 h => rw [Bool.false_eq_true, false_iff, not_exists]; exact h

theorem find?_ne_directory_of_obstacle?_eq_none (h : tree.obstacle? location = none) :
    tree.find? location ≠ some .directory := by
  intro hdirectory
  rw [obstacle?, hdirectory] at h
  cases h

theorem ne_nil_of_obstacle?_eq_none (h : tree.obstacle? location = none) : location ≠ [] := by
  rintro rfl
  exact find?_ne_directory_of_obstacle?_eq_none h rfl

/-- The text of a file depends on nothing but what stands there and whether it may be read. -/
theorem readText_congr (hfile : other.isFile location = true)
    (hfind : tree.find? location = other.find? location) (hrefuses : tree.refuses = other.refuses) :
    tree.readText location = other.readText location := by
  obtain ⟨bytes, hbytes⟩ := isFile_iff.1 hfile
  rw [readText, readText, read, read, hfind, hbytes, hrefuses]

end FileTree

/-! ### One step -/

/-- What a job may do in one step. -/
inductive Job.Step (renderer : Renderer) (options : BuildOptions η) (job : Job) :
    Stage → FileTree → Stage → FileTree → Prop
  /-- The source cannot be read. -/
  | unread {tree e} (h : tree.readText job.source.location = .error e) :
      Step renderer options job .waiting tree
        (.finished (.error (.readFailed job.source.path e))) tree
  | read {tree text} (h : tree.readText job.source.location = .ok text) :
      Step renderer options job .waiting tree
        (.making (buildPage renderer options (job.source.names.getLastD "") text) []
          job.page.location.dropLast) tree
  /-- The next directory exists. -/
  | pass {tree page done name rest} (h : tree.find? (done ++ [name]) = some .directory) :
      Step renderer options job (.making page done (name :: rest)) tree
        (.making page (done ++ [name]) rest) tree
  | make {tree page done name rest} (hfree : tree.find? (done ++ [name]) = none)
      (hallowed : tree.refuses .writing (done ++ [name]) = false) :
      Step renderer options job (.making page done (name :: rest)) tree
        (.making page (done ++ [name]) rest) (tree.put (done ++ [name]) .directory)
  /-- A file is in the way of the next directory, or it is refused. -/
  | blocked {tree page done name rest e}
      (h : tree.makeDirectory (done ++ [name]) rest.isEmpty = (.error e, tree)) :
      Step renderer options job (.making page done (name :: rest)) tree
        (.finished (.error (.writeFailed job.page.path e))) tree
  /-- No file can be opened for the page. -/
  | obstructed {tree page done e} (h : tree.obstacle? job.page.location = some e) :
      Step renderer options job (.making page done []) tree
        (.finished (.error (.writeFailed job.page.path e))) tree
  | write {tree page done} (hopen : tree.obstacle? job.page.location = none)
      (hroom : ∀ n, tree.room job.page.location = some n → page.toUTF8.size ≤ n) :
      Step renderer options job (.making page done []) tree
        (.finished (.ok ())) (tree.put job.page.location (.file page.toUTF8))
  /-- Only the first bytes of the page have room. -/
  | truncate {tree page done n} (hopen : tree.obstacle? job.page.location = none)
      (hroom : tree.room job.page.location = some n) (hshort : n < page.toUTF8.size) :
      Step renderer options job (.making page done []) tree
        (.finished (.error (.writeFailed job.page.path .noRoom)))
        (tree.put job.page.location (.file (page.toUTF8.extract 0 n)))
  | ended {tree result} : Step renderer options job (.finished result) tree (.finished result) tree

theorem FileTree.makeDirectory_cases (tree : FileTree) (location : Location) (last : Bool) :
    tree.find? location = some .directory ∧ tree.makeDirectory location last = (.ok (), tree) ∨
      tree.find? location = none ∧ tree.refuses .writing location = false ∧
        tree.makeDirectory location last = (.ok (), tree.put location .directory) ∨
      ∃ e, tree.makeDirectory location last = (.error e, tree) := by
  rw [makeDirectory]
  cases hentry : tree.find? location with
  | none =>
    cases hallowed : tree.refuses .writing location with
    | true => exact .inr (.inr ⟨_, rfl⟩)
    | false => exact .inr (.inl ⟨rfl, rfl, rfl⟩)
  | some entry =>
    cases entry with
    | directory => exact .inl ⟨rfl, rfl⟩
    | file bytes => exact .inr (.inr ⟨_, rfl⟩)

/-- **A step of a job is one of these.** -/
theorem Job.step_advance (renderer : Renderer) (options : BuildOptions η) (job : Job)
    (stage : Stage) (tree : FileTree) :
    job.Step renderer options stage tree (job.advance renderer options stage tree).1
      (job.advance renderer options stage tree).2 := by
  match stage with
  | .waiting =>
    rw [advance]
    cases hread : tree.readText job.source.location with
    | error e => exact .unread hread
    | ok text => exact .read hread
  | .making page done (name :: rest) =>
    rw [advance]
    obtain ⟨hentry, hmake⟩ | ⟨hfree, hallowed, hmake⟩ | ⟨e, hmake⟩ :=
      tree.makeDirectory_cases (done ++ [name]) rest.isEmpty
    all_goals simp only [hmake]
    · exact .pass hentry
    · exact .make hfree hallowed
    · exact .blocked hmake
  | .making page done [] =>
    rw [advance, FileTree.write]
    cases hopen : tree.obstacle? job.page.location with
    | some e => exact .obstructed hopen
    | none =>
      cases hroom : tree.room job.page.location with
      | none => exact .write hopen fun n hn => by rw [hroom] at hn; cases hn
      | some n =>
        by_cases hfits : page.toUTF8.size ≤ n
        · simp only [if_pos hfits]
          refine .write hopen fun m hm => ?_
          rw [hroom, Option.some.injEq] at hm
          exact hm ▸ hfits
        · simp only [if_neg hfits]
          exact .truncate hopen hroom (Nat.lt_of_not_le hfits)
  | .finished result => exact .ended

/-! ### What a step leaves alone -/

/-- How a step of a job may change what stands at a location. -/
inductive Job.Change (job : Job) (stage : Stage) (tree next : FileTree) (location : Location) :
    Prop
  | kept (h : next.find? location = tree.find? location)
  /-- A directory is made where nothing stands. -/
  | made {page done name rest} (hstage : stage = .making page done (name :: rest))
      (hlocation : location = done ++ [name]) (hfree : tree.find? location = none)
      (hallowed : tree.refuses .writing location = false)
      (hmade : next.find? location = some .directory)
  /-- The page is written where no directory stands. -/
  | wrote {page done bytes} (hstage : stage = .making page done [])
      (hlocation : location = job.page.location) (hfree : tree.find? location ≠ some .directory)
      (hwrote : next.find? location = some (.file bytes))

namespace Job

variable {job : Job} {stage stage' : Stage} {tree tree' : FileTree} {location : Location}

theorem Step.refuses_eq (h : job.Step renderer options stage tree stage' tree') :
    tree'.refuses = tree.refuses := by
  cases h <;> rfl

theorem Step.room_eq (h : job.Step renderer options stage tree stage' tree') :
    tree'.room = tree.room := by
  cases h <;> rfl

theorem change_put_page {page : String} {done : Location}
    (hopen : tree.obstacle? job.page.location = none) (bytes : ByteArray) (location : Location) :
    job.Change (.making page done []) tree (tree.put job.page.location (.file bytes)) location := by
  have hne := FileTree.ne_nil_of_obstacle?_eq_none hopen
  by_cases hsame : location = job.page.location
  · subst hsame
    exact .wrote rfl rfl (FileTree.find?_ne_directory_of_obstacle?_eq_none hopen)
      (FileTree.find?_put_self hne _)
  · exact .kept (FileTree.find?_put_of_ne hne hsame _)

/-- A step changes at most the location that it makes or writes. -/
theorem Step.change (h : job.Step renderer options stage tree stage' tree')
    (location : Location) : job.Change stage tree tree' location := by
  cases h with
  | unread => exact .kept rfl
  | read => exact .kept rfl
  | pass => exact .kept rfl
  | @make _ _ done name _ hfree hallowed =>
    have hne : done ++ [name] ≠ [] := List.concat_ne_nil _ _
    by_cases hsame : location = done ++ [name]
    · subst hsame
      exact .made rfl rfl hfree hallowed (FileTree.find?_put_self hne _)
    · exact .kept (FileTree.find?_put_of_ne hne hsame _)
  | blocked => exact .kept rfl
  | obstructed => exact .kept rfl
  | write hopen => exact change_put_page hopen _ location
  | truncate hopen => exact change_put_page hopen _ location
  | ended => exact .kept rfl

/-- Directories stay directories. -/
theorem Change.find?_eq_directory (h : job.Change stage tree tree' location)
    (hdirectory : tree.find? location = some .directory) :
    tree'.find? location = some .directory := by
  cases h with
  | kept hkept => rw [hkept, hdirectory]
  | made _ _ hfree =>
    rw [hdirectory] at hfree
    cases hfree
  | wrote _ _ hfree => exact (hfree hdirectory).elim

/-- What stands somewhere is only changed where it stands at the location of the page. -/
theorem Change.find?_eq_of_ne (h : job.Change stage tree tree' location)
    (hsome : tree.find? location ≠ none) (hne : job.page.location ≠ location) :
    tree'.find? location = tree.find? location := by
  cases h with
  | kept hkept => exact hkept
  | made _ _ hfree => exact (hsome hfree).elim
  | wrote _ hlocation => exact (hne hlocation.symm).elim

end Job

/-! ### The invariant -/

/-- What is known of a job from where it stands; the build has started from another file tree. -/
inductive Stage.Sound (renderer : Renderer) (options : BuildOptions η) (start : FileTree)
    (job : Job) (tree : FileTree) : Stage → Prop
  | waiting : Sound renderer options start job tree .waiting
  /-- The page is that of the first content, and directories exist up to `done`. -/
  | making {text done rest} (hread : start.readText job.source.location = .ok text)
      (hway : done ++ rest = job.page.location.dropLast)
      (hdone : tree.find? done = some .directory) :
      Sound renderer options start job tree
        (.making (buildPage renderer options (job.source.names.getLastD "") text) done rest)
  /-- The page of the first content stands in its place. -/
  | written {text} (hread : start.readText job.source.location = .ok text)
      (hpage : tree.find? job.page.location = some (.file
        (buildPage renderer options (job.source.names.getLastD "") text).toUTF8)) :
      Sound renderer options start job tree (.finished (.ok ()))
  | unread {e} (hread : start.readText job.source.location = .error e) :
      Sound renderer options start job tree
        (.finished (.error (.readFailed job.source.path e)))
  | unwritten {e} :
      Sound renderer options start job tree
        (.finished (.error (.writeFailed job.page.path e)))

namespace Stage.Sound

variable {start tree next : FileTree} {job other : Job} {stage stage' : Stage}

theorem of_making {page : String} {done : Location} {rest : List String}
    (h : Stage.Sound renderer options start job tree (.making page done rest)) :
    done ++ rest = job.page.location.dropLast ∧ tree.find? done = some .directory := by
  cases h with
  | making _ hway hdone => exact ⟨hway, hdone⟩

/-- A step of its own keeps what is known of a job. -/
theorem step (h : stage.Sound renderer options start job tree)
    (hsource : tree.readText job.source.location = start.readText job.source.location)
    (hstep : job.Step renderer options stage tree stage' next) :
    stage'.Sound renderer options start job next := by
  cases hstep with
  | unread hread => exact .unread (hsource ▸ hread)
  | read hread => exact .making (hsource ▸ hread) (List.nil_append _) rfl
  | pass hentry =>
    cases h with
    | making hread hway => exact .making hread (List.append_cons _ _ _ ▸ hway) hentry
  | make =>
    cases h with
    | making hread hway =>
      exact .making hread (List.append_cons _ _ _ ▸ hway)
        (FileTree.find?_put_self (List.concat_ne_nil _ _) _)
  | blocked => exact .unwritten
  | obstructed => exact .unwritten
  | write hopen =>
    cases h with
    | making hread =>
      exact .written hread
        (FileTree.find?_put_self (FileTree.ne_nil_of_obstacle?_eq_none hopen) _)
  | truncate => exact .unwritten
  | ended => exact h

/-- A step of a job with another page keeps it as well. -/
theorem of_change (h : stage.Sound renderer options start job tree)
    (hchange : ∀ location, other.Change stage' tree next location)
    (hne : other.page.location ≠ job.page.location) :
    stage.Sound renderer options start job next := by
  cases h with
  | waiting => exact .waiting
  | making hread hway hdone =>
    exact .making hread hway ((hchange _).find?_eq_directory hdone)
  | written hread hpage =>
    refine .written hread ?_
    rw [(hchange _).find?_eq_of_ne (by rw [hpage]; exact Option.some_ne_none _) hne, hpage]
  | unread hread => exact .unread hread
  | unwritten => exact .unwritten

end Stage.Sound

namespace BuildState

variable {jobs : List Job} {start : FileTree} {state : BuildState} {job other : Job}

theorem tree_advance (state : BuildState) (job : Job) :
    (state.advance renderer options job).tree =
      (job.advance renderer options (state.stage job) state.tree).2 := rfl

theorem stage_advance_self (state : BuildState) (job : Job) :
    (state.advance renderer options job).stage job =
      (job.advance renderer options (state.stage job) state.tree).1 := if_pos rfl

theorem stage_advance_of_ne (h : other ≠ job) (state : BuildState) :
    (state.advance renderer options job).stage other = state.stage other := if_neg h

/-- What is known of a state that jobs have brought about from a file tree. -/
structure IsSound (renderer : Renderer) (options : BuildOptions η) (jobs : List Job)
    (start : FileTree) (state : BuildState) : Prop where
  refuses_eq : state.tree.refuses = start.refuses
  room_eq : state.tree.room = start.room
  /-- What has stood somewhere at first is still there, save at the places of pages. -/
  kept : ∀ location, start.find? location ≠ none →
    (∀ job ∈ jobs, job.page.location ≠ location) →
    state.tree.find? location = start.find? location
  sound : ∀ job ∈ jobs, (state.stage job).Sound renderer options start job state.tree

/-- The sources of jobs are read as they were at first. -/
theorem IsSound.readText_eq (h : state.IsSound renderer options jobs start)
    (hsensible : Sensible start jobs) (hjob : job ∈ jobs) :
    state.tree.readText job.source.location = start.readText job.source.location := by
  have hfile := hsensible.isFile job hjob
  refine FileTree.readText_congr hfile (h.kept _ ?_ ?_) h.refuses_eq
  · obtain ⟨bytes, hbytes⟩ := FileTree.isFile_iff.1 hfile
    rw [hbytes]
    exact Option.some_ne_none _
  · exact fun other hother => hsensible.apart other hother job hjob

/-- A step of one of the jobs keeps what is known of a state. -/
theorem IsSound.advance (h : state.IsSound renderer options jobs start)
    (hsensible : Sensible start jobs) (hjob : job ∈ jobs) :
    (state.advance renderer options job).IsSound renderer options jobs start := by
  have hstep := job.step_advance renderer options (state.stage job) state.tree
  refine ⟨hstep.refuses_eq.trans h.refuses_eq, hstep.room_eq.trans h.room_eq, ?_, ?_⟩
  · intro location hsome hnone
    have hkept := h.kept location hsome hnone
    rw [tree_advance, (hstep.change location).find?_eq_of_ne (hkept ▸ hsome) (hnone job hjob),
      hkept]
  · intro other hother
    by_cases hsame : other = job
    · subst hsame
      rw [stage_advance_self]
      exact (h.sound other hother).step (h.readText_eq hsensible hother) hstep
    · rw [stage_advance_of_ne hsame]
      exact (h.sound other hother).of_change hstep.change
        fun hpage => hsame (hsensible.unique other hother job hjob hpage.symm)

end BuildState

/-- **All states that jobs may reach are sound.** -/
theorem Reached.isSound {jobs : List Job} {start : FileTree} {state : BuildState}
    (h : Reached renderer options jobs start state) (hsensible : Sensible start jobs) :
    state.IsSound renderer options jobs start := by
  induction h with
  | start => exact ⟨rfl, rfl, fun _ _ _ => rfl, fun _ _ => .waiting⟩
  | step _ hjob ih => exact ih.advance hsensible hjob

/-! ### Jobs that run to their end -/

/-- The result of a job that goes on alone from where it stands, and the tree that it leaves. -/
def Job.finish (renderer : Renderer) (options : BuildOptions η) (job : Job) :
    Stage → FileTree → Except BuildError Unit × FileTree
  | .waiting, tree => job.run renderer options tree
  | .making page done rest, tree =>
    match FileTree.makeDirectoriesFrom done rest tree with
    | (.error e, tree) => (.error (.writeFailed job.page.path e), tree)
    | (.ok (), tree) =>
      match tree.write job.page.location page.toUTF8 with
      | (.ok (), tree) => (.ok (), tree)
      | (.error e, tree) => (.error (.writeFailed job.page.path e), tree)
  | .finished result, tree => (result, tree)

/-- A job comes to the same end from its next step. -/
theorem Job.finish_advance (job : Job) (stage : Stage) (tree : FileTree) :
    job.finish renderer options (job.advance renderer options stage tree).1
        (job.advance renderer options stage tree).2 =
      job.finish renderer options stage tree := by
  match stage with
  | .waiting =>
    rw [advance, finish, run]
    cases tree.readText job.source.location with
    | error e => rfl
    | ok text =>
      simp only [finish, FileTree.writeFile, FileTree.makeDirectories]
      cases FileTree.makeDirectoriesFrom [] job.page.location.dropLast tree with
      | mk result next =>
        cases result with
        | ok => rfl
        | error e => rfl
  | .making page done (name :: rest) =>
    rw [advance, finish, FileTree.makeDirectoriesFrom]
    cases hmake : tree.makeDirectory (done ++ [name]) rest.isEmpty with
    | mk result next =>
      cases result with
      | ok => rfl
      | error e => rfl
  | .making page done [] =>
    rw [advance, finish, FileTree.makeDirectoriesFrom]
    cases hwrite : tree.write job.page.location page.toUTF8 with
    | mk result next =>
      cases result with
      | ok => simp only [finish, hwrite]
      | error e => simp only [finish, hwrite]
  | .finished result => rfl

/-- How many steps a job has at most before it. -/
def Stage.left (job : Job) : Stage → Nat
  | .waiting => job.page.location.dropLast.length + 2
  | .making _ _ rest => rest.length + 1
  | .finished _ => 0

theorem Job.Step.left_lt {job : Job} {stage stage' : Stage} {tree tree' : FileTree}
    (h : job.Step renderer options stage tree stage' tree') (hleft : 0 < stage.left job) :
    stage'.left job < stage.left job := by
  cases h with
  | ended => exact hleft
  | read | pass | make => exact Nat.lt_succ_self _
  | unread | blocked | obstructed | write | truncate => exact Nat.succ_pos _

namespace BuildState

variable {jobs : List Job} {start : FileTree} {state : BuildState} {job : Job}

/-- The state after a job has gone on alone to its end. -/
def finish (renderer : Renderer) (options : BuildOptions η) (state : BuildState) (job : Job) :
    BuildState :=
  ⟨(job.finish renderer options (state.stage job) state.tree).2, fun other =>
    if other = job then .finished (job.finish renderer options (state.stage job) state.tree).1
    else state.stage other⟩

theorem stage_finish_self (state : BuildState) (job : Job) :
    (state.finish renderer options job).stage job =
      .finished (job.finish renderer options (state.stage job) state.tree).1 := if_pos rfl

theorem stage_finish_of_ne {other : Job} (h : other ≠ job) (state : BuildState) :
    (state.finish renderer options job).stage other = state.stage other := if_neg h

theorem tree_finish_of_waiting (h : state.stage job = .waiting) :
    (state.finish renderer options job).tree = (job.run renderer options state.tree).2 := by
  rw [finish, h]
  rfl

theorem stage_finish_of_waiting (h : state.stage job = .waiting) :
    (state.finish renderer options job).stage job =
      .finished (job.run renderer options state.tree).1 := by
  rw [stage_finish_self, h]
  rfl

theorem finish_advance (state : BuildState) (job : Job) :
    (state.advance renderer options job).finish renderer options job =
      state.finish renderer options job := by
  rw [finish, tree_advance, stage_advance_self, Job.finish_advance, finish]
  refine congrArg (BuildState.mk _) (funext fun other => ?_)
  split
  · rfl
  · rw [stage_advance_of_ne ‹_›]

theorem finish_of_finished {result : Except BuildError Unit}
    (h : state.stage job = .finished result) : state.finish renderer options job = state := by
  rw [finish, h]
  refine congrArg (BuildState.mk _) (funext fun other => ?_)
  split
  · rw [‹other = job›, h]
    rfl
  · rfl

end BuildState

/-- Whatever other jobs have done, a job may go on alone to its end. -/
theorem Reached.finish {jobs : List Job} {start : FileTree} {state : BuildState} {job : Job}
    (h : Reached renderer options jobs start state) (hjob : job ∈ jobs) :
    Reached renderer options jobs start (state.finish renderer options job) := by
  -- Each step leaves fewer steps before the job, and the end is the same from the next state.
  induction hleft : (state.stage job).left job using Nat.strongRecOn generalizing state with
  | ind n ih =>
    subst hleft
    by_cases hover : 0 < (state.stage job).left job
    · rw [← BuildState.finish_advance]
      refine ih _ ?_ (h.step hjob) rfl
      rw [BuildState.stage_advance_self]
      exact (job.step_advance renderer options (state.stage job) state.tree).left_lt hover
    · cases hstage : state.stage job with
      | finished result => rwa [BuildState.finish_of_finished hstage]
      | waiting => rw [hstage] at hover; exact (hover (Nat.succ_pos _)).elim
      | making => rw [hstage] at hover; exact (hover (Nat.succ_pos _)).elim

/-! ### Jobs that run one after the other -/

section InOrder

variable {jobs : List Job} {start tree : FileTree} {state : BuildState} {job : Job}

theorem runJobs_cons (renderer : Renderer) (options : BuildOptions η) (job : Job) (rest : List Job)
    (tree : FileTree) :
    runJobs renderer options (job :: rest) tree =
      ((job, (job.run renderer options tree).1) ::
          (runJobs renderer options rest (job.run renderer options tree).2).1,
        (runJobs renderer options rest (job.run renderer options tree).2).2) := rfl

theorem map_fst_runJobs (renderer : Renderer) (options : BuildOptions η) (order : List Job)
    (tree : FileTree) : (runJobs renderer options order tree).1.map Prod.fst = order := by
  induction order generalizing tree with
  | nil => rfl
  | cons job rest ih => rw [runJobs_cons, List.map_cons, ih]

theorem lookup_runJobs_eq_none {order : List Job} (h : job ∉ order) (tree : FileTree) :
    (runJobs renderer options order tree).1.lookup job = none := by
  rw [List.lookup_eq_none_iff]
  intro entry hentry
  rw [bne_iff_ne]
  rintro rfl
  rw [← map_fst_runJobs renderer options order tree] at h
  exact h (List.mem_map_of_mem hentry)

/-- The state after some jobs have gone on one after the other, each to its end. -/
def BuildState.finishAll (renderer : Renderer) (options : BuildOptions η) (state : BuildState)
    (order : List Job) : BuildState :=
  order.foldl (·.finish renderer options) state

theorem Reached.finishAll (h : Reached renderer options jobs start state) {order : List Job}
    (horder : order ⊆ jobs) :
    Reached renderer options jobs start (state.finishAll renderer options order) := by
  induction order generalizing state with
  | nil => exact h
  | cons job rest ih =>
    rw [List.cons_subset] at horder
    exact ih (h.finish horder.1) horder.2

/-- Jobs that wait and go on one after the other leave the tree that running them leaves, and have
the same results. -/
theorem finishAll_eq_runJobs {order : List Job} (hnodup : order.Nodup)
    (hwaiting : ∀ job ∈ order, state.stage job = .waiting) :
    (state.finishAll renderer options order).tree =
        (runJobs renderer options order state.tree).2 ∧
      ∀ job, (state.finishAll renderer options order).stage job =
        (((runJobs renderer options order state.tree).1.lookup job).map Stage.finished).getD
          (state.stage job) := by
  induction order generalizing state with
  | nil => exact ⟨rfl, fun _ => rfl⟩
  | cons job rest ih =>
    obtain ⟨hnot, hrest⟩ := List.nodup_cons.1 hnodup
    have hjob := hwaiting job List.mem_cons_self
    have hothers : ∀ other ∈ rest, (state.finish renderer options job).stage other = .waiting := by
      intro other hother
      have hne : other ≠ job := fun hsame => hnot (hsame ▸ hother)
      rw [BuildState.stage_finish_of_ne hne, hwaiting other (List.mem_cons_of_mem _ hother)]
    obtain ⟨htree, hstage⟩ := ih hrest hothers
    rw [BuildState.tree_finish_of_waiting hjob] at htree hstage
    rw [BuildState.finishAll, List.foldl_cons, runJobs_cons]
    refine ⟨htree, fun other => ?_⟩
    rw [← BuildState.finishAll, hstage, List.lookup_cons]
    by_cases hsame : other = job
    · subst hsame
      rw [lookup_runJobs_eq_none hnot, beq_self_eq_true]
      exact BuildState.stage_finish_of_waiting hjob
    · rw [beq_false_of_ne hsame, BuildState.stage_finish_of_ne hsame]

end InOrder

end Folio
