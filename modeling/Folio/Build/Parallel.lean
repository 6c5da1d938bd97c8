import Folio.Build

/-!
# Jobs side by side

The jobs of a build run at the same time. Each takes its steps one after the other: it reads its
source, makes the directories on the way to its page one by one, and writes the page. Nothing is
said about when it takes them, so that between two of its steps other jobs may take any of theirs;
that the jobs run one after the other in some order is one of the possibilities.

## Main definitions

* `Folio.Stage`: where a job stands.
* `Folio.Job.advance`: the next step of a job.
* `Folio.BuildState`: a file tree and where the jobs stand.
* `Folio.Reached`: the states that jobs may bring about.
* `Folio.BuildsTo`: what a build may end with.
* `Folio.buildInOrder`: the build whose jobs run one after the other in some order.
-/

namespace Folio

variable {η : Type}

/-- Where a job stands. -/
inductive Stage where
  /-- The source is still to be read. -/
  | waiting
  /-- The page is still to be written. Directories exist up to `done`, and `rest` leads on to the
  one for the page. -/
  | making (page : String) (done : Location) (rest : List String)
  /-- The job is over. -/
  | finished (result : Except BuildError Unit)

/-- The result of a job that is over. -/
def Stage.result? : Stage → Option (Except BuildError Unit)
  | .finished result => some result
  | _ => none

/-- The next step of a job from where it stands. -/
def Job.advance (renderer : Renderer) (options : BuildOptions η) (job : Job) :
    Stage → FileTree → Stage × FileTree
  | .waiting, tree =>
    match tree.readText job.source.location with
    | .error e => (.finished (.error (.readFailed job.source.path e)), tree)
    | .ok text =>
      (.making (buildPage renderer options (job.source.names.getLastD "") text) []
        job.page.location.dropLast, tree)
  | .making page done (name :: rest), tree =>
    match tree.makeDirectory (done ++ [name]) rest.isEmpty with
    | (.ok (), tree) => (.making page (done ++ [name]) rest, tree)
    | (.error e, tree) => (.finished (.error (.writeFailed job.page.path e)), tree)
  | .making page _ [], tree =>
    match tree.write job.page.location page.toUTF8 with
    | (.ok (), tree) => (.finished (.ok ()), tree)
    | (.error e, tree) => (.finished (.error (.writeFailed job.page.path e)), tree)
  | .finished result, tree => (.finished result, tree)

/-- A file tree and where the jobs stand that change it. -/
structure BuildState where
  tree : FileTree
  stage : Job → Stage

namespace BuildState

/-- The state after the next step of a job. -/
def advance (renderer : Renderer) (options : BuildOptions η) (state : BuildState) (job : Job) :
    BuildState :=
  let (stage, tree) := job.advance renderer options (state.stage job) state.tree
  ⟨tree, fun other => if other = job then stage else state.stage other⟩

/-- The results of those jobs that are over. -/
def results (state : BuildState) (jobs : List Job) : List (Job × Except BuildError Unit) :=
  jobs.filterMap fun job => (state.stage job).result?.map fun result => (job, result)

end BuildState

/-- The states that jobs may bring about from a file tree, whichever takes the next step. -/
inductive Reached (renderer : Renderer) (options : BuildOptions η) (jobs : List Job)
    (tree : FileTree) : BuildState → Prop
  | start : Reached renderer options jobs tree ⟨tree, fun _ => .waiting⟩
  | step {state : BuildState} {job : Job} (h : Reached renderer options jobs tree state)
    (hjob : job ∈ jobs) : Reached renderer options jobs tree (state.advance renderer options job)

/-- A build may end with a report and a file tree when its jobs may bring this tree about and are
over. The report keeps the order of the plan. -/
structure BuildsTo (renderer : Renderer) (options : BuildOptions η) (input output : Directory)
    (tree : FileTree) (report : BuildReport) (final : FileTree) : Prop where
  isDirectory : tree.isDirectory input.location = true
  ends : ∃ state, Reached renderer options (plan output (tree.sources input)).1 tree state ∧
    (∀ job ∈ (plan output (tree.sources input)).1, (state.stage job).result?.isSome = true) ∧
    report = .ofResults (state.results (plan output (tree.sources input)).1)
      (plan output (tree.sources input)).2 ∧
    final = state.tree

/-- The build whose jobs run one after the other in an order of their own, each to its end. -/
def buildInOrder (renderer : Renderer) (options : BuildOptions η) (input output : Directory)
    (order : List Job) (tree : FileTree) : BuildReport × FileTree :=
  let (jobs, skipped) := plan output (tree.sources input)
  let (results, final) := runJobs renderer options order tree
  (.ofResults (jobs.filterMap fun job => (results.lookup job).map fun result => (job, result))
    skipped, final)

end Folio
