import Folio.Enhance
import Folio.Files.Path
import Folio.Page.Page

/-!
# Building a directory of pages

Every source below a directory gets a page at the corresponding place below another. Pages are
claimed in the order of the sources before any source is read, so that of two sources with one page
the second is skipped. A source that cannot be read, or whose page cannot be written, is skipped as
well.

## Main definitions

* `Folio.FileTree.sources`: the sources below a directory.
* `Folio.pagePlace`: the place of the page of a source.
* `Folio.plan`: the jobs of a build and the sources that are skipped at once.
* `Folio.Job.run`: makes one page.
* `Folio.build`: makes all pages.
-/

namespace Folio

variable {η : Type}

/-- The extensions of sources, in small letters. -/
def sourceExtensions : List String := ["json", "md", "markdown"]

/-- Whether a file is a source by its name. -/
def isSourceName (name : String) : Bool :=
  match extension? name with
  | some found => sourceExtensions.contains (Html.lowerAscii found)
  | none => false

/-- The names that lead from one location to another below it. -/
def namesBelow? (root location : Location) : Option (List String) :=
  if root.isPrefixOf location && root.length < location.length then
    some (location.drop root.length)
  else none

/-- Whether some names come no later than others: the first names that differ decide, and a location
comes before those below it. -/
def namesInOrder : List String → List String → Bool
  | [], _ => true
  | _ :: _, [] => false
  | a :: as, b :: bs => if a = b then namesInOrder as bs else decide (a < b)

/-- Whether every directory from one on to a place below it may be read, so that the place is
found. -/
def FileTree.uncovers (tree : FileTree) (root : Location) (names : List String) : Bool :=
  (List.range names.length).all fun n => !tree.refuses .reading (root ++ names.take n)

/-- The sources below a directory, in the order of their names. -/
def FileTree.sources (tree : FileTree) (input : Directory) : List Place :=
  let found := (tree.files.filterMap (namesBelow? input.location)).filter fun names =>
    isSourceName (names.getLastD "") && tree.uncovers input.location names
  (found.mergeSort namesInOrder).map fun names => ⟨input, names⟩

/-- The place of the page of a source: the same name with another extension. A file whose stem is a
single dot, such as `..md`, gets the page `..html`. Implementations of paths do not agree about this
one: where `md` is taken off first, what is left is `..`, the directory above, and there is no
page. -/
def pagePlace (output : Directory) (source : Place) : Place :=
  ⟨output, source.names.dropLast ++ [stem (source.names.getLastD "") ++ ".html"]⟩

/-- What a build uses for the bodies and heads of its pages. -/
structure BuildOptions (η : Type) where
  /-- The enhancer for the bodies. -/
  enhancer : Option (Enhancer η) := none
  /-- Styles for highlighted code. -/
  styles : Option String := none

/-- The options that a configuration asks for, with the grammars and themes of a library. With an
unknown theme code is highlighted but has no styles. -/
def BuildOptions.ofConfig (config : Config) (library : GrammarLibrary := .standIn) :
    BuildOptions η :=
  if config.highlight.enabled then
    { enhancer := some { highlighter := some library.highlighter }
      styles := (library.styles config.highlight.theme).toOption }
  else {}

/-- Why a page, or a whole build, was not made. -/
inductive BuildError where
  | readFailed (source : String) (error : IoError)
  | writeFailed (page : String) (error : IoError)
  /-- The page belongs to an earlier source. -/
  | alreadyBuilt (page first : String)
  | notADirectory (input : String)
  deriving DecidableEq, Repr

/-- The text of an error. -/
def BuildError.message : BuildError → String
  | .readFailed source error => "IO error reading " ++ source ++ ": " ++ error.message
  | .writeFailed page error => "IO error writing " ++ page ++ ": " ++ error.message
  | .alreadyBuilt page first => "Page " ++ page ++ " is already built from " ++ first
  | .notADirectory input => "Input is not a directory: " ++ input

/-- A source and the place of its page. -/
structure Job where
  source : Place
  page : Place
  deriving DecidableEq, Repr

/-- The jobs for sources and those sources whose page is claimed already. -/
def planFrom (output : Directory) (claimed : List Job) :
    List Place → List Job × List (Place × BuildError)
  | [] => ([], [])
  | source :: rest =>
    let page := pagePlace output source
    match claimed.find? fun job => job.page == page with
    | some first =>
      let (jobs, skipped) := planFrom output claimed rest
      (jobs, (source, .alreadyBuilt page.path first.source.path) :: skipped)
    | none =>
      let (jobs, skipped) := planFrom output (claimed ++ [⟨source, page⟩]) rest
      (⟨source, page⟩ :: jobs, skipped)

/-- The jobs of a build, one for every page, and the sources that get none. -/
def plan (output : Directory) (sources : List Place) : List Job × List (Place × BuildError) :=
  planFrom output [] sources

/-- Renders the file that a path names. -/
def Renderer.renderFile (renderer : Renderer) (tree : FileTree) (path : String) :
    Except BuildError Rendered :=
  match tree.readPath path with
  | .ok text => .ok (renderer.render text)
  | .error e => .error (.readFailed path e)

/-- A rendered document whose markup an enhancer went over. -/
def Rendered.enhance (document : Rendered) (enhancer : Option (Enhancer η)) : Rendered :=
  match enhancer with
  | some enhancer => { document with html := enhanceHtml enhancer document.html }
  | none => document

/-- The page of a source with a name and a text. Its title is the stem of the name. Since names are
texts there is always one, and the title of the configuration, which is for documents without a
name, is on no page of a build. -/
def buildPage (renderer : Renderer) (options : BuildOptions η) (name text : String) : String :=
  pageHtml ((renderer.render text).enhance options.enhancer) renderer.config.page
    (some (stem name)) options.styles

/-- Makes the page of a job. -/
def Job.run (renderer : Renderer) (options : BuildOptions η) (job : Job) (tree : FileTree) :
    Except BuildError Unit × FileTree :=
  match tree.readText job.source.location with
  | .error e => (.error (.readFailed job.source.path e), tree)
  | .ok text =>
    let page := buildPage renderer options (job.source.names.getLastD "") text
    match tree.writeFile job.page.location page with
    | (.ok (), tree) => (.ok (), tree)
    | (.error e, tree) => (.error (.writeFailed job.page.path e), tree)

/-- Makes the pages of jobs one after the other. -/
def runJobs (renderer : Renderer) (options : BuildOptions η) :
    List Job → FileTree → List (Job × Except BuildError Unit) × FileTree
  | [], tree => ([], tree)
  | job :: rest, tree =>
    let (result, tree) := job.run renderer options tree
    let (results, tree) := runJobs renderer options rest tree
    ((job, result) :: results, tree)

/-- What a build has done. -/
structure BuildReport where
  /-- The pages written. -/
  written : List Place
  /-- The sources without a page of their own, and why. -/
  skipped : List (Place × BuildError)
  deriving Repr

/-- The report of a build whose jobs had some results. -/
def BuildReport.ofResults (results : List (Job × Except BuildError Unit))
    (skipped : List (Place × BuildError)) : BuildReport where
  written := results.filterMap fun (job, result) =>
    match result with
    | .ok () => some job.page
    | .error _ => none
  skipped := skipped ++ results.filterMap fun (job, result) =>
    match result with
    | .ok () => none
    | .error e => some (job.source, e)

/-- Makes a page for every source below a directory. -/
def build (renderer : Renderer) (options : BuildOptions η) (input output : Directory)
    (tree : FileTree) : Except BuildError BuildReport × FileTree :=
  if tree.isDirectory input.location then
    let (jobs, skipped) := plan output (tree.sources input)
    let (results, tree) := runJobs renderer options jobs tree
    (.ok (.ofResults results skipped), tree)
  else (.error (.notADirectory input.path), tree)

/-- Makes a page for every source below the directory that a path names. -/
def buildPaths (renderer : Renderer) (options : BuildOptions η) (input output : String)
    (tree : FileTree) : Except BuildError BuildReport × FileTree :=
  match tree.locate input with
  | .ok location =>
    build renderer options ⟨input, location⟩ ⟨output, Location.ofPath output⟩ tree
  | .error _ => (.error (.notADirectory input), tree)

end Folio
