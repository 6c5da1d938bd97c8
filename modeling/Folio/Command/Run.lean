import Folio.Build
import Folio.Command.Command
import Folio.Config.OfToml
import Folio.Config.ToToml
import Folio.Render.OutlineText

/-!
# Running commands

A command reads from a file tree and from its input, and leaves a text, a changed file tree, and a
message when it fails. The library of grammars and themes that it highlights with is a parameter.

## Main definitions

* `Folio.Outcome`: what a command leaves.
* `Folio.Command.run`: runs a command.
* `Folio.runArguments`: runs what the arguments of the program ask for.
-/

namespace Folio

/-- Why a configuration cannot be loaded. -/
inductive ConfigError where
  | io (error : IoError)
  | malformed
  deriving DecidableEq, Repr

/-- The text of an error; that of a malformed text says no more than that. -/
def ConfigError.message : ConfigError → String
  | .io error => "IO error: " ++ error.message
  | .malformed => "TOML parse error"

/-- The configuration in the file that a path names. -/
def FileTree.loadConfig (tree : FileTree) (path : String) : Except ConfigError Config :=
  match tree.readPath path with
  | .error e => .error (.io e)
  | .ok text =>
    match Config.read? text with
    | some config => .ok config
    | none => .error .malformed

/-- The same, with the default configuration where there is no such file. -/
def FileTree.loadConfigOrDefault (tree : FileTree) (path : String) : Except ConfigError Config :=
  if tree.hasPath path then tree.loadConfig path else .ok {}

/-- A tree after a configuration was saved in the file that a path names. The directory of the file
has to exist. -/
def FileTree.saveConfig (tree : FileTree) (path : String) (config : Config) :
    Except ConfigError Unit × FileTree :=
  match tree.locate path with
  | .error e => (.error (.io e), tree)
  | .ok location =>
    let (result, tree) := tree.write location config.text.toUTF8
    (result.mapError .io, tree)

/-- What a command leaves. -/
structure Outcome where
  /-- Zero for success, one for failure, two for arguments that are not understood. -/
  code : Nat := 0
  /-- The text that is printed. -/
  output : String := ""
  /-- Why the command has failed. -/
  error : Option String := none
  /-- The file tree afterwards. -/
  tree : FileTree

/-- A command that has failed after it printed a text. -/
def Outcome.failed (tree : FileTree) (message output : String) : Outcome :=
  { code := 1, output, error := some message, tree }

/-- A command that a failing step ends. -/
def Outcome.ofExcept (tree : FileTree) : Except String Outcome → Outcome
  | .ok outcome => outcome
  | .error message => .failed tree message ""

/-- The line that says where a command has written to. -/
def writtenLine (path : String) : String := "✓ Successfully wrote: " ++ path ++ "\n"

namespace Command

/-- The configuration in an explicit file, or else in the file that is looked for. -/
def configFor (tree : FileTree) (explicit : Option String) (fallback : String) :
    Except String Config :=
  let complaint (path : String) : String := "Failed to load configuration " ++ path
  match explicit with
  | some path => (tree.loadConfig path).mapError fun _ => complaint path
  | none => (tree.loadConfigOrDefault fallback).mapError fun _ => complaint fallback

/-- The path that stands for the input of the program instead of a file. -/
def inputPath : String := "-"

/-- The text to render. -/
def readInput (tree : FileTree) (stdin : ByteArray) (path : String) : Except String String :=
  if path == inputPath then
    match String.fromUTF8? stdin with
    | some text => .ok text
    | none => .error "Failed to read from stdin"
  else (tree.readPath path).mapError fun _ => "Failed to read " ++ path

/-- The name without extension of the file that a path names. -/
def titleOf (path : String) : Option String :=
  if path == inputPath then none else (Location.ofPath path).getLast?.map stem

/-- The styles of highlighted code on a page. -/
def stylesFor (library : GrammarLibrary) (config : Config) (highlight : Bool) :
    Except String (Option String) :=
  let theme := config.highlight.theme
  if highlight then
    ((library.styles theme).map some).mapError fun _ => "Failed to load theme '" ++ theme ++ "'"
  else .ok none

/-- Runs the command `render`. -/
def runRender (library : GrammarLibrary) (tree : FileTree) (stdin : ByteArray) (input : String)
    (output config : Option String) (page highlight : Bool) : Except String Outcome := do
  let config ← configFor tree config configFileName
  let text ← readInput tree stdin input
  let enhancer : Option (Enhancer Empty) :=
    if highlight then some { highlighter := some library.highlighter } else none
  let document := (Renderer.render { config } text).enhance enhancer
  let html ←
    if page then do
      let styles ← stylesFor library config highlight
      pure (pageHtml document config.page (titleOf input) styles)
    else pure document.html
  match output with
  | none => pure { output := html, tree }
  | some path =>
    match tree.writePath path html with
    | (.ok (), tree) => pure { output := writtenLine path, tree }
    | (.error _, tree) => pure (.failed tree ("Failed to write HTML to " ++ path) "")

/-- Runs the command `toc`. -/
def runOutline (tree : FileTree) (stdin : ByteArray) (input : String) (form : OutlineForm)
    (config : Option String) : Except String Outcome := do
  let config ← configFor tree config configFileName
  let text ← readInput tree stdin input
  let entries := Renderer.outlineOf { config } text
  match form with
  | .json => pure { output := (outlineToJson entries).pretty ++ "\n", tree }
  | .text => pure { output := outlineLines 0 entries, tree }

/-- The line about a source that was skipped. -/
def skippedLine (skipped : Place × BuildError) : String :=
  "✗ Skipped " ++ skipped.1.path ++ ": " ++ skipped.2.message ++ "\n"

/-- Runs the command `build`. -/
def runBuild (library : GrammarLibrary) (tree : FileTree) (input output : String)
    (config : Option String) : Except String Outcome := do
  let config ← configFor tree config (joinPath input [configFileName])
  let options : BuildOptions Empty := .ofConfig config library
  let start := "Building documents...\nInput: " ++ input ++ "\nOutput: " ++ output ++ "\n"
  match buildPaths { config } options input output tree with
  | (.error _, tree) => pure (.failed tree ("Failed to build " ++ input) start)
  | (.ok report, tree) =>
    let lines := String.join (report.skipped.map skippedLine)
    let printed :=
      start ++ lines ++ "\n✓ Wrote " ++ toString report.written.length ++ " pages\n"
    if report.skipped.isEmpty then pure { output := printed, tree }
    else
      let count := toString report.skipped.length
      pure (.failed tree (count ++ " documents could not be rendered") printed)

/-- The path of the directory that a path is in; empty for a path of one name. -/
def parentPath (path : String) : String :=
  let cs := Text.dropEnd (· == '/') path.toList
  String.ofList (Text.dropEnd (· == '/') (Text.dropEnd (· != '/') cs))

/-- Runs the command `init-config`. -/
def runInitConfig (tree : FileTree) (path : String) (force : Bool) : Outcome :=
  if tree.hasPath path && !force then
    .failed tree (path ++ " already exists. Use --force to overwrite it") ""
  else
    let parent := parentPath path
    match tree.makeDirectories (Location.ofPath parent) with
    | (.error _, tree) => .failed tree ("Failed to create directory " ++ parent) ""
    | (.ok (), tree) =>
      match tree.writePath path (Config.text {}) with
      | (.error _, tree) => .failed tree ("Failed to write " ++ path) ""
      | (.ok (), tree) => { output := writtenLine path, tree }

/-- Runs a command. -/
def run (library : GrammarLibrary) (command : Command) (tree : FileTree) (stdin : ByteArray) :
    Outcome :=
  match command with
  | .render input output config page highlight =>
    .ofExcept tree (runRender library tree stdin input output config page highlight)
  | .outline input form config => .ofExcept tree (runOutline tree stdin input form config)
  | .build input output config => .ofExcept tree (runBuild library tree input output config)
  | .initConfig path force => runInitConfig tree path force

end Command

/-- The text about the program and its commands. -/
def helpText : String :=
  "Render rich documents (document trees or Markdown) to HTML\n\n" ++
    "Usage: richdoc <COMMAND>\n\nCommands:\n" ++
    "  render       Render one document to an HTML fragment or page\n" ++
    "  toc          Print the table of contents of a document\n" ++
    "  build        Render every document under a directory to HTML pages\n" ++
    "  init-config  Write a default richdoc.toml\n" ++
    "  help         Print this message\n\nOptions:\n" ++
    "  -h, --help     Print help\n  -V, --version  Print version\n"

/-- The name and the version of the program. -/
def versionText : String := "richdoc 0.1.0\n"

/-- Runs what the arguments of the program ask for, with the grammars and themes of a library. -/
def runArguments (arguments : List String) (tree : FileTree) (stdin : ByteArray)
    (library : GrammarLibrary := .standIn) : Outcome :=
  match Command.ofArguments arguments with
  | .ok command => command.run library tree stdin
  | .error .help => { output := helpText, tree }
  | .error .version => { output := versionText, tree }
  | .error .misuse => { code := 2, tree }

end Folio
