import Folio.Command.Arguments

/-!
# Commands

## Main definitions

* `Folio.Command`: what a user asks for.
* `Folio.Command.ofArguments`: the command that the arguments of the program name.
-/

namespace Folio

/-- The name of the configuration file that is looked for. -/
def configFileName : String := "richdoc.toml"

/-- How an outline is printed. -/
inductive OutlineForm where
  | json
  | text
  deriving DecidableEq, Repr

/-- What a user asks for. -/
inductive Command where
  /-- Renders one document as markup or as a page. -/
  | render (input : String) (output config : Option String) (page highlight : Bool)
  /-- Prints the outline of a document. -/
  | outline (input : String) (form : OutlineForm) (config : Option String)
  /-- Makes a page for every document below a directory. -/
  | build (input output : String) (config : Option String)
  /-- Writes a configuration file with the default options. -/
  | initConfig (path : String) (force : Bool)
  deriving DecidableEq, Repr

namespace Command

/-- The option that every command has: it asks for messages about progress. -/
def verboseForm : OptionForm := { name := "verbose", letter := some 'v' }

/-- The option that names a configuration file. -/
def configForm : OptionForm := { name := "config", letter := some 'c', valued := true }

/-- The option that names where to write. -/
def outputForm : OptionForm := { name := "output", letter := some 'o', valued := true }

/-- The option that says how an outline is printed. -/
def outlineForm : OptionForm :=
  { name := "format", letter := some 'f', valued := true, choices := ["json", "text"] }

/-- Reads the arguments of the command `render`. -/
def readRender (arguments : List String) : Except Interruption Command := do
  let a ← Arguments.read
    [outputForm, configForm, { name := "page" }, { name := "highlight" }, verboseForm] 1 arguments
  match a.others with
  | input :: _ =>
    .ok (.render input (a.value? "output") (a.value? "config") (a.has "page") (a.has "highlight"))
  | [] => .error .misuse

/-- Reads the arguments of the command `toc`. -/
def readOutline (arguments : List String) : Except Interruption Command := do
  let a ← Arguments.read [outlineForm, configForm, verboseForm] 1 arguments
  match a.others with
  | input :: _ =>
    let form := if a.value? "format" == some "json" then OutlineForm.json else .text
    .ok (.outline input form (a.value? "config"))
  | [] => .error .misuse

/-- Reads the arguments of the command `build`. -/
def readBuild (arguments : List String) : Except Interruption Command := do
  let a ← Arguments.read [outputForm, configForm, verboseForm] 1 arguments
  .ok (.build (a.others.headD ".") ((a.value? "output").getD "html") (a.value? "config"))

/-- Reads the arguments of the command `init-config`. -/
def readInitConfig (arguments : List String) : Except Interruption Command := do
  let a ← Arguments.read [{ name := "force", letter := some 'f' }, verboseForm] 1 arguments
  .ok (.initConfig (a.others.headD configFileName) (a.has "force"))

/-- The names of the commands, each with what reads its arguments. -/
def readers : List (String × (List String → Except Interruption Command)) :=
  [("render", readRender), ("toc", readOutline), ("build", readBuild),
   ("init-config", readInitConfig)]

/-- What the letters after one hyphen ask for when they stand before a command. -/
def ofLetters : List Char → Interruption
  | 'h' :: _ => .help
  | 'V' :: _ => .version
  | _ => .misuse

/-- The command that the arguments of the program name. -/
def ofArguments : List String → Except Interruption Command
  | [] => .error .misuse
  | name :: arguments =>
    match readers.lookup name with
    | some read => read arguments
    | none =>
      if name == "--help" then .error .help
      else if name == "--version" then .error .version
      else if name == "help" then
        .error (if arguments.all fun other => (readers.lookup other).isSome then .help else .misuse)
      else
        match name.toList with
        | '-' :: letters => .error (ofLetters letters)
        | _ => .error .misuse

end Command

end Folio
