import Folio.Html.Escape

/-!
# Highlighting code

A highlighter turns code in a language into markup, or refuses. Its grammars, and the style sheets
of the themes, come from a library that is no part of the program. What the program asks of such a
library is a `GrammarLibrary`, from which it makes its highlighter and its style sheets.

`GrammarLibrary.standIn` stands in for a library where one is needed to run the program. It has no
grammars: it knows the outermost scopes of some languages and writes these around the whole code,
where a grammar finds scopes within the code as well. Its style sheets name their theme and have no
rules.

## Main definitions

* `Folio.Highlighter`: turns code into markup.
* `Folio.GrammarLibrary`: what the program needs of a library of grammars and themes.
* `Folio.GrammarLibrary.highlighter`, `Folio.GrammarLibrary.styles`: what it makes of one.
* `Folio.GrammarLibrary.standIn`: a stand-in for a library.
-/

namespace Folio

/-- Why code was not highlighted or a theme not loaded. -/
inductive HighlightError where
  | unsupportedLanguage (language : String)
  | highlightFailed (language message : String)
  | unknownTheme (theme : String)
  deriving DecidableEq, Repr

/-- The text of an error. -/
def HighlightError.message : HighlightError → String
  | .unsupportedLanguage language => "language not supported: " ++ language
  | .highlightFailed language message => "failed to highlight " ++ language ++ ": " ++ message
  | .unknownTheme theme => "unknown highlight theme: " ++ theme

/-- Turns code into markup that may stand in a code block. -/
structure Highlighter where
  /-- The markup of code in a language. -/
  highlight : (code language : String) → Except HighlightError String

/-- The token under which a library is asked for the grammar of a language. -/
def syntaxToken (language : String) : String :=
  match language with
  | "typescript" | "ts" | "javascript" => "js"
  | "python" => "py"
  | "rust" => "rs"
  | "ruby" => "rb"
  | "shell" | "bash" => "sh"
  | "csharp" => "cs"
  | "markdown" => "md"
  | "yml" => "yaml"
  | "text" | "plaintext" => "txt"
  | other => other

/-- What highlighting needs of a library of grammars and themes. -/
structure GrammarLibrary where
  /-- The markup of code by the grammar that a token finds, or the complaint of the grammar; `none`
  for a token that finds none. -/
  markup? : (token code : String) → Option (Except String String)
  /-- The style sheet of a theme, or the complaint about it; `none` for an unknown theme. -/
  styles? : (theme : String) → Option (Except String String)

namespace GrammarLibrary

/-- The highlighter with the grammars of a library. -/
def highlighter (library : GrammarLibrary) : Highlighter where
  highlight code language :=
    match library.markup? (syntaxToken language) code with
    | none => .error (.unsupportedLanguage language)
    | some result => result.mapError (.highlightFailed language)

/-- The style sheet of a theme of a library. -/
def styles (library : GrammarLibrary) (theme : String) : Except HighlightError String :=
  match library.styles? theme with
  | none => .error (.unknownTheme theme)
  | some result => result.mapError (.highlightFailed "css")

end GrammarLibrary

/-! ### The stand-in for a library -/

/-- The outermost scopes of the grammars that tokens find, the first around the others. -/
def languageScopes : List (String × List String) :=
  let source (token name : String) := (token, ["hl-source hl-" ++ name])
  [source "c" "c", source "clojure" "clojure", source "cpp" "c++", source "cs" "cs",
   source "css" "css", source "diff" "diff", source "erlang" "erlang", source "go" "go",
   source "haskell" "haskell", source "java" "java", source "js" "js", source "json" "json",
   source "lua" "lua", source "makefile" "makefile", source "ocaml" "ocaml", source "perl" "perl",
   source "py" "python", source "r" "r", source "rb" "ruby", source "rs" "rust",
   source "scala" "scala", source "sql" "sql", source "yaml" "yaml",
   ("html", ["hl-text hl-html hl-basic"]),
   ("latex", ["hl-text hl-tex hl-latex"]), ("tex", ["hl-text hl-tex hl-latex"]),
   ("md", ["hl-text hl-html hl-markdown"]),
   ("php", ["hl-embedding hl-php", "hl-text hl-html hl-basic"]),
   ("sh", ["hl-source hl-shell hl-bash"]),
   ("txt", ["hl-text hl-plain"]),
   ("xml", ["hl-text hl-xml"])]

/-- Markup within a span of each scope, the first outermost. -/
def withScopes (scopes : List String) (markup : String) : String :=
  scopes.foldr (fun scope inner => "<span class=\"" ++ scope ++ "\">" ++ inner ++ "</span>") markup

/-- The themes that have a style sheet. -/
def themeNames : List String :=
  ["InspiredGitHub", "Solarized (dark)", "Solarized (light)", "base16-eighties.dark",
   "base16-mocha.dark", "base16-ocean.dark", "base16-ocean.light"]

/-- A stand-in for a library. All code of a language gets the outermost scopes of the language and
no others, and empty code stays empty. The style sheet of a theme is a comment that names it. -/
def GrammarLibrary.standIn : GrammarLibrary where
  markup? token code :=
    (languageScopes.lookup token).map fun scopes =>
      .ok (if code.isEmpty then "" else withScopes scopes (Html.escape code))
  styles? theme :=
    if themeNames.contains theme then some (.ok ("/* theme " ++ theme ++ " */\n")) else none

/-- The highlighter of the stand-in for a library. -/
def builtinHighlighter : Highlighter := GrammarLibrary.standIn.highlighter

/-- The style sheet that the stand-in for a library has for a theme. -/
def themeStyles (theme : String) : Except HighlightError String :=
  GrammarLibrary.standIn.styles theme

end Folio
