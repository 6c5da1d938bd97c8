import Folio.Html.Escape
import Folio.Text.Blank

/-!
# Code blocks

Every code block of every document is written by one function, so that code is escaped and tagged
in one way and can be found again in finished markup.

## Main definitions

* `Folio.Html.languageTag`: the tag of a language, plain text when it is not a known one.
* `Folio.Html.codeBlock`: the markup of a code block.
-/

namespace Folio.Html

open Folio.Text

/-- The tag of code in no known language. -/
def plainLanguage : String := "plaintext"

/-- The language tags that a highlighter is expected to know. -/
def knownLanguages : List String :=
  ["bash", "c", "clojure", "cpp", "cs", "csharp", "css", "diff", "erlang", "go", "haskell",
   "html", "java", "javascript", "js", "json", "kotlin", "latex", "lua", "makefile", "markdown",
   "md", "objectivec", "ocaml", "perl", "php", "plaintext", "py", "python", "r", "rb", "ruby",
   "rs", "rust", "scala", "sh", "shell", "sql", "swift", "tex", "text", "toml", "ts",
   "typescript", "xml", "yaml", "yml"]

/-- Text with its ASCII capitals made small. -/
def lowerAscii (s : String) : String :=
  String.ofList (s.toList.map Char.toLower)

/-- The tag of a language: its name without outer white space and in small letters when that is a
known tag, else that of plain text. -/
def languageTag (language : Option String) : String :=
  match language with
  | none => plainLanguage
  | some name =>
    let tag := lowerAscii (trim name)
    if knownLanguages.contains tag then tag else plainLanguage

/-- The markup of a code block. -/
def codeBlock (language : Option String) (code : String) : String :=
  "<pre><code class=\"language-" ++ languageTag language ++ "\">" ++ escape code ++
    "</code></pre>\n"

end Folio.Html
