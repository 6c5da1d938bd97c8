import Folio.Config
import Folio.Toml.Quoted

/-!
# Writing a configuration

The sections are written in their order with an empty line between them, each with its header and
a line for every option.

## Main definitions

* `Folio.Setting`: the value of an option.
* `Folio.Config.settings`: the options of a configuration by sections.
* `Folio.Config.text`: the text of a configuration.
-/

namespace Folio

/-- The value of an option. -/
inductive Setting where
  | flag (value : Bool)
  | text (value : String)
  deriving DecidableEq, Repr

/-- The value of an option as it is written. -/
def Setting.written : Setting → String
  | .flag true => "true"
  | .flag false => "false"
  | .text value => Toml.quote value

/-- The line of an option. -/
def optionLine (option : String × Setting) : String :=
  option.1 ++ " = " ++ option.2.written ++ "\n"

/-- The lines of a section. -/
def sectionLines (part : String × List (String × Setting)) : String :=
  "[" ++ part.1 ++ "]\n" ++ String.join (part.2.map optionLine)

/-- The text of sections. -/
def settingsText (parts : List (String × List (String × Setting))) : String :=
  String.intercalate "\n" (parts.map sectionLines)

namespace Config

/-- The options of a configuration by sections. -/
def settings (config : Config) : List (String × List (String × Setting)) :=
  [("headings", [("anchor_links", .flag config.headings.anchorLinks)]),
   ("markdown",
     [("tables", .flag config.markdown.tables),
      ("strikethrough", .flag config.markdown.strikethrough),
      ("tasklists", .flag config.markdown.tasklists),
      ("allow_raw_html", .flag config.markdown.allowRawHtml)]),
   ("highlight",
     [("enabled", .flag config.highlight.enabled),
      ("theme", .text config.highlight.theme)]),
   ("page",
     [("title", .text config.page.title),
      ("include_toc", .flag config.page.includeToc)])]

/-- The text of a configuration. -/
def text (config : Config) : String := settingsText config.settings

end Config

end Folio
