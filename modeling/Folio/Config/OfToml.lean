import Folio.Config
import Folio.Toml.Reader

/-!
# Reading a configuration

Every section and every option of a configuration may be missing and has its default then. Keys
that are no options are passed over, but a value of the wrong type is refused. A section may also
be an array of its options in their order.

## Main definitions

* `Folio.Config.ofFields?`: the configuration that the fields of a text give.
* `Folio.Config.read?`: the configuration that a text gives.
-/

namespace Folio

/-- The options of a section. -/
inductive Section where
  | named (fields : Toml.Fields)
  | listed (items : List Toml.Value)

namespace Section

/-- The options that a value gives. A date counts as a section without options. -/
def ofValue? : Toml.Value → Option Section
  | .table _ fields => some (.named fields)
  | .array items => some (.listed items)
  | .tables items => some (.listed (items.reverse.map (.table .header)))
  | .dateTime _ => some (.named [])
  | _ => none

/-- The section with a name, without options when it is missing. -/
def find? (fields : Toml.Fields) (name : String) : Option Section :=
  match fields.lookup name with
  | some value => ofValue? value
  | none => some (.named [])

/-- The value of an option, given by its name or by its place. -/
def value? (options : Section) (name : String) (place : Nat) : Option Toml.Value :=
  match options with
  | .named fields => fields.lookup name
  | .listed items => items[place]?

/-- An option that is a truth value. -/
def flag? (options : Section) (name : String) (place : Nat) (default : Bool) : Option Bool :=
  match options.value? name place with
  | none => some default
  | some (.boolean value) => some value
  | some _ => none

/-- An option that is a text. -/
def text? (options : Section) (name : String) (place : Nat) (default : String) : Option String :=
  match options.value? name place with
  | none => some default
  | some (.string text) => some text
  | some _ => none

end Section

namespace Config

/-- The configuration that the fields of a text give. -/
def ofFields? (fields : Toml.Fields) : Option Config := do
  let headings ← Section.find? fields "headings"
  let markdown ← Section.find? fields "markdown"
  let highlight ← Section.find? fields "highlight"
  let page ← Section.find? fields "page"
  let base : Config := {}
  some {
    headings.anchorLinks := ← headings.flag? "anchor_links" 0 base.headings.anchorLinks
    markdown.tables := ← markdown.flag? "tables" 0 base.markdown.tables
    markdown.strikethrough := ← markdown.flag? "strikethrough" 1 base.markdown.strikethrough
    markdown.tasklists := ← markdown.flag? "tasklists" 2 base.markdown.tasklists
    markdown.allowRawHtml := ← markdown.flag? "allow_raw_html" 3 base.markdown.allowRawHtml
    highlight.enabled := ← highlight.flag? "enabled" 0 base.highlight.enabled
    highlight.theme := ← highlight.text? "theme" 1 base.highlight.theme
    page.title := ← page.text? "title" 0 base.page.title
    page.includeToc := ← page.flag? "include_toc" 1 base.page.includeToc }

/-- The configuration that a text gives. -/
def read? (text : String) : Option Config :=
  (Toml.read? text).bind ofFields?

end Config

end Folio
