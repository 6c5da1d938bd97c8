/-!
# The style of pages

## Main definitions

* `Folio.pageStyle`: the rules for the parts of a page.
* `Folio.styleText`: the text of style rules.
-/

namespace Folio

/-- A rule: which elements it is for, and the properties that it gives to them. -/
structure StyleRule where
  selector : String
  declarations : List (String × String)
  deriving DecidableEq, Repr

/-- The text of a rule, after an empty line. -/
def StyleRule.text (rule : StyleRule) : String :=
  "\n" ++ rule.selector ++ " \x7b\n" ++
    String.join (rule.declarations.map fun (name, value) =>
      "    " ++ name ++ ": " ++ value ++ ";\n") ++
    "\x7d\n"

/-- The text of rules. -/
def styleText (rules : List StyleRule) : String := String.join (rules.map StyleRule.text)

/-- The rules for the parts of a page. -/
def pageStyle : List StyleRule :=
  [⟨"body",
    [("font-family",
      "-apple-system, BlinkMacSystemFont, \"Segoe UI\", Helvetica, Arial, sans-serif"),
     ("line-height", "1.6"), ("color", "#24292f"), ("margin", "0")]⟩,
   ⟨".container",
    [("max-width", "860px"), ("margin", "0 auto"), ("padding", "2rem 1.5rem")]⟩,
   ⟨".table-of-contents",
    [("border-left", "3px solid #d0d7de"), ("padding", "0.5rem 1rem"), ("margin-bottom", "2rem")]⟩,
   ⟨".toc-title",
    [("font-size", "1rem"), ("margin", "0 0 0.5rem")]⟩,
   ⟨".toc-list",
    [("list-style", "none"), ("margin", "0"), ("padding-left", "0")]⟩,
   ⟨".toc-list .toc-list",
    [("padding-left", "1rem")]⟩,
   ⟨".toc-link",
    [("color", "#57606a"), ("text-decoration", "none")]⟩,
   ⟨".document-body h1, .document-body h2, .document-body h3,\n" ++
      ".document-body h4, .document-body h5, .document-body h6",
    [("margin", "1.5em 0 0.5em"), ("line-height", "1.25")]⟩,
   ⟨".heading-anchor",
    [("margin-left", "0.4em"), ("color", "#8c959f"), ("text-decoration", "none"),
     ("visibility", "hidden")]⟩,
   ⟨".document-body :hover > .heading-anchor",
    [("visibility", "visible")]⟩,
   ⟨"blockquote",
    [("margin", "1em 0"), ("padding", "0 1em"), ("color", "#57606a"),
     ("border-left", "4px solid #d0d7de")]⟩,
   ⟨"code",
    [("font-family", "ui-monospace, SFMono-Regular, Menlo, Consolas, monospace"),
     ("font-size", "0.9em")]⟩,
   ⟨"pre",
    [("background", "#f6f8fa"), ("border-radius", "6px"), ("padding", "1em"),
     ("overflow-x", "auto")]⟩,
   ⟨"pre[data-copyable]",
    [("position", "relative")]⟩,
   ⟨"table",
    [("border-collapse", "collapse")]⟩,
   ⟨"th, td",
    [("border", "1px solid #d0d7de"), ("padding", "0.3em 0.8em")]⟩,
   ⟨"img",
    [("max-width", "100%")]⟩,
   ⟨"img[data-zoomable]",
    [("cursor", "zoom-in")]⟩,
   ⟨"a",
    [("color", "#0969da")]⟩]

end Folio
