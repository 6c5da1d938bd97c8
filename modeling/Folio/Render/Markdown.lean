import Folio.Markdown.Events
import Folio.Markdown.Html
import Folio.Markdown.Typeset

/-!
# Markdown as markup

## Main definitions

* `Folio.compileMarkdown`: the markup of a Markdown document, with the headings recorded on the way.
-/

namespace Folio

/-- The markup of a Markdown document, and the headings recorded with it. -/
def compileMarkdown (renderer : Renderer) (source : String) (headings : Headings) :
    String × Headings :=
  let (events, headings) :=
    Markdown.typeset renderer (Markdown.events renderer.config.markdown source) headings
  (Markdown.eventsHtml events, headings)

end Folio
