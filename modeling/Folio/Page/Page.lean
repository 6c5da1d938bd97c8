import Folio.Page.Style
import Folio.Render.Rendered

/-!
# Pages

A page of its own holds the outline of a document, where the options ask for it, and then the
document.

## Main definitions

* `Folio.pageHtml`: the markup of a page.
-/

namespace Folio

/-- The head of a page, with styles beside those of every page. -/
def pageHead (title : String) (styles : String) : String :=
  "<!DOCTYPE html>\n<html lang=\"en\">\n<head>\n<meta charset=\"UTF-8\">\n" ++
    "<meta name=\"viewport\" content=\"width=device-width, initial-scale=1.0\">\n" ++
    "<title>" ++ Html.escape title ++ "</title>\n" ++
    "<style>\n" ++ styleText pageStyle ++ styles ++ "</style>\n</head>\n"

/-- The outline part of a page. -/
def pageOutline (options : PageOptions) (outline : List Entry) : String :=
  if options.includeToc then outlineHtml outline else ""

/-- The document part of a page. -/
def pageArticle (html : String) : String :=
  "<article class=\"document-body\">\n" ++ html ++ "</article>\n"

/-- The markup of a page. Without a title of its own it has that of the options. -/
def pageHtml (document : Rendered) (options : PageOptions) (title styles : Option String) :
    String :=
  pageHead (title.getD options.title) (styles.getD "") ++
    "<body>\n<div class=\"container\">\n" ++ pageOutline options document.outline ++
    pageArticle document.html ++ "</div>\n</body>\n</html>\n"

end Folio
