import Folio.Document.Mark
import Folio.Html.Escape

/-!
# Marks as markup

A marked text is escaped and then wrapped by its marks, the first one innermost.
-/

namespace Folio

open Document

/-- The title attribute of a tag, absent when the title is absent or empty. -/
def titleAttribute (title : Option String) : String :=
  match title with
  | some title => if title.isEmpty then "" else " title=\"" ++ Html.escape title ++ "\""
  | none => ""

/-- The opening tag of a link. It leads into a new window that learns nothing of the page. -/
def linkTag (href : String) (title : Option String) : String :=
  "<a href=\"" ++ Html.escape href ++ "\"" ++ titleAttribute title ++
    " target=\"_blank\" rel=\"noopener noreferrer\">"

/-- The markup of one mark around markup. -/
def Document.Mark.wrap (mark : Mark) (body : String) : String :=
  match mark.kind with
  | .bold => "<strong>" ++ body ++ "</strong>"
  | .italic => "<em>" ++ body ++ "</em>"
  | .code => "<code>" ++ body ++ "</code>"
  | .link => linkTag (mark.href?.getD "") mark.title? ++ body ++ "</a>"
  | .unknown _ => body

/-- The markup of a text with marks. -/
def markedText (text : String) (marks : List Mark) : String :=
  marks.foldl (fun body mark => mark.wrap body) (Html.escape text)

end Folio
