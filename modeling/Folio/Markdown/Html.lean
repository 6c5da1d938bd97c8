import Folio.Html.Escape
import Folio.Markdown.Event

/-!
# Events as markup

Events are written one after the other. Some blocks begin on a new line, so it is known whether the
output has just ended one; cells of a table depend on the row and the column; and the content of an
image is written as text, since it becomes the value of an attribute.

## Main definitions

* `Folio.Markdown.Output`: what is written, and what the next events depend on.
* `Folio.Markdown.eventsHtml`: the markup of events.
-/

namespace Folio.Markdown

/-- The entity of a character that text between tags cannot hold, or the character itself. -/
def escapeTextChar : Char → List Char
  | '&' => "&amp;".toList
  | '<' => "&lt;".toList
  | '>' => "&gt;".toList
  | c => [c]

/-- Text between tags: quotation marks stay. -/
def escapeText (s : String) : String :=
  String.ofList (s.toList.flatMap escapeTextChar)

/-- A hexadecimal digit in capitals. -/
def upperHex (n : Nat) : Char :=
  if n < 10 then Char.ofNat ('0'.toNat + n) else Char.ofNat ('A'.toNat + (n - 10))

/-- A byte as a percent sign and two digits. -/
def percentByte (b : UInt8) : List Char :=
  ['%', upperHex (b.toNat / 16), upperHex (b.toNat % 16)]

/-- A character of an address as it stands in an attribute: characters without a meaning in
addresses are given by their bytes. -/
def addressChar (c : Char) : List Char :=
  if c.isAlphanum || "!#$%()*+,-./:;=?@^_~".toList.contains c then [c]
  else if c == '&' then "&amp;".toList
  else if c == '\'' then "&#x27;".toList
  else (String.singleton c).toUTF8.toList.flatMap percentByte

/-- An address as it stands in an attribute. -/
def escapeAddress (s : String) : String :=
  String.ofList (s.toList.flatMap addressChar)

/-- The image whose content is being written. -/
structure OpenImage where
  title : String
  /-- How many tags are open in it. -/
  depth : Nat := 0
  deriving Repr

/-- What is written so far, and what the next events depend on. -/
structure Output where
  text : String := ""
  /-- Whether the text has just ended a line. -/
  lineEnded : Bool := true
  /-- The columns of the latest table. -/
  columns : List Alignment := []
  /-- The number of the next cell in its row. -/
  cell : Nat := 0
  /-- Whether rows belong to the head of the table. -/
  head : Bool := true
  image : Option OpenImage := none
  deriving Repr

namespace Output

/-- Writes a text that may be empty. -/
def write (o : Output) (s : String) : Output :=
  { o with
    text := o.text ++ s
    lineEnded := if s.isEmpty then o.lineEnded else s.back == '\n' }

/-- Writes a text on a new line. -/
def writeBlock (o : Output) (s : String) : Output :=
  o.write (if o.lineEnded then s else "\n" ++ s)

/-- Writes content that has been escaped. -/
def writeText (o : Output) (s : String) : Output :=
  { o with text := o.text ++ s, lineEnded := !s.isEmpty && s.back == '\n' }

/-- The style of a cell. -/
def alignmentStyle : Alignment → String
  | .unset => ""
  | .left => " style=\"text-align: left\""
  | .center => " style=\"text-align: center\""
  | .right => " style=\"text-align: right\""

/-- The tags that begin a code block. The class is for what stands after the fence up to a space; a
block without a fence, or with nothing there, has none. -/
def codeOpening (info : Option String) : String :=
  let language := (info.getD "").toList.takeWhile (· != ' ')
  if language.isEmpty then "<pre><code>"
  else "<pre><code class=\"language-" ++ Html.escape (String.ofList language) ++ "\">"

/-- Writes the start of what a tag encloses. -/
def writeStart (o : Output) (tag : Tag) : Output :=
  match tag with
  | .paragraph => o.writeBlock "<p>"
  | .heading level => o.writeBlock ("<h" ++ toString level ++ ">")
  | .quote => o.writeBlock "<blockquote>\n"
  | .codeBlock info => o.writeBlock (codeOpening info)
  | .htmlBlock => o
  | .list none => o.writeBlock "<ul>\n"
  | .list (some n) =>
    o.writeBlock (if n = 1 then "<ol>\n" else "<ol start=\"" ++ toString n ++ "\">\n")
  | .item => o.writeBlock "<li>"
  | .table columns => { o with columns }.write "<table>"
  | .tableHead => { o with head := true, cell := 0 }.write "<thead><tr>"
  | .tableRow => { o with cell := 0 }.write "<tr>"
  | .tableCell =>
    let style := alignmentStyle (o.columns[o.cell]?.getD .unset)
    o.write ((if o.head then "<th" else "<td") ++ style ++ ">")
  | .emphasis => o.write "<em>"
  | .strong => o.write "<strong>"
  | .strikethrough => o.write "<del>"
  | .link address title =>
    let title := if title.isEmpty then "" else "\" title=\"" ++ Html.escape title
    o.write ("<a href=\"" ++ escapeAddress address ++ title ++ "\">")
  | .image address title =>
    { o with image := some { title } }.write
      ("<img src=\"" ++ escapeAddress address ++ "\" alt=\"")

/-- Writes the end of what a tag encloses. -/
def writeStop (o : Output) (tag : Tag) : Output :=
  match tag with
  | .paragraph => o.write "</p>\n"
  | .heading level => o.write ("</h" ++ toString level ++ ">\n")
  | .quote => o.write "</blockquote>\n"
  | .codeBlock _ => o.write "</code></pre>\n"
  | .htmlBlock => o
  | .list none => o.write "</ul>\n"
  | .list (some _) => o.write "</ol>\n"
  | .item => o.write "</li>\n"
  | .table _ => o.write "</tbody></table>\n"
  | .tableHead => { o with head := false }.write "</tr></thead><tbody>\n"
  | .tableRow => o.write "</tr>\n"
  | .tableCell => { o with cell := o.cell + 1 }.write (if o.head then "</th>" else "</td>")
  | .emphasis => o.write "</em>"
  | .strong => o.write "</strong>"
  | .strikethrough => o.write "</del>"
  | .link _ _ => o.write "</a>"
  | .image _ _ => o

/-- Writes an event outside images. -/
def writePlain (o : Output) (event : Event) : Output :=
  match event with
  | .start tag => o.writeStart tag
  | .stop tag => o.writeStop tag
  | .text text => o.writeText (escapeText text)
  | .code text => o.write ("<code>" ++ escapeText text ++ "</code>")
  | .html markup | .inlineHtml markup => o.write markup
  | .softBreak => o.write "\n"
  | .hardBreak => o.write "<br />\n"
  | .rule => o.writeBlock "<hr />\n"
  | .taskMarker true => o.write "<input disabled=\"\" type=\"checkbox\" checked=\"\"/>\n"
  | .taskMarker false => o.write "<input disabled=\"\" type=\"checkbox\"/>\n"

/-- Ends an image. -/
def finishImage (o : Output) (image : OpenImage) : Output :=
  let title := if image.title.isEmpty then "" else "\" title=\"" ++ Html.escape image.title
  { o with image := none }.write (title ++ "\" />")

/-- Writes an event within an image. -/
def writeWithin (o : Output) (image : OpenImage) (event : Event) : Output :=
  match event with
  | .start _ => { o with image := some { image with depth := image.depth + 1 } }
  | .stop _ =>
    if image.depth = 0 then o.finishImage image
    else { o with image := some { image with depth := image.depth - 1 } }
  | .html _ => o
  | .inlineHtml text | .code text | .text text => o.writeText (Html.escape text)
  | .softBreak | .hardBreak | .rule => o.write " "
  | .taskMarker checked => o.write (if checked then "[x]" else "[ ]")

/-- Writes an event. -/
def writeEvent (o : Output) (event : Event) : Output :=
  match o.image with
  | some image => o.writeWithin image event
  | none => o.writePlain event

/-- Ends an image that is open at the end of the events. -/
def finish (o : Output) : Output :=
  match o.image with
  | some image => o.finishImage image
  | none => o

end Output

/-- The markup of events. -/
def eventsHtml (events : List Event) : String :=
  (events.foldl Output.writeEvent {}).finish.text

end Folio.Markdown
